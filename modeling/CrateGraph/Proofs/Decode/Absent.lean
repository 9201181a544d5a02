import CrateGraph.Proofs.Decode.Rearranged

/-!
# Trees with keys taken out

A record that was written with all of its fields may reach a reader with some of them taken
out. A field with a default is then read as its default, and a field without one is missed. The
laws here follow any choice of keys through a record at once, so that what is said of a whole
record is again one equation: it decodes with the defaults in the places of what was taken out,
or fails with the first of its fields that is missed.

A field that is missed is noticed after all entries were visited, so several of them are met at
one place, and the first in the order of their declaration is reported. This is why `Gives`
carries one place for all that a reader may miss.

## Main results

* `Fields.reads_defaulted_without`, `Fields.reads_option_without`,
  `Fields.gives_required_without` — one field.
* `Fields.Gives.seq` — of two faults at one place the first one counts.
* `Decode.record_without` — a record is decoded field by field.
-/

namespace CrateGraph

/-! ## Entries that are left -/

namespace Value

/-- A table without the entries whose keys are gone; any other tree as it is. -/
def without (gone : String → Bool) : Value → Value
  | .table entries => .table (entries.filter fun e => !gone e.1)
  | v => v

/-- A table with the value of each entry changed; any other tree as it is. -/
def mapEntries (g : String → Value → Value) : Value → Value
  | .table entries => .table (entries.map fun e => (e.1, g e.1 e.2))
  | v => v

theorem lookup_without (gone : String → Bool) (entries : List (String × Value)) (key : String) :
    (entries.filter fun e => !gone e.1).lookup key =
      if gone key then none else entries.lookup key := by
  induction entries with
  | nil => simp
  | cons e entries ih =>
      rcases e with ⟨name, v⟩
      rw [List.filter_cons, List.lookup_cons]
      by_cases h : key = name
      · subst h
        cases hgone : gone key <;> simp [hgone, ih]
      · have hb : (key == name) = false := by simpa using h
        cases gone name <;> simp [hb, ih, List.lookup_cons]

theorem nodup_keys_without (gone : String → Bool) {entries : List (String × Value)}
    (h : (entries.map Prod.fst).Nodup) :
    ((entries.filter fun e => !gone e.1).map Prod.fst).Nodup :=
  h.sublist (List.filter_sublist.map Prod.fst)

/-- An entry that may be left out does not double a key if it does not when it is there. -/
theorem nodup_keys_entryIf {entries : List (String × Value)} {key : String}
    (h : (entries.map Prod.fst ++ [key]).Nodup) (present : Bool) (v : Value) :
    ((entries ++ entryIf present key v).map Prod.fst).Nodup := by
  rw [List.map_append]
  exact h.sublist ((List.Sublist.refl _).append (keys_entryIf_sublist present key v))

end Value

/-! ## Fields that may be missed -/

namespace Decode

variable {α : Type}

/-- What is decoded if there is no fault. -/
def orFault (fault : Option DecodeError) (a : α) : Except DecodeError α :=
  match fault with
  | none => .ok a
  | some e => .error e

end Decode

namespace Fields

variable {α β : Type} {o : Value → Value} {f : Format} {r : Reading} {place : Nat}
  {entries : List (String × Value)} {gone : String → Bool} {name : String} {d : Decoder α}
  {v : Value} {a : α} {fault : Option DecodeError}

/-- Why a field that must be there is missed, if it is gone. -/
def missed (gone : String → Bool) (name : String) : Option DecodeError :=
  if gone name then some (.missingField name) else none

/-- What fields read of a record, whichever fields were read before, unless they meet a fault at
a place. -/
def Gives (x : Fields α) (r : Reading) (place : Nat) (fault : Option DecodeError) (a : α) : Prop :=
  ∀ n, x.read n r = (Decode.orFault fault a).mapError (place, ·)

theorem Reads.gives {x : Fields α} (h : x.Reads r a) (place : Nat) : x.Gives r place none a := h

theorem Gives.map {x : Fields α} (h : x.Gives r place fault a) (g : α → β) :
    (g <$> x).Gives r place fault (g a) := by
  intro n
  show meet (.ok g) (x.read n r) = _
  rw [h n]
  cases fault <;> rfl

/-- Of two faults at one place the first one counts. -/
theorem Gives.seq {g : Fields (α → β)} {b : α → β} {x : Fields α} {fault' : Option DecodeError}
    (hg : g.Gives r place fault b) (hx : x.Gives r place fault' a) :
    (g <*> x).Gives r place (fault.or fault') (b a) := by
  intro n
  show meet (g.read n r) (x.read (n + g.count) r) = _
  rw [hg n, hx (n + g.count)]
  cases fault with
  | none => cases fault' <;> rfl
  | some e =>
      cases fault' with
      | none => rfl
      | some e' => simp [meet, Decode.orFault, Except.mapError]

theorem exists_findEntry (h : entries.lookup name = some v) :
    ∃ place, findEntry name 0 entries = some (place, v) := by
  cases hfind : findEntry name 0 entries with
  | none =>
      rw [(findEntry_eq_none_iff name 0 entries).1 hfind] at h
      cases h
  | some found =>
      have hfound : some found.2 = some v := (lookup_of_findEntry hfind).symm.trans h
      exact ⟨found.1, by rw [← Option.some.inj hfound]⟩

/-- A field with a default is read as it was written, or as its default if it is gone. -/
theorem reads_defaulted_without (name : String)
    (h : r.Shows o f (entries.filter fun e => !gone e.1))
    (hv : entries.lookup name = some v) (hd : d f (o v) = .ok a) (default : α) :
    (defaulted name d default).Reads r (if gone name then default else a) := by
  have hleft := Value.lookup_without gone entries name
  cases hgone : gone name with
  | true => exact reads_defaulted_of_none h (by rw [hleft, hgone]; rfl)
  | false => exact reads_defaulted h (by rw [hleft, hgone]; exact hv) hd default

/-- A field that may be left out is read as it was written, or as nothing if it is gone. -/
theorem reads_option_without (name : String) (encode : α → Value) (x : Option α)
    (h : r.Shows o f (entries.filter fun e => !gone e.1))
    (hv : entries.lookup name = x.map encode)
    (hd : ∀ a, Decode.option d f (o (encode a)) = .ok (some a)) :
    (defaulted name (Decode.option d) none).Reads r (if gone name then none else x) := by
  cases x with
  | none =>
      rw [ite_self]
      refine reads_defaulted_of_none h ?_
      rw [Value.lookup_without, hv, Option.map_none, ite_self]
  | some a => exact reads_defaulted_without name h hv (hd a) none

/-- A field without a default is read as it was written, or missed if it is gone. -/
theorem gives_required_without (name : String)
    (h : r.Shows o f (entries.filter fun e => !gone e.1))
    {left : List (String × Value)} (hleft : r.record = .table left)
    (hv : entries.lookup name = some v) (hd : d f (o v) = .ok a) :
    (required name d).Gives r left.length (missed gone name) a := by
  have hlookup := Value.lookup_without gone entries name
  cases hgone : gone name with
  | true =>
      obtain ⟨entries', hrecord, hshown⟩ := h.record
      obtain rfl : left = entries' := Record.table.inj (hleft.symm.trans hrecord)
      have hnone : findEntry name 0 left = none := by
        rw [findEntry_eq_none_iff, hshown, hlookup, hgone]
        rfl
      intro n
      simp [required, field, hrecord, hnone, missed, hgone, Decode.orFault, Except.mapError]
  | false =>
      have hread : (required name d).Reads r a :=
        reads_required h (by rw [hlookup, hgone]; exact hv) hd
      simpa [missed, hgone] using hread.gives left.length

/-- A field with a default whose value does not decode is not read as its default. -/
theorem gives_defaulted_without (name : String)
    (h : r.Shows o f (entries.filter fun e => !gone e.1))
    (hv : entries.lookup name = some v) (hd : d f (o v) = Decode.orFault fault a) (default : α) :
    ∃ place, (defaulted name d default).Gives r place (if gone name then none else fault)
      (if gone name then default else a) := by
  have hlookup := Value.lookup_without gone entries name
  cases hgone : gone name with
  | true =>
      have hread : (defaulted name d default).Reads r default :=
        reads_defaulted_of_none h (by rw [hlookup, hgone]; rfl)
      exact ⟨0, hread.gives 0⟩
  | false =>
      obtain ⟨left, hrecord, hshown⟩ := h.record
      have hsome : left.lookup name = some (o v) := by
        rw [hshown, hlookup, hgone]
        simp [hv]
      obtain ⟨place, hfind⟩ := exists_findEntry hsome
      refine ⟨place, fun n => ?_⟩
      simp [defaulted, field, hrecord, hfind, h.format, hd]

end Fields

namespace Decode

variable {α : Type} {o : Value → Value} {f : Format}

/-- A record with keys taken out is decoded from a table in any order if its fields are read from
it. -/
theorem record_without (ho : Value.Rearranges o) {name : String} {fields : Fields α} {a : α}
    {entries : List (String × Value)} {gone : String → Bool} {fault : Option DecodeError}
    (hkeys : (entries.map Prod.fst).Nodup)
    (h : ∀ r : Reading, r.Shows o f (entries.filter fun e => !gone e.1) →
      ∃ place, fields.Gives r place fault a) :
    record name fields f (o ((Value.table entries).without gone)) = orFault fault a := by
  obtain ⟨left, htable, hlookup⟩ := ho.exists_lookup (Value.nodup_keys_without gone hkeys)
  rw [Value.without, htable]
  obtain ⟨place, hplace⟩ := h ⟨f, .table left,
    "struct " ++ name ++ " with " ++ toString fields.count ++ " elements"⟩ ⟨rfl, left, rfl, hlookup⟩
  rw [record, hplace 0]
  cases fault <;> rfl

end Decode

end CrateGraph
