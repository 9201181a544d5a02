import CrateGraph.Decode
import CrateGraph.Proofs.Success

/-!
# What decoders accept

A record may be written as a table or as a list, and a decoder finds each of its fields
either way. The lemmas here say what a decoded value tells about the tree it was decoded
from, and that a change to one field is not seen by the readers of the others.

## Main results

* `Decode.record_ok_iff`, `Decode.list_ok_iff` — what records and lists are decoded from.
* `Fields.read_field_ok_iff` — where a field is found and what stands for it.
* `Fields.read_mapField` — a field is read from its own place and key and from no other.
* `Fields.Follows`, `Fields.Tells` — from one record to another, and from a value to its fields.
-/

namespace CrateGraph

/-! ## Fields of trees -/

namespace Record

/-- The value of a field: a table has it under its key, a list at its place. -/
def field? (key : String) (place : Nat) : Record → Option Value
  | .table entries => entries.lookup key
  | .list items => items[place]?

/-- What stands for a field that is not there. -/
def fallback {α : Type} (absent short : Option α) : Record → Option α
  | .table _ => absent
  | .list _ => short

/-- The record with the value of a field replaced by its image. -/
def mapField (key : String) (place : Nat) (g : Value → Value) : Record → Record
  | .table entries => .table (entries.map fun e => (e.1, if e.1 = key then g e.2 else e.2))
  | .list items => .list (items.modify place g)

/-- Whether a record is short enough to have a number of fields. -/
def Fits (f : Format) (count : Nat) : Record → Prop
  | .table _ => True
  | .list items => ¬(f.exactLength ∧ count < items.length)

/-- The tree of a record. -/
def toValue : Record → Value
  | .table entries => .table entries
  | .list items => .list items

@[simp]
theorem fits_mapField (f : Format) (count : Nat) (key : String) (place : Nat)
    (g : Value → Value) (r : Record) :
    (r.mapField key place g).Fits f count ↔ r.Fits f count := by
  cases r <;> simp [mapField, Fits]

theorem lookup_map (key name : String) (g : Value → Value) (entries : List (String × Value)) :
    (entries.map fun e => (e.1, if e.1 = key then g e.2 else e.2)).lookup name =
      (entries.lookup name).map fun v => if name = key then g v else v := by
  induction entries with
  | nil => rfl
  | cons e entries ih =>
      rcases e with ⟨k, x⟩
      rw [List.map_cons, List.lookup_cons, List.lookup_cons, ih]
      by_cases hk : name = k
      · simp [hk]
      · have hb : (name == k) = false := by simpa using hk
        simp only [hb]

theorem field?_mapField_self (key : String) (place : Nat) (g : Value → Value) (r : Record) :
    (r.mapField key place g).field? key place = (r.field? key place).map g := by
  cases r with
  | table entries => simp [mapField, field?, lookup_map]
  | list items => simp [mapField, field?]

end Record

namespace Value

/-- The record that a tree is, if it is one. -/
def record? : Value → Option Record
  | .table entries => some (.table entries)
  | .list items => some (.list items)
  | _ => none

/-- The value of a field of a tree that is a record. -/
def field? (key : String) (place : Nat) (v : Value) : Option Value :=
  v.record?.bind (Record.field? key place)

/-- The tree with the value of a field replaced by its image. -/
def mapField (key : String) (place : Nat) (g : Value → Value) (v : Value) : Value :=
  match v.record? with
  | some r => (r.mapField key place g).toValue
  | none => v

theorem record?_mapField (key : String) (place : Nat) (g : Value → Value) (v : Value) :
    (v.mapField key place g).record? = v.record?.map (Record.mapField key place g) := by
  cases v <;> rfl

theorem field?_mapField_self (key : String) (place : Nat) (g : Value → Value) (v : Value) :
    (v.mapField key place g).field? key place = (v.field? key place).map g := by
  unfold field?
  rw [record?_mapField]
  cases v.record? with
  | none => rfl
  | some r => exact Record.field?_mapField_self key place g r

/-- The other entries of a table are not changed. -/
theorem entry?_mapField_of_ne {key name : String} (h : name ≠ key) (place : Nat)
    (g : Value → Value) (v : Value) :
    Value.entry? (v.mapField key place g) name = v.entry? name := by
  cases v with
  | table entries =>
      show List.lookup name (entries.map _) = entries.lookup name
      rw [Record.lookup_map]
      simp [h]
  | _ => rfl

end Value

/-- A record that is being read, with the value of a field replaced by its image. -/
def Reading.mapField (key : String) (place : Nat) (g : Value → Value) (r : Reading) : Reading :=
  { r with record := r.record.mapField key place g }

/-! ## Fields -/

namespace Fields

variable {α β : Type} {n : Nat} {r : Reading}

theorem meet_ok_iff (x : Except Fault (α → β)) (y : Except Fault α) (b : β) :
    meet x y = .ok b ↔ ∃ f a, x = .ok f ∧ y = .ok a ∧ f a = b := by
  cases x <;> cases y <;> simp [meet]

@[simp]
theorem count_map (f : α → β) (x : Fields α) : (f <$> x).count = x.count :=
  Nat.zero_add _

theorem read_map_ok_iff (f : α → β) (x : Fields α) (b : β) :
    (f <$> x).read n r = .ok b ↔ ∃ a, x.read n r = .ok a ∧ f a = b := by
  show meet (.ok f) (x.read n r) = .ok b ↔ _
  rw [meet_ok_iff]
  simp

theorem read_seq_ok_iff (f : Fields (α → β)) (x : Fields α) (b : β) :
    (f <*> x).read n r = .ok b ↔
      ∃ g a, f.read n r = .ok g ∧ x.read (n + f.count) r = .ok a ∧ g a = b :=
  meet_ok_iff _ _ b

theorem read_seqLeft_ok_iff (x : Fields α) (y : Fields β) (a : α) :
    (x <* y).read n r = .ok a ↔
      x.read n r = .ok a ∧ ∃ b, y.read (n + x.count) r = .ok b := by
  show (Function.const β <$> x <*> y).read n r = .ok a ↔ _
  rw [read_seq_ok_iff, count_map]
  constructor
  · rintro ⟨g, b, hg, hb, rfl⟩
    obtain ⟨a, ha, rfl⟩ := (read_map_ok_iff _ _ _).1 hg
    exact ⟨ha, b, hb⟩
  · rintro ⟨ha, b, hb⟩
    exact ⟨Function.const β a, b, (read_map_ok_iff _ _ _).2 ⟨a, ha, rfl⟩, hb, rfl⟩

/-! ### Where a field is found -/

theorem findEntry_eq_none_iff (key : String) (place : Nat) (entries : List (String × Value)) :
    findEntry key place entries = none ↔ entries.lookup key = none := by
  induction entries generalizing place with
  | nil => simp [findEntry]
  | cons e entries ih =>
      rcases e with ⟨k, x⟩
      rw [findEntry, List.lookup_cons]
      by_cases h : k = key
      · simp [h]
      · have hb : (key == k) = false := by simpa using Ne.symm h
        rw [if_neg h, hb, ih]

theorem lookup_of_findEntry {key : String} {place found : Nat} {v : Value}
    {entries : List (String × Value)} (h : findEntry key place entries = some (found, v)) :
    entries.lookup key = some v := by
  induction entries generalizing place with
  | nil => cases h
  | cons e entries ih =>
      rcases e with ⟨k, x⟩
      rw [findEntry] at h
      rw [List.lookup_cons]
      by_cases hk : k = key
      · rw [if_pos hk] at h
        cases h
        simp [hk]
      · rw [if_neg hk] at h
        have hb : (key == k) = false := by simpa using Ne.symm hk
        rw [hb, ih h]

theorem read_field_ok_iff (name : String) (d : Decoder α) (absent short : Option α) (a : α) :
    (field name d absent short).read n r = .ok a ↔
      (∃ v, r.record.field? name n = some v ∧ d r.format v = .ok a) ∨
        r.record.field? name n = none ∧ r.record.fallback absent short = some a := by
  rcases r with ⟨format, record, wanted⟩
  cases record with
  | table entries =>
      simp only [field, Record.field?, Record.fallback]
      cases hfind : findEntry name 0 entries with
      | none =>
          rw [(findEntry_eq_none_iff _ _ _).1 hfind]
          cases absent <;> simp
      | some found =>
          rw [lookup_of_findEntry hfind]
          simp [Success.mapError_iff]
  | list items =>
      simp only [field, Record.field?, Record.fallback]
      cases items[n]? with
      | none => cases short <;> simp
      | some v => simp [Success.mapError_iff]

theorem read_required_ok_iff (name : String) (d : Decoder α) (a : α) :
    (required name d).read n r = .ok a ↔
      ∃ v, r.record.field? name n = some v ∧ d r.format v = .ok a := by
  rw [required, read_field_ok_iff]
  cases r.record <;> simp [Record.fallback]

/-! ### Changes to other fields -/

theorem findEntry_map {key name : String} (h : name ≠ key) (g : Value → Value) (place : Nat)
    (entries : List (String × Value)) :
    findEntry name place (entries.map fun e => (e.1, if e.1 = key then g e.2 else e.2)) =
      findEntry name place entries := by
  induction entries generalizing place with
  | nil => rfl
  | cons e entries ih =>
      rcases e with ⟨k, x⟩
      rw [List.map_cons, findEntry, findEntry, ih]
      by_cases hk : k = name
      · simp [hk, h]
      · simp [hk]

/-- A change to a field does not show in another. -/
theorem read_mapField {key name : String} {place : Nat} (hname : name ≠ key) (hplace : place ≠ n)
    (d : Decoder α) (absent short : Option α) (g : Value → Value) :
    (field name d absent short).read n (r.mapField key place g) =
      (field name d absent short).read n r := by
  rcases r with ⟨format, record, wanted⟩
  cases record with
  | table entries =>
      simp only [field, Reading.mapField, Record.mapField, findEntry_map hname, List.length_map]
  | list items =>
      simp only [field, Reading.mapField, Record.mapField, List.getElem?_modify_ne _ items hplace]

/-! ### From one record to another

A reader that looks at many fields is followed from a record to a changed one by following
the reader of each field.
-/

/-- Whether a reader that succeeds on a record succeeds on another one too, with a related
value. -/
def Follows (x : Fields α) (n : Nat) (r r' : Reading) (R : α → α → Prop) : Prop :=
  ∀ a, x.read n r = .ok a → ∃ a', x.read n r' = .ok a' ∧ R a a'

variable {r' : Reading}

theorem follows_of_read_eq {x : Fields α} (h : x.read n r' = x.read n r) :
    x.Follows n r r' Eq := fun a ha => ⟨a, h.trans ha, rfl⟩

theorem Follows.map {R : α → α → Prop} {S : β → β → Prop} {x : Fields α} {f : α → β}
    (hx : x.Follows n r r' R) (hf : Relator.LiftFun R S f f) : (f <$> x).Follows n r r' S := by
  intro b hb
  obtain ⟨a, ha, rfl⟩ := (read_map_ok_iff f x b).1 hb
  obtain ⟨a', ha', hR⟩ := hx a ha
  exact ⟨f a', (read_map_ok_iff f x _).2 ⟨a', ha', rfl⟩, hf hR⟩

theorem Follows.seq {R : α → α → Prop} {S : β → β → Prop} {f : Fields (α → β)} {x : Fields α}
    (hf : f.Follows n r r' (Relator.LiftFun R S)) (hx : x.Follows (n + f.count) r r' R) :
    (f <*> x).Follows n r r' S := by
  intro b hb
  obtain ⟨g, a, hg, ha, rfl⟩ := (read_seq_ok_iff f x b).1 hb
  obtain ⟨g', hg', hS⟩ := hf g hg
  obtain ⟨a', ha', hR⟩ := hx a ha
  exact ⟨g' a', (read_seq_ok_iff f x _).2 ⟨g', a', hg', ha', rfl⟩, hS hR⟩

theorem Follows.seqLeft {R : α → α → Prop} {S : β → β → Prop} {x : Fields α} {y : Fields β}
    (hx : x.Follows n r r' R) (hy : y.Follows (n + x.count) r r' S) :
    (x <* y).Follows n r r' R := by
  intro a ha
  obtain ⟨hxa, b, hb⟩ := (read_seqLeft_ok_iff x y a).1 ha
  obtain ⟨a', ha', hR⟩ := hx a hxa
  obtain ⟨b', hb', -⟩ := hy b hb
  exact ⟨a', (read_seqLeft_ok_iff x y a').2 ⟨ha', b', hb'⟩, hR⟩

/-- The reader of another field reads the same. -/
theorem follows_field_of_ne {key name : String} {place : Nat} (hname : name ≠ key)
    (hplace : place ≠ n) (d : Decoder α) (absent short : Option α) (g : Value → Value) :
    (field name d absent short).Follows n r (r.mapField key place g) Eq :=
  follows_of_read_eq (read_mapField hname hplace d absent short g)

/-- The reader of the changed field reads the changed value. -/
theorem follows_required_self {key : String} {d : Decoder α} {R : α → α → Prop}
    {g : Value → Value}
    (h : ∀ v, r.record.field? key n = some v → ∀ a, d r.format v = .ok a →
      ∃ a', d r.format (g v) = .ok a' ∧ R a a') :
    (required key d).Follows n r (r.mapField key n g) R := by
  intro a ha
  obtain ⟨v, hv, hd⟩ := (read_required_ok_iff key d a).1 ha
  obtain ⟨a', ha', hR⟩ := h v hv a hd
  refine ⟨a', (read_required_ok_iff key d a').2 ⟨g v, ?_, ha'⟩, hR⟩
  show (r.record.mapField key n g).field? key n = some (g v)
  rw [Record.field?_mapField_self, hv, Option.map_some]

/-! ### What a value tells

A reader that looks at many fields is followed through them in the other direction as well, from
the value that was read to the fields that it was made of.
-/

/-- Whether every value that a reader gives has a property. -/
def Tells (x : Fields α) (n : Nat) (r : Reading) (P : α → Prop) : Prop :=
  ∀ a, x.read n r = .ok a → P a

theorem Tells.map {P : β → Prop} {x : Fields α} {f : α → β} (hx : x.Tells n r fun a => P (f a)) :
    (f <$> x).Tells n r P := by
  intro b hb
  obtain ⟨a, ha, rfl⟩ := (read_map_ok_iff f x b).1 hb
  exact hx a ha

theorem Tells.seq {P : β → Prop} {Q : α → Prop} {f : Fields (α → β)} {x : Fields α}
    (hf : f.Tells n r fun g => ∀ a, Q a → P (g a)) (hx : x.Tells (n + f.count) r Q) :
    (f <*> x).Tells n r P := by
  intro b hb
  obtain ⟨g, a, hg, ha, rfl⟩ := (read_seq_ok_iff f x b).1 hb
  exact hf g hg a (hx a ha)

theorem Tells.seqLeft {P : α → Prop} {x : Fields α} (hx : x.Tells n r P) (y : Fields β) :
    (x <* y).Tells n r P :=
  fun a ha => hx a ((read_seqLeft_ok_iff x y a).1 ha).1

theorem tells_required (name : String) (d : Decoder α) :
    (required name d).Tells n r fun a =>
      ∃ v, r.record.field? name n = some v ∧ d r.format v = .ok a :=
  fun a ha => (read_required_ok_iff name d a).1 ha

/-- A field that may be missing is read as null where it is. -/
theorem tells_optional (name : String) (d : Decoder α) :
    (optional name d).Tells n r fun a =>
      Decode.option d r.format ((r.record.field? name n).getD .null) = .ok a := by
  intro a ha
  rcases (read_field_ok_iff name _ _ _ a).1 ha with ⟨v, hv, hd⟩ | ⟨hv, habsent⟩
  · rwa [hv]
  · rw [hv]
    cases hr : r.record with
    | table entries => simpa [hr, Record.fallback, Decode.option] using habsent
    | list items => simp [hr, Record.fallback] at habsent

end Fields

/-! ## Records, lists and scalars -/

namespace Decode

variable {α : Type}

/-- A record decodes to what its fields decode to. -/
theorem record_ok_iff (name : String) (fields : Fields α) (f : Format) (v : Value) (a : α) :
    record name fields f v = .ok a ↔
      ∃ r, v.record? = some r ∧ r.Fits f fields.count ∧
        fields.read 0
          ⟨f, r, "struct " ++ name ++ " with " ++ toString fields.count ++ " elements"⟩ =
            .ok a := by
  unfold record
  cases v with
  | table entries => simp [Value.record?, Record.Fits, Success.mapError_iff]
  | list items =>
      simp only [Value.record?, Record.Fits, Success.bind_iff, Success.mapError_iff,
        Option.some.injEq, exists_eq_left']
      by_cases h : f.exactLength = true ∧ fields.count < items.length
      · simp [h, throw, throwThe, MonadExceptOf.throw, Functor.map, Except.map]
      · have hshort : (f.exactLength && decide (fields.count < items.length)) = false := by
          simpa using h
        simp only [h, hshort, Bool.false_eq_true, if_false, not_false_eq_true, true_and]
        simp [pure, Except.pure]
  | _ => simp [Value.record?, mismatch]

/-- A record decodes still when a field of it is changed, if its readers can follow. -/
theorem record_mapField {name : String} {fields : Fields α} {f : Format} {v : Value} {a : α}
    {key : String} {place : Nat} {g : Value → Value} {R : α → α → Prop}
    (h : record name fields f v = .ok a)
    (hfollows : ∀ r wanted, v.record? = some r →
      fields.Follows 0 ⟨f, r, wanted⟩ (.mapField key place g ⟨f, r, wanted⟩) R) :
    ∃ a', record name fields f (v.mapField key place g) = .ok a' ∧ R a a' := by
  obtain ⟨r, hr, hfits, hread⟩ := (record_ok_iff name fields f v a).1 h
  obtain ⟨a', ha', hR⟩ := hfollows r _ hr a hread
  refine ⟨a', (record_ok_iff name fields f _ a').2 ⟨r.mapField key place g, ?_, ?_, ha'⟩, hR⟩
  · rw [Value.record?_mapField, hr, Option.map_some]
  · rwa [Record.fits_mapField]

/-- What the readers of a record tell holds of what the record decodes to. -/
theorem record_tells {name : String} {fields : Fields α} {f : Format} {v : Value} {a : α}
    {P : α → Prop} (h : record name fields f v = .ok a)
    (htells : ∀ r wanted, v.record? = some r → fields.Tells 0 ⟨f, r, wanted⟩ P) : P a := by
  obtain ⟨r, hr, -, hread⟩ := (record_ok_iff name fields f v a).1 h
  exact htells r _ hr a hread

theorem list_ok_iff (d : Decoder α) (f : Format) (v : Value) (l : List α) :
    list d f v = .ok l ↔
      ∃ items, v = .list items ∧ List.Forall₂ (fun item a => d f item = .ok a) items l := by
  unfold list
  cases v with
  | list items => simp [Success.mapM_iff]
  | _ => simp [mismatch]

theorem text_ok_iff (f : Format) (v : Value) (s : String) : text f v = .ok s ↔ v = .text s := by
  cases v <;> simp [text, textAs, mismatch]

theorem natural_ok_iff (limit : Nat) (wanted : String) (f : Format) (v : Value) (n : Nat) :
    natural limit wanted f v = .ok n ↔ n < limit ∧ v = .int n := by
  unfold natural
  cases v with
  | int m =>
      by_cases hm : 0 ≤ m ∧ m < limit
      · simp only [if_pos hm, Except.ok.injEq, Value.int.injEq]
        omega
      · simp only [if_neg hm, reduceCtorEq, Value.int.injEq, false_iff]
        omega
  | _ => simp [mismatch]

end Decode

end CrateGraph
