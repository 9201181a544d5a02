import CrateGraph.Proofs.Decode
import CrateGraph.Proofs.Table

/-!
# Trees in another order

A record is written with its fields in the order of their declaration, and a reader of JSON
keeps the entries of every table in the order of their keys. A decoder finds a field wherever
it stands, so it does not matter to it what a tree went through in between. The laws here say,
one combinator of decoders at a time, that a decoder undoes an encoding after any
rearrangement.

## Main results

* `Value.sorted_rearranges` — what a reader of JSON does to a tree is a rearrangement.
* `Decode.record_rearranged` — a record is decoded field by field.
* `Fields.reads_required`, `Fields.reads_defaulted`, `Fields.reads_defaulted_of_none` — a field
  is read that was written, and the default of one that was not.
* `Decode.list_rearranged`, `Decode.table_rearranged` — lists and tables of what is undone.
-/

namespace CrateGraph

namespace Value

mutual

/-- The tree with the entries of every table in the order of their keys. Of two entries with
one key the later one counts. -/
def sorted : Value → Value
  | .list items => .list (sortedItems items)
  | .table entries => .table (Table.ofList (sortedEntries entries)).entries
  | v => v

/-- The items of a list, each in this order. -/
def sortedItems : List Value → List Value
  | [] => []
  | v :: items => sorted v :: sortedItems items

/-- The values of entries, each in this order. -/
def sortedEntries : List (String × Value) → List (String × Value)
  | [] => []
  | (k, v) :: entries => (k, sorted v) :: sortedEntries entries

end

theorem sortedItems_eq_map (items : List Value) : sortedItems items = items.map sorted := by
  induction items with
  | nil => rfl
  | cons v items ih => rw [sortedItems, ih, List.map_cons]

theorem sortedEntries_eq_map (entries : List (String × Value)) :
    sortedEntries entries = entries.map fun e => (e.1, e.2.sorted) := by
  induction entries with
  | nil => rfl
  | cons e entries ih => rw [sortedEntries, ih, List.map_cons]

theorem sorted_list (items : List Value) : sorted (.list items) = .list (items.map sorted) := by
  rw [sorted, sortedItems_eq_map]

theorem sorted_table (entries : List (String × Value)) :
    sorted (.table entries) =
      .table (Table.ofList (entries.map fun e => (e.1, e.2.sorted))).entries := by
  rw [sorted, sortedEntries_eq_map]

/-- What leaves a tree as it is but for the order of the entries in its tables. A table in the
order of its keys stays in that order. -/
structure Rearranges (o : Value → Value) : Prop where
  scalar : ∀ v, v.record? = none → o v = v
  list : ∀ items, o (.list items) = .list (items.map o)
  table : ∀ entries, (entries.map Prod.fst).Nodup →
    ∃ entries', o (.table entries) = .table entries' ∧
      entries'.Perm (entries.map fun e => (e.1, o e.2))
  ordered : ∀ t : Table Value, o (.table t.entries) = .table (t.map o).entries

theorem id_rearranges : Rearranges id where
  scalar _ _ := rfl
  list items := by rw [List.map_id, id]
  table entries _ := ⟨entries, rfl, .of_eq (List.map_id entries).symm⟩
  ordered t := by
    have hid : (t.entries.map fun e => (e.1, id e.2)) = t.entries := List.map_id t.entries
    exact congrArg Value.table hid.symm

/-- A reader of JSON rearranges what it reads. -/
theorem sorted_rearranges : Rearranges sorted where
  scalar v hv := by cases v <;> first | rfl | cases hv
  list := sorted_list
  table entries hkeys := by
    have hkeys' : ((entries.map fun e => (e.1, e.2.sorted)).map Prod.fst).Nodup := by
      rwa [List.map_map]
    exact ⟨_, sorted_table entries, Table.entries_ofList_perm hkeys'⟩
  ordered t := by
    rw [sorted_table]
    exact congrArg (fun t : Table Value => Value.table t.entries) (t.map sorted).ofList_entries

theorem lookup_map_snd (f : Value → Value) (entries : List (String × Value)) (key : String) :
    (entries.map fun e => (e.1, f e.2)).lookup key = (entries.lookup key).map f := by
  induction entries with
  | nil => rfl
  | cons e entries ih =>
      rw [List.map_cons, List.lookup_cons, List.lookup_cons, ih]
      cases key == e.1 <;> rfl

/-- A rearranged table has under each key what was there, rearranged. -/
theorem Rearranges.exists_lookup {o : Value → Value} (ho : Rearranges o)
    {entries : List (String × Value)} (hkeys : (entries.map Prod.fst).Nodup) :
    ∃ entries', o (.table entries) = .table entries' ∧
      ∀ key, entries'.lookup key = (entries.lookup key).map o := by
  obtain ⟨entries', htable, hperm⟩ := ho.table entries hkeys
  have hkeys' : ((entries.map fun e => (e.1, o e.2)).map Prod.fst).Nodup := by
    rwa [List.map_map]
  refine ⟨entries', htable, fun key => ?_⟩
  rw [← lookup_map_snd]
  exact (Table.lookup_eq_of_perm hkeys' hperm.symm key).symm

end Value

variable {α β : Type} {o : Value → Value} {f : Format}

/-! ## Fields -/

/-- A record that is read from a table, and the entries that the table was written with. -/
structure Reading.Shows (r : Reading) (o : Value → Value) (f : Format)
    (entries : List (String × Value)) : Prop where
  format : r.format = f
  record : ∃ entries', r.record = .table entries' ∧
    ∀ key, entries'.lookup key = (entries.lookup key).map o

namespace Fields

/-- What fields read of a record, whichever fields were read before. -/
def Reads (x : Fields α) (r : Reading) (a : α) : Prop := ∀ n, x.read n r = .ok a

variable {r : Reading} {entries : List (String × Value)} {name : String} {d : Decoder α}
  {v : Value} {a : α}

theorem Reads.map {x : Fields α} (h : x.Reads r a) (g : α → β) : (g <$> x).Reads r (g a) :=
  fun n => (read_map_ok_iff g x (g a)).2 ⟨a, h n, rfl⟩

theorem Reads.seq {g : Fields (α → β)} {b : α → β} {x : Fields α} (hg : g.Reads r b)
    (hx : x.Reads r a) : (g <*> x).Reads r (b a) :=
  fun n => (read_seq_ok_iff g x (b a)).2 ⟨b, a, hg n, hx _, rfl⟩

/-- A field that was written is read. -/
theorem reads_field_of_some (h : r.Shows o f entries) (hv : entries.lookup name = some v)
    (hd : d f (o v) = .ok a) (absent short : Option α) : (field name d absent short).Reads r a := by
  obtain ⟨entries', hrecord, hlookup⟩ := h.record
  intro n
  rw [read_field_ok_iff, hrecord, h.format]
  refine .inl ⟨o v, ?_, hd⟩
  rw [Record.field?, hlookup, hv, Option.map_some]

theorem reads_required (h : r.Shows o f entries) (hv : entries.lookup name = some v)
    (hd : d f (o v) = .ok a) : (required name d).Reads r a :=
  reads_field_of_some h hv hd none none

theorem reads_defaulted (h : r.Shows o f entries) (hv : entries.lookup name = some v)
    (hd : d f (o v) = .ok a) (default : α) : (defaulted name d default).Reads r a :=
  reads_field_of_some h hv hd (some default) (some default)

/-- For a field that was left out its default is read. -/
theorem reads_defaulted_of_none (h : r.Shows o f entries) (hv : entries.lookup name = none) :
    (defaulted name d a).Reads r a := by
  obtain ⟨entries', hrecord, hlookup⟩ := h.record
  intro n
  rw [defaulted, read_field_ok_iff, hrecord]
  refine .inr ⟨?_, rfl⟩
  rw [Record.field?, hlookup, hv, Option.map_none]

end Fields

/-! ## Entries -/

namespace Value

@[simp]
theorem lookup_entryIf_self (present : Bool) (key : String) (v : Value) :
    (entryIf present key v).lookup key = if present then some v else none := by
  cases present <;> simp [entryIf]

@[simp]
theorem lookup_entryIf_of_ne {key name : String} (h : name ≠ key) (present : Bool) (v : Value) :
    (entryIf present key v).lookup name = none := by
  have hb : (name == key) = false := by simpa using h
  cases present <;> simp [entryIf, List.lookup_cons, hb]

/-- An entry that may be left out adds no other key. -/
theorem keys_entryIf_sublist (present : Bool) (key : String) (v : Value) :
    ((entryIf present key v).map Prod.fst).Sublist [key] := by
  cases present <;> simp [entryIf]

end Value

/-! ## Records, lists and tables -/

namespace Decode

variable (ho : Value.Rearranges o)

include ho

/-- A record is decoded from a table in any order if its fields are read from it. -/
theorem record_rearranged {name : String} {fields : Fields α} {a : α}
    {entries : List (String × Value)} (hkeys : (entries.map Prod.fst).Nodup)
    (h : ∀ r : Reading, r.Shows o f entries → fields.Reads r a) :
    record name fields f (o (.table entries)) = .ok a := by
  obtain ⟨entries', htable, hlookup⟩ := ho.exists_lookup hkeys
  rw [record_ok_iff, htable]
  exact ⟨.table entries', rfl, trivial, h _ ⟨rfl, entries', rfl, hlookup⟩ 0⟩

theorem text_rearranged (s : String) : text f (o (.text s)) = .ok s := by
  rw [ho.scalar _ rfl]
  rfl

theorem list_rearranged {d : Decoder α} {encode : α → Value} {l : List α}
    (h : ∀ a ∈ l, d f (o (encode a)) = .ok a) :
    list d f (o (.list (l.map encode))) = .ok l := by
  rw [ho.list, list_ok_iff]
  refine ⟨_, rfl, ?_⟩
  rw [List.map_map, List.forall₂_map_left_iff, List.forall₂_same]
  exact h

theorem texts_rearranged (l : List String) : list text f (o (Value.ofTexts l)) = .ok l :=
  list_rearranged ho fun s _ => text_rearranged ho s

/-- A table of values keeps its order, since it is listed in the order of its keys. -/
theorem table_rearranged {d : Decoder α} {encode : α → Value} {back : α → α} (t : Table α)
    (h : ∀ a ∈ t.values, d f (o (encode a)) = .ok (back a)) :
    table d f (o (Value.ofTable encode t)) = .ok (t.map back) := by
  have hencoded :
      o (Value.ofTable encode t) = .table (t.entries.map fun e => (e.1, o (encode e.2))) := by
    have hentries : ((t.map encode).map o).entries = t.entries.map fun e => (e.1, o (encode e.2)) :=
      List.map_map
    rw [← hentries]
    exact ho.ordered (t.map encode)
  have hitems : (t.entries.map fun e => (e.1, o (encode e.2))).mapM
      (fun e => (d f e.2).map (e.1, ·)) = .ok (t.entries.map fun e => (e.1, back e.2)) := by
    rw [Success.mapM_iff, List.forall₂_map_left_iff, List.forall₂_map_right_iff, List.forall₂_same]
    intro e he
    rw [h e.2 (List.mem_map_of_mem he)]
    rfl
  rw [hencoded, table, hitems]
  exact congrArg Except.ok (t.map back).ofList_entries

theorem table_rearranged_self {d : Decoder α} {encode : α → Value} {t : Table α}
    (h : ∀ a ∈ t.values, d f (o (encode a)) = .ok a) :
    table d f (o (Value.ofTable encode t)) = .ok t := by
  have ht : table d f (o (Value.ofTable encode t)) = .ok (t.map id) := table_rearranged ho t h
  rwa [Table.map_id] at ht

/-- Free-form trees are kept as they are if they need no rearrangement. -/
theorem free_rearranged {t : Table Value} (h : ∀ x ∈ t.values, o x = x) :
    table any f (o (Value.ofTable id t)) = .ok t :=
  table_rearranged_self ho fun x hx => congrArg Except.ok (h x hx)

end Decode

end CrateGraph
