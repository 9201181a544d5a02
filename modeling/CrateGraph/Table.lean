/-!
# Tables keyed by text

A `Table` is a finite map from strings to values that is always listed in the
order of its keys. Strings are ordered by code point, which is the byte order
of their UTF-8 form, so a table is also the printed order of a JSON object.

The order is part of the type (`sorted`), so two tables with the same entries
are the same table, and no operation has to be told to keep them sorted.

## Main results

* `find?_insert_self`, `find?_insert_of_ne`: insertion changes the value at
  one key and no other.
-/

namespace CrateGraph

/-- The entries of a table after `k` is given the value `x`. A value already
held at `k` is replaced. -/
def insertEntry {α : Type u} (k : String) (x : α) : List (String × α) → List (String × α)
  | [] => [(k, x)]
  | (k', x') :: rest =>
    if k < k' then (k, x) :: (k', x') :: rest
    else if k = k' then (k, x) :: rest
    else (k', x') :: insertEntry k x rest

/-- Of two keys one comes first, or they are the same. -/
theorem key_lt_of_not_lt {a b : String} (h : ¬a < b) (hne : a ≠ b) : b < a :=
  Decidable.byContradiction fun hba =>
    hne (String.le_antisymm (String.not_lt.1 hba) (String.not_lt.1 h))

theorem mem_insertEntry {α : Type u} {k : String} {x : α} {e : String × α}
    {l : List (String × α)} (h : e ∈ insertEntry k x l) : e = (k, x) ∨ e ∈ l := by
  induction l with
  | nil => simpa [insertEntry] using h
  | cons hd tl ih =>
    rcases hd with ⟨k', x'⟩
    simp only [insertEntry] at h
    split at h
    · simpa using h
    · split at h
      · rcases List.mem_cons.1 h with h | h
        · exact .inl h
        · exact .inr (List.mem_cons_of_mem _ h)
      · rcases List.mem_cons.1 h with h | h
        · exact .inr (h ▸ List.mem_cons_self)
        · exact (ih h).imp_right (List.mem_cons_of_mem _)

theorem pairwise_insertEntry {α : Type u} (k : String) (x : α) {l : List (String × α)}
    (h : l.Pairwise fun a b => a.1 < b.1) :
    (insertEntry k x l).Pairwise fun a b => a.1 < b.1 := by
  induction l with
  | nil => simp [insertEntry]
  | cons hd tl ih =>
    rcases hd with ⟨k', x'⟩
    have hhd := List.pairwise_cons.1 h
    simp only [insertEntry]
    split
    · rename_i hlt
      refine List.pairwise_cons.2 ⟨fun e he => ?_, h⟩
      rcases List.mem_cons.1 he with rfl | he
      · exact hlt
      · exact String.lt_trans hlt (hhd.1 e he)
    · rename_i hnlt
      split
      · rename_i heq
        subst heq
        exact List.pairwise_cons.2 ⟨hhd.1, hhd.2⟩
      · rename_i hne
        refine List.pairwise_cons.2 ⟨fun e he => ?_, ih hhd.2⟩
        rcases mem_insertEntry he with rfl | he
        · exact key_lt_of_not_lt hnlt hne
        · exact hhd.1 e he

/-- A finite map from strings, listed in the order of its keys. -/
structure Table (α : Type u) where
  entries : List (String × α)
  sorted : entries.Pairwise fun a b => a.1 < b.1
deriving DecidableEq, Repr

namespace Table

variable {α : Type u} {β : Type v}

/-- The table without entries. -/
def empty : Table α := ⟨[], .nil⟩

instance : Inhabited (Table α) := ⟨empty⟩

instance : EmptyCollection (Table α) := ⟨empty⟩

/-- The value at a key. -/
def find? (t : Table α) (k : String) : Option α := t.entries.lookup k

/-- Whether a key has a value. -/
def contains (t : Table α) (k : String) : Bool := (t.find? k).isSome

/-- Gives a key a value, in place of the one it may have had. -/
def insert (t : Table α) (k : String) (x : α) : Table α :=
  ⟨insertEntry k x t.entries, pairwise_insertEntry k x t.sorted⟩

/-- The table of a list of entries, in which a later entry replaces an earlier
one of the same key. -/
def ofList (l : List (String × α)) : Table α :=
  l.foldl (fun t e => t.insert e.1 e.2) empty

/-- The keys in order. -/
def keys (t : Table α) : List String := t.entries.map (·.1)

/-- The values in the order of their keys. -/
def values (t : Table α) : List α := t.entries.map (·.2)

/-- The table with every value replaced by its image. -/
def map (f : α → β) (t : Table α) : Table β :=
  ⟨t.entries.map fun e => (e.1, f e.2), t.sorted.map _ fun _ _ h => h⟩

/-- The number of entries. -/
def size (t : Table α) : Nat := t.entries.length

/-- Whether there is no entry. -/
def isEmpty (t : Table α) : Bool := t.entries.isEmpty

/-! ### What a lookup finds -/

theorem lookup_insertEntry_self (k : String) (x : α) (l : List (String × α)) :
    (insertEntry k x l).lookup k = some x := by
  induction l with
  | nil => simp [insertEntry]
  | cons hd tl ih =>
    rcases hd with ⟨k', x'⟩
    simp only [insertEntry]
    split
    · simp
    · split
      · simp
      · rename_i hne
        have : (k == k') = false := by simpa using hne
        simp [List.lookup_cons, this, ih]

theorem lookup_insertEntry_of_ne {k k' : String} (h : k' ≠ k) (x : α) (l : List (String × α)) :
    (insertEntry k x l).lookup k' = l.lookup k' := by
  have hb : (k' == k) = false := by simpa using h
  induction l with
  | nil => simp [insertEntry, List.lookup_cons, hb]
  | cons hd tl ih =>
    rcases hd with ⟨k₀, x₀⟩
    simp only [insertEntry]
    split
    · simp [List.lookup_cons, hb]
    · split
      · rename_i heq
        subst heq
        simp [List.lookup_cons, hb]
      · simp [List.lookup_cons, ih]

@[simp]
theorem find?_empty (k : String) : (empty : Table α).find? k = none := rfl

@[simp]
theorem find?_insert_self (t : Table α) (k : String) (x : α) :
    (t.insert k x).find? k = some x :=
  lookup_insertEntry_self k x t.entries

theorem find?_insert_of_ne (t : Table α) {k k' : String} (h : k' ≠ k) (x : α) :
    (t.insert k x).find? k' = t.find? k' :=
  lookup_insertEntry_of_ne h x t.entries

end Table

end CrateGraph
