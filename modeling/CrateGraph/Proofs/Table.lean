import CrateGraph.Table
import Mathlib

/-!
# What a table holds

A table is read by `find?` and listed by `entries` and `values`. No key is listed twice, so
the two agree, and what holds of everything that is found holds of everything that is
listed.

## Main results

* `find?_insert` — the two lemmas on insertion as one equation.
* `size_insert_of_find?_none` — how many entries there are.
* `find?_eq_some_iff`, `mem_values_iff`, `mem_keys_iff` — what is listed is what is found.
* `exists_first_iff` — the first entry with a property, in terms of keys.
* `ext_find?` — tables in which the same is found are the same.
* `entries_ofList_perm`, `ofList_entries` — a table that is made of a list of entries.
-/

namespace CrateGraph.Table

variable {α : Type u}

theorem find?_insert (t : Table α) (k k' : String) (x : α) :
    (t.insert k x).find? k' = if k' = k then some x else t.find? k' := by
  by_cases h : k' = k
  · subst h
    simp
  · rw [find?_insert_of_ne t h, if_neg h]

theorem length_insertEntry {k : String} {l : List (String × α)} (h : l.lookup k = none) (x : α) :
    (insertEntry k x l).length = l.length + 1 := by
  induction l with
  | nil => rfl
  | cons e rest ih =>
      rcases e with ⟨k', x'⟩
      rw [List.lookup_cons] at h
      cases hk : k == k' with
      | true => simp [hk] at h
      | false =>
          have hne : k ≠ k' := by simpa using hk
          rw [hk] at h
          unfold insertEntry
          split
          · rfl
          · rw [List.length_cons, List.length_cons, ih h]

/-- A new key makes a table longer by one entry. -/
theorem size_insert_of_find?_none {t : Table α} {k : String} (h : t.find? k = none) (x : α) :
    (t.insert k x).size = t.size + 1 :=
  length_insertEntry h x

/-- In a list without repeated keys an entry is found exactly if it is there. -/
theorem lookup_eq_some_iff_mem {l : List (String × α)} (hl : (l.map Prod.fst).Nodup)
    (k : String) (x : α) : l.lookup k = some x ↔ (k, x) ∈ l := by
  induction l with
  | nil => simp
  | cons e rest ih =>
      rcases e with ⟨k', x'⟩
      obtain ⟨hnew, hrest⟩ := List.nodup_cons.1 hl
      by_cases hk : k = k'
      · subst hk
        have habsent : (k, x) ∉ rest := fun hmem => hnew (List.mem_map.2 ⟨(k, x), hmem, rfl⟩)
        simp [habsent, eq_comm]
      · have hb : (k == k') = false := by simpa using hk
        simp [List.lookup_cons, hb, hk, ih hrest]

theorem lookup_eq_of_perm {l l' : List (String × α)} (hl : (l.map Prod.fst).Nodup)
    (h : l.Perm l') (k : String) : l.lookup k = l'.lookup k := by
  have hl' : (l'.map Prod.fst).Nodup := (h.map Prod.fst).nodup_iff.1 hl
  refine Option.ext fun x => ?_
  rw [lookup_eq_some_iff_mem hl, lookup_eq_some_iff_mem hl', h.mem_iff]

theorem nodup_keys (t : Table α) : t.keys.Nodup := by
  have hne : t.entries.Pairwise fun a b => a.1 ≠ b.1 := by
    refine t.sorted.imp ?_
    intro a b hlt heq
    exact String.lt_irrefl b.1 (heq ▸ hlt)
  exact List.pairwise_map.2 hne

theorem find?_eq_some_iff (t : Table α) (k : String) (x : α) :
    t.find? k = some x ↔ (k, x) ∈ t.entries :=
  lookup_eq_some_iff_mem t.nodup_keys k x

/-- The values of a table are what its keys lead to. -/
theorem mem_values_iff (t : Table α) (x : α) : x ∈ t.values ↔ ∃ k, t.find? k = some x := by
  simp only [values, List.mem_map, find?_eq_some_iff]
  constructor
  · rintro ⟨e, he, rfl⟩
    exact ⟨e.1, he⟩
  · rintro ⟨k, hk⟩
    exact ⟨(k, x), hk, rfl⟩

theorem mem_values_insert {t : Table α} {k : String} {x y : α} (h : y ∈ (t.insert k x).values) :
    y = x ∨ y ∈ t.values := by
  obtain ⟨k', hfind⟩ := (mem_values_iff _ y).1 h
  rw [find?_insert] at hfind
  split at hfind
  · exact .inl (Option.some.inj hfind).symm
  · exact .inr ((mem_values_iff t y).2 ⟨k', hfind⟩)

/-- The keys of a table are those that lead anywhere. -/
theorem mem_keys_iff (t : Table α) (k : String) : k ∈ t.keys ↔ ∃ x, t.find? k = some x := by
  simp only [keys, List.mem_map, find?_eq_some_iff]
  constructor
  · rintro ⟨e, he, rfl⟩
    exact ⟨e.2, he⟩
  · rintro ⟨x, hx⟩
    exact ⟨(k, x), hx, rfl⟩

theorem nodup_entries (t : Table α) : t.entries.Nodup :=
  List.Nodup.of_map Prod.fst (nodup_keys t)

/-- The first entry with a property is the one with the least key. -/
theorem exists_first_iff (t : Table α) (P : String → α → Prop) (k : String) (x : α) :
    (∃ before after, t.entries = before ++ (k, x) :: after ∧ (∀ e ∈ before, ¬P e.1 e.2) ∧ P k x) ↔
      t.find? k = some x ∧ P k x ∧ IsLeast { k | ∃ x, t.find? k = some x ∧ P k x } k := by
  have horder : ∀ {before after : List (String × α)}, t.entries = before ++ (k, x) :: after →
      (∀ e ∈ before, e.1 < k) ∧ ∀ e ∈ after, k < e.1 := by
    intro before after hentries
    have hsorted := t.sorted
    rw [hentries, List.pairwise_append, List.pairwise_cons] at hsorted
    obtain ⟨-, ⟨hafter, -⟩, hbefore⟩ := hsorted
    exact ⟨fun e he => hbefore e he (k, x) List.mem_cons_self, hafter⟩
  constructor
  · rintro ⟨before, after, hentries, hbefore, hx⟩
    have hfind : t.find? k = some x := by
      rw [find?_eq_some_iff, hentries]
      simp
    refine ⟨hfind, hx, ⟨x, hfind, hx⟩, ?_⟩
    rintro k' ⟨x', hfind', hx'⟩
    rw [find?_eq_some_iff, hentries, List.mem_append, List.mem_cons] at hfind'
    rcases hfind' with hmem | heq | hmem
    · exact absurd hx' (hbefore _ hmem)
    · exact (congrArg Prod.fst heq).ge
    · exact ((horder hentries).2 _ hmem).le
  · rintro ⟨hfind, hx, -, hleast⟩
    obtain ⟨before, after, hentries⟩ := List.append_of_mem ((find?_eq_some_iff t k x).1 hfind)
    refine ⟨before, after, hentries, ?_, hx⟩
    intro e he hP
    have hmem : e ∈ t.entries := hentries ▸ List.mem_append_left _ he
    have hle : k ≤ e.1 := hleast ⟨e.2, (find?_eq_some_iff t e.1 e.2).2 hmem, hP⟩
    exact absurd ((horder hentries).1 e he) (not_lt.2 hle)

/-- Tables in which every key leads to the same are equal. -/
theorem ext_find? {t t' : Table α} (h : ∀ k, t.find? k = t'.find? k) : t = t' := by
  have hmem : ∀ e, e ∈ t.entries ↔ e ∈ t'.entries := by
    rintro ⟨k, x⟩
    rw [← find?_eq_some_iff, ← find?_eq_some_iff, h]
  have hperm : t.entries.Perm t'.entries :=
    (List.perm_ext_iff_of_nodup t.nodup_entries t'.nodup_entries).2 hmem
  have hentries : t.entries = t'.entries := by
    refine hperm.eq_of_pairwise ?_ t.sorted t'.sorted
    intro a b _ _ hab hba
    exact absurd (String.lt_trans hab hba) (String.lt_irrefl a.1)
  rcases t with ⟨entries, sorted⟩
  cases hentries
  rfl

theorem map_id (t : Table α) : t.map id = t := by
  rcases t with ⟨entries, sorted⟩
  simp [map]

/-! ## Tables that are made of lists -/

theorem find?_foldl_insert {l : List (String × α)} (hl : (l.map Prod.fst).Nodup) (t : Table α)
    (k : String) :
    (l.foldl (fun t e => t.insert e.1 e.2) t).find? k = (l.lookup k).or (t.find? k) := by
  induction l generalizing t with
  | nil => rfl
  | cons e rest ih =>
      rcases e with ⟨k', x⟩
      obtain ⟨hnew, hrest⟩ := List.nodup_cons.1 hl
      rw [List.foldl_cons, ih hrest, List.lookup_cons, find?_insert]
      by_cases hk : k = k'
      · subst hk
        have hnone : rest.lookup k = none := by
          rw [List.lookup_eq_none_iff]
          intro e he
          have hmem : e.1 ∈ rest.map Prod.fst := List.mem_map_of_mem he
          have hne : k ≠ e.1 := fun heq => hnew (heq ▸ hmem)
          simpa using hne
        simp [hnone]
      · have hb : (k == k') = false := by simpa using hk
        simp [hb, hk]

/-- In the table of a list without repeated keys the same is found as in the list. -/
theorem find?_ofList {l : List (String × α)} (hl : (l.map Prod.fst).Nodup) (k : String) :
    (ofList l).find? k = l.lookup k := by
  rw [ofList, find?_foldl_insert hl, find?_empty, Option.or_none]

/-- The table of a list without repeated keys has its entries. -/
theorem entries_ofList_perm {l : List (String × α)} (hl : (l.map Prod.fst).Nodup) :
    (ofList l).entries.Perm l := by
  rw [List.perm_ext_iff_of_nodup (nodup_entries _) (List.Nodup.of_map Prod.fst hl)]
  rintro ⟨k, x⟩
  rw [← find?_eq_some_iff, find?_ofList hl, lookup_eq_some_iff_mem hl]

/-- A table is that of its own entries. -/
@[simp]
theorem ofList_entries (t : Table α) : ofList t.entries = t :=
  ext_find? fun k => find?_ofList t.nodup_keys k

end CrateGraph.Table
