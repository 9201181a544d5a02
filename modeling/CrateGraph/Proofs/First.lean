import Mathlib

/-!
# The first of each key

Nodes are kept one for each root and edges one for each pair of projects, and both times it
is the first that is kept. This module says what the kept ones are, for any list and any
key.

## Main results

* `find?_firsts`, `mem_firsts_iff` — what is kept is what a search by key finds first.
* `find?_eq_of_perm` — where no key occurs twice, the order does not matter to a search.
* `nodup_firsts`, `firsts_of_nodup` — no key is kept twice, and where none occurs twice
  everything is kept.
* `map_firsts` — the kept keys, as a list without repetitions.
* `repeats_append_singleton`, `mem_repeats_iff` — what is not kept, one item at a time and as a
  whole.
* `firsts_filter_iff` — when leaving some items out leaves what is kept as it was.
-/

namespace CrateGraph.First

variable {α β κ : Type*} [DecidableEq κ] (key : β → κ)

/-- Whether no item of a list has the key of another item. -/
def Fresh (seen : List β) (b : β) : Prop := ∀ c ∈ seen, key c ≠ key b

instance (seen : List β) (b : β) : Decidable (Fresh key seen b) :=
  inferInstanceAs (Decidable (∀ c ∈ seen, key c ≠ key b))

/-- Adds an item to those kept, unless one with its key is there. -/
def keep (kept : List β) (b : β) : List β := if Fresh key kept b then kept ++ [b] else kept

/-- The first item of each key, in the order of the list. -/
def firsts (l : List β) : List β := l.foldl (keep key) []

variable {key} {kept seen l : List β} {b : β} {k : κ}

/-! ## What is kept -/

theorem fresh_keep (kept : List β) (b c : β) :
    Fresh key (keep key kept b) c ↔ Fresh key (kept ++ [b]) c := by
  unfold keep
  split
  · rfl
  · rename_i h
    have hb : ∃ d ∈ kept, key d = key b := by simpa [Fresh] using h
    obtain ⟨d, hd, hkey⟩ := hb
    simp only [Fresh, List.forall_mem_append, List.forall_mem_singleton]
    exact ⟨fun hc => ⟨hc, hkey ▸ hc d hd⟩, And.left⟩

theorem firsts_append_singleton (l : List β) (b : β) :
    firsts key (l ++ [b]) = keep key (firsts key l) b := by
  simp [firsts]

theorem find?_firsts (l : List β) (k : κ) :
    (firsts key l).find? (fun b => key b = k) = l.find? (fun b => key b = k) := by
  induction l using List.reverseRecOn with
  | nil => rfl
  | append_singleton l b ih =>
      rw [firsts_append_singleton, keep]
      split
      · rw [List.find?_append, List.find?_append, ih]
      · rename_i h
        have hb : ∃ c ∈ firsts key l, key c = key b := by simpa [Fresh] using h
        rw [ih, List.find?_append]
        by_cases hk : key b = k
        · -- An earlier item with the key is found before `b` is looked at.
          have hsome : (l.find? fun c => key c = k).isSome := by
            rw [← ih, List.find?_isSome]
            simpa [← hk] using hb
          rw [Option.or_of_isSome hsome]
        · simp [hk]

theorem mem_of_mem_foldl_keep (h : b ∈ l.foldl (keep key) kept) : b ∈ kept ∨ b ∈ l := by
  induction l generalizing kept with
  | nil => exact .inl h
  | cons c l ih =>
      rcases ih h with h | h
      · unfold keep at h
        split at h
        · rcases List.mem_append.1 h with h | h
          · exact .inl h
          · exact .inr (List.mem_singleton.1 h ▸ List.mem_cons_self)
        · exact .inl h
      · exact .inr (List.mem_cons_of_mem c h)

theorem mem_of_mem_firsts (h : b ∈ firsts key l) : b ∈ l :=
  (mem_of_mem_foldl_keep h).resolve_left List.not_mem_nil

theorem nodup_firsts (l : List β) : ((firsts key l).map key).Nodup := by
  induction l using List.reverseRecOn with
  | nil => exact List.nodup_nil
  | append_singleton l b ih =>
      rw [firsts_append_singleton, keep]
      split
      · rename_i h
        rw [List.map_append, List.nodup_append]
        refine ⟨ih, by simp, ?_⟩
        intro x hx y hy
        obtain ⟨c, hc, rfl⟩ := List.mem_map.1 hx
        simp only [List.map_cons, List.map_nil, List.mem_singleton] at hy
        exact hy ▸ h c hc
      · exact ih

/-- In a list in which no key occurs twice a search by key finds every item. -/
theorem find?_iff_mem (hl : (l.map key).Nodup) :
    l.find? (fun c => key c = key b) = some b ↔ b ∈ l := by
  refine ⟨List.mem_of_find?_eq_some, fun hb => ?_⟩
  have hsome : (l.find? fun c => key c = key b).isSome := by
    rw [List.find?_isSome]
    exact ⟨b, hb, by simp⟩
  obtain ⟨c, hc⟩ := Option.isSome_iff_exists.1 hsome
  have hkey : key c = key b := by simpa using List.find?_some hc
  rw [hc, List.inj_on_of_nodup_map hl (List.mem_of_find?_eq_some hc) hb hkey]

/-- In a list in which no key occurs twice a search by key finds the same in any order. -/
theorem find?_eq_of_perm {l' : List β} (hl : (l.map key).Nodup) (h : l.Perm l') (k : κ) :
    l.find? (fun b => key b = k) = l'.find? fun b => key b = k := by
  have hl' : (l'.map key).Nodup := (h.map key).nodup_iff.1 hl
  cases hfind : l.find? fun b => key b = k with
  | none =>
      symm
      rw [List.find?_eq_none] at hfind ⊢
      exact fun b hb => hfind b (h.mem_iff.2 hb)
  | some b =>
      have hkey : key b = k := by simpa using List.find?_some hfind
      have hmem : b ∈ l' := h.mem_iff.1 (List.mem_of_find?_eq_some hfind)
      rw [← hkey]
      exact ((find?_iff_mem hl').2 hmem).symm

theorem mem_firsts_iff : b ∈ firsts key l ↔ l.find? (fun c => key c = key b) = some b := by
  rw [← find?_firsts, find?_iff_mem (nodup_firsts l)]

/-- No key of the list is lost. -/
theorem exists_mem_firsts (h : b ∈ l) : ∃ c ∈ firsts key l, key c = key b := by
  have hsome : ((firsts key l).find? fun c => key c = key b).isSome := by
    rw [find?_firsts, List.find?_isSome]
    exact ⟨b, h, by simp⟩
  simpa [List.find?_isSome] using hsome

theorem firsts_of_nodup (hl : (l.map key).Nodup) : firsts key l = l := by
  induction l using List.reverseRecOn with
  | nil => rfl
  | append_singleton l b ih =>
      rw [List.map_append, List.nodup_append] at hl
      obtain ⟨hnodup, -, hdisjoint⟩ := hl
      have hfresh : Fresh key l b := fun c hc =>
        hdisjoint _ (List.mem_map_of_mem hc) _ (by simp)
      rw [firsts_append_singleton, ih hnodup, keep, if_pos hfresh]

/-- An item that is there already is not kept a second time. -/
theorem firsts_append_of_mem (h : b ∈ l) : firsts key (l ++ [b]) = firsts key l := by
  have hstale : ¬Fresh key (firsts key l) b := by
    intro hfresh
    obtain ⟨c, hc, hkey⟩ : ∃ c ∈ firsts key l, key c = key b := exists_mem_firsts h
    exact hfresh c hc hkey
  rw [firsts_append_singleton, keep, if_neg hstale]

/-- The keys that are kept are those of the list without the repetitions, in their order. -/
theorem map_firsts [BEq κ] [LawfulBEq κ] (l : List β) :
    (firsts key l).map key = (l.map key).eraseDups := by
  induction l using List.reverseRecOn with
  | nil => rfl
  | append_singleton l b ih =>
      have hfresh : Fresh key (firsts key l) b ↔ key b ∉ l.map key := by
        rw [← List.mem_eraseDups, ← ih]
        simp [Fresh]
      rw [firsts_append_singleton, keep, List.map_append, List.map_singleton,
        List.eraseDups_append, ← ih]
      by_cases h : key b ∈ l.map key
      · have hold : [key b].removeAll (l.map key) = [] := by
          simpa [List.removeAll] using h
        rw [if_neg (fun hf => hfresh.1 hf h), hold]
        simp
      · have hnew : [key b].removeAll (l.map key) = [key b] := by
          simpa [List.removeAll] using h
        rw [if_pos (hfresh.2 h), hnew, List.map_append]
        rfl

/-! ## What is not kept -/

/-- Each item with the key of an earlier one, in the order of the list, after the first item
of that key. -/
def repeats (key : β → κ) (l : List β) : List (β × β) :=
  l.zipIdx.filterMap fun e => ((l.take e.2).find? fun c => key c = key e.1).map (·, e.1)

/-- Whether an item is kept does not depend on what comes after it. -/
theorem repeats_append_singleton (l : List β) (b : β) :
    repeats key (l ++ [b]) =
      repeats key l ++ ((l.find? fun c => key c = key b).map (·, b)).toList := by
  have hearlier : ∀ e ∈ l.zipIdx, (l ++ [b]).take e.2 = l.take e.2 := by
    intro e he
    have hlt : e.2 < l.length := by
      have := List.snd_lt_of_mem_zipIdx he
      omega
    rw [List.take_append_of_le_length hlt.le]
  have hold : l.zipIdx.filterMap (fun e =>
        (((l ++ [b]).take e.2).find? fun c => key c = key e.1).map (·, e.1)) =
      repeats key l := List.filterMap_congr fun e he => by rw [hearlier e he]
  rw [repeats, List.zipIdx_append, List.filterMap_append, hold]
  cases hfind : l.find? fun c => key c = key b <;> simp [hfind]

/-- An item is repeated where an earlier one has its key, and it repeats the first of these. -/
theorem mem_repeats_iff {a : β} : (a, b) ∈ repeats key l ↔
    ∃ before after, l = before ++ b :: after ∧ before.find? (fun c => key c = key b) = some a := by
  rw [repeats, List.mem_filterMap]
  constructor
  · rintro ⟨⟨c, i⟩, hc, hfind⟩
    obtain ⟨d, hd, hpair⟩ := Option.map_eq_some_iff.1 hfind
    obtain ⟨rfl, rfl⟩ := Prod.mk.inj hpair
    obtain ⟨hlt, hget⟩ := List.getElem?_eq_some_iff.1 (List.mem_zipIdx_iff_getElem?.1 hc)
    refine ⟨l.take i, l.drop (i + 1), ?_, hd⟩
    rw [← hget, List.getElem_cons_drop, List.take_append_drop]
  · rintro ⟨before, after, rfl, hfind⟩
    refine ⟨(b, before.length), ?_, ?_⟩
    · rw [List.mem_zipIdx_iff_getElem?]
      simp
    · rw [List.take_left, hfind]
      rfl

theorem repeats_of_nodup (hl : (l.map key).Nodup) : repeats key l = [] := by
  rw [List.eq_nil_iff_forall_not_mem]
  rintro ⟨a, b⟩ hab
  obtain ⟨before, after, rfl, hfind⟩ := mem_repeats_iff.1 hab
  have ha : key a ∈ before.map key := List.mem_map_of_mem (List.mem_of_find?_eq_some hfind)
  have hkey : key a = key b := by simpa using List.find?_some hfind
  rw [List.map_append, List.map_cons, List.nodup_append] at hl
  exact hl.2.2 (key a) ha (key b) List.mem_cons_self hkey

/-! ## Leaving items out

Items that are left out may have been the first of their key. That makes no difference to
what is kept if another item takes their place before anything else does.
-/

variable (key) (f : α → β) (stays : α → Bool)

/-- Whether each item that is left out and is the first of its key is followed by the same
item, which stays, and no new key comes between the two. -/
def Echoed (seen : List β) (l : List α) : Prop :=
  ∀ before a after, l = before ++ a :: after → stays a = false →
    Fresh key (seen ++ before.map f) (f a) →
    ((after.filter stays).map f).find? (fun b => Fresh key (seen ++ before.map f) b) = some (f a)

variable {key f stays}

/-- Whether an item at the head is echoed can be told apart from the rest. -/
private theorem echoed_cons (seen : List β) (a : α) (l : List α) :
    Echoed key f stays seen (a :: l) ↔
      (stays a = false → Fresh key seen (f a) →
        ((l.filter stays).map f).find? (fun b => Fresh key seen b) = some (f a)) ∧
      Echoed key f stays (seen ++ [f a]) l := by
  constructor
  · intro h
    refine ⟨fun ha hf => by simpa using h [] a l rfl ha (by simpa using hf), ?_⟩
    intro before b after hl hb hfresh
    have := h (a :: before) b after (by simp [hl]) hb (by simpa using hfresh)
    simpa using this
  · rintro ⟨hhead, htail⟩ before b after hl hb hfresh
    cases before with
    | nil =>
        obtain ⟨rfl, rfl⟩ := List.cons.inj hl
        simpa using hhead hb (by simpa using hfresh)
    | cons c before =>
        obtain ⟨rfl, hrest⟩ := List.cons.inj hl
        have := htail before b after hrest hb (by simpa using hfresh)
        simpa using this

theorem prefix_foldl_keep (kept l : List β) : kept <+: l.foldl (keep key) kept := by
  induction l generalizing kept with
  | nil => exact List.prefix_rfl
  | cons b l ih =>
      refine List.IsPrefix.trans ?_ (ih (keep key kept b))
      unfold keep
      split
      · exact List.prefix_append kept [b]
      · exact List.prefix_rfl

/-- The next item that is kept is the first with a new key. -/
theorem foldl_keep_of_find? (h : l.find? (fun c => Fresh key kept c) = some b) :
    l.foldl (keep key) kept = l.foldl (keep key) (kept ++ [b]) := by
  induction l with
  | nil => cases h
  | cons c l ih =>
      rw [List.find?_cons] at h
      by_cases hc : Fresh key kept c
      · have hcb : c = b := by simpa [hc] using h
        have hstale : ¬Fresh key (kept ++ [b]) b := fun hb => hb b (by simp) rfl
        subst hcb
        simp only [List.foldl_cons, keep, if_pos hc, if_neg hstale]
      · have hstale : ¬Fresh key (kept ++ [b]) c := fun hb =>
          hc fun d hd => hb d (List.mem_append_left _ hd)
        simp only [List.foldl_cons, keep, if_neg hc, if_neg hstale]
        exact ih (by simpa [hc] using h)

theorem foldl_keep_of_find?_none (h : l.find? (fun c => Fresh key kept c) = none) :
    l.foldl (keep key) kept = kept := by
  induction l with
  | nil => rfl
  | cons c l ih =>
      rw [List.find?_cons] at h
      by_cases hc : Fresh key kept c
      · simp [hc] at h
      · rw [List.foldl_cons, keep, if_neg hc]
        exact ih (by simpa [hc] using h)

/-- Where a new item is kept, keeping the items of a list instead gives the same only if the
first new one of them is that item. -/
private theorem foldl_keep_eq_append_iff (kept : List β) (b : β) (l l' : List β) :
    l.foldl (keep key) kept = l'.foldl (keep key) (kept ++ [b]) ↔
      l.find? (fun c => Fresh key kept c) = some b ∧
        l.foldl (keep key) (kept ++ [b]) = l'.foldl (keep key) (kept ++ [b]) := by
  refine ⟨fun h => ?_, fun ⟨hfind, h⟩ => (foldl_keep_of_find? hfind).trans h⟩
  have hb : kept ++ [b] <+: l.foldl (keep key) kept := h ▸ prefix_foldl_keep _ _
  cases hfind : l.find? (fun c => Fresh key kept c) with
  | none =>
      rw [foldl_keep_of_find?_none hfind] at hb
      have := hb.length_le
      simp at this
  | some c =>
      have hc : kept ++ [c] <+: l.foldl (keep key) kept :=
        foldl_keep_of_find? hfind ▸ prefix_foldl_keep _ _
      have heq : kept ++ [c] = kept ++ [b] :=
        (List.prefix_of_prefix_length_le hc hb (by simp)).eq_of_length (by simp)
      have hcb : c = b := by simpa using heq
      subst hcb
      exact ⟨rfl, (foldl_keep_of_find? hfind).symm.trans h⟩

private theorem foldl_keep_filter_iff (l : List α) (kept seen : List β)
    (hseen : ∀ b, Fresh key kept b ↔ Fresh key seen b) :
    ((l.filter stays).map f).foldl (keep key) kept = (l.map f).foldl (keep key) kept ↔
      Echoed key f stays seen l := by
  induction l generalizing kept seen with
  | nil => simp [Echoed]
  | cons a l ih =>
      have hnext : ∀ b, Fresh key (keep key kept (f a)) b ↔ Fresh key (seen ++ [f a]) b := by
        intro b
        rw [fresh_keep]
        have hb := hseen b
        simp only [Fresh, List.forall_mem_append] at hb ⊢
        rw [hb]
      rw [echoed_cons, ← ih _ _ hnext, List.map_cons, List.foldl_cons]
      cases ha : stays a with
      | true => simp [ha]
      | false =>
          simp only [List.filter_cons, ha, Bool.false_eq_true, if_false, true_implies]
          by_cases hf : Fresh key kept (f a)
          · have hfind : (fun b => decide (Fresh key kept b)) = fun b =>
                decide (Fresh key seen b) := by
              funext b
              simp [hseen b]
            rw [keep, if_pos hf, foldl_keep_eq_append_iff, hfind]
            simp [(hseen _).1 hf]
          · have hs : ¬Fresh key seen (f a) := fun h => hf ((hseen _).2 h)
            simp [keep, hf, hs]

/-- What is kept stays the same when items are left out exactly if each of these is echoed
where it was the first of its key. -/
theorem firsts_filter_iff (l : List α) :
    firsts key ((l.filter stays).map f) = firsts key (l.map f) ↔ Echoed key f stays [] l :=
  foldl_keep_filter_iff l [] [] fun _ => Iff.rfl

end CrateGraph.First
