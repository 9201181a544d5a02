import CrateGraph.Json.Tree
import CrateGraph.Proofs.Decode.Rearranged
import CrateGraph.Proofs.Json.Printed

/-!
# A printed tree is read back

The reader of JSON takes the tokens of a tree one at a time, and after the last of them it has
handed the tree to the innermost list or table that is open. It keeps the entries of each table
in the order of their keys, so what is read back is the tree with its tables in that order.

## Main results

* `foldlM_step_tokensOf` — what the tokens of a tree do to the state of the reader.
* `parseText_pretty` — the text of a tree is read as the tree with its tables in order.
-/

namespace CrateGraph.Json

/-! ## One step -/

theorem foldlM_step_cons {s s' : State} {t : Token} (h : step s t = .ok s') (ts : List Token) :
    (t :: ts).foldlM step s = ts.foldlM step s' := by
  rw [List.foldlM_cons, h]
  rfl

section Step

variable {stack : List Frame}

theorem step_openList (h : stack.length < deepest) :
    step (.reading .value stack) .openList = .ok (.reading .firstItem (.list [] :: stack)) := by
  show push (.list []) .firstItem stack = _
  rw [push, if_pos h]

theorem step_openTable (h : stack.length < deepest) :
    step (.reading .value stack) .openTable = .ok (.reading .firstKey (.table [] :: stack)) := by
  show push (.table []) .firstKey stack = _
  rw [push, if_pos h]

/-- The tokens of a tree do not start with the end of a list. -/
theorem exists_tokensOf_eq_cons (v : Value) : ∃ t ts, tokensOf v = t :: ts ∧ t ≠ .closeList := by
  cases v with
  | list items => cases items <;> exact ⟨_, _, rfl, nofun⟩
  | table entries => cases entries <;> exact ⟨_, _, rfl, nofun⟩
  | _ => exact ⟨_, _, rfl, nofun⟩

/-- The first item of a list is read as any value is. -/
theorem foldlM_step_firstItem (v : Value) (ts : List Token) :
    (tokensOf v ++ ts).foldlM step (.reading .firstItem stack) =
      (tokensOf v ++ ts).foldlM step (.reading .value stack) := by
  obtain ⟨t, rest, hv, ht⟩ := exists_tokensOf_eq_cons v
  have hstep : step (.reading .firstItem stack) t = step (.reading .value stack) t := by
    rw [step, step]
    exact fun _ hclose _ => ht hclose
  rw [hv, List.cons_append, List.foldlM_cons, List.foldlM_cons, hstep]

end Step

/-! ## Trees -/

mutual

/-- After its tokens a tree is handed to what is open, with its tables in order. -/
theorem foldlM_step_tokensOf {room : Nat} {stack : List Frame}
    (hroom : room + stack.length ≤ deepest) (ts : List Token) :
    (v : Value) → v.Writable room →
      (tokensOf v ++ ts).foldlM step (.reading .value stack) =
        ts.foldlM step (deliver v.sorted stack)
  | .null, _ | .bool _, _ | .int _, _ | .real _, _ | .text _, _ => foldlM_step_cons rfl ts
  | .list [], ⟨hlt, _⟩ =>
      (foldlM_step_cons (step_openList (by omega)) _).trans (foldlM_step_cons rfl ts)
  | .list (v :: items), ⟨hlt, hv, hitems⟩ => by
      have hopen := step_openList (show stack.length < deepest by omega)
      -- the open list takes one place of the room
      have hinside : room - 1 + (stack.length + 1) ≤ deepest := by omega
      rw [tokensOf, List.cons_append, List.cons_append, List.cons_append, foldlM_step_cons hopen,
        List.append_assoc, List.append_assoc, foldlM_step_firstItem,
        foldlM_step_tokensOf hinside _ v hv]
      exact foldlM_step_tokensOfItems hinside [v.sorted] ts items hitems
  | .table [], ⟨hlt, _⟩ =>
      (foldlM_step_cons (step_openTable (by omega)) _).trans (foldlM_step_cons rfl ts)
  | .table ((k, v) :: entries), ⟨hlt, hv, hentries⟩ => by
      have hopen := step_openTable (show stack.length < deepest by omega)
      have hkey : step (.reading .firstKey (.table [] :: stack)) (.text k) =
          .ok (.reading .colon (.entry [] k :: stack)) := rfl
      have hcolon : step (.reading .colon (.entry [] k :: stack)) .colon =
          .ok (.reading .value (.entry [] k :: stack)) := rfl
      have hinside : room - 1 + (stack.length + 1) ≤ deepest := by omega
      simp only [tokensOf, List.cons_append, List.append_assoc]
      rw [foldlM_step_cons hopen, foldlM_step_cons hkey, foldlM_step_cons hcolon,
        foldlM_step_tokensOf hinside _ v hv]
      exact foldlM_step_tokensOfEntries hinside (Table.empty.insert k v.sorted) ts entries hentries

/-- The items of a list are gathered up to its end. -/
theorem foldlM_step_tokensOfItems {room : Nat} {stack : List Frame}
    (hroom : room + (stack.length + 1) ≤ deepest) (done : List Value) (ts : List Token) :
    (items : List Value) → Value.WritableItems room items →
      (tokensOfItems items ++ .closeList :: ts).foldlM step
          (.reading .separator (.list done :: stack)) =
        ts.foldlM step (deliver (.list (done.reverse ++ Value.sortedItems items)) stack)
  | [], _ => by
      rw [Value.sortedItems, List.append_nil]
      exact foldlM_step_cons rfl ts
  | v :: items, ⟨hv, hitems⟩ => by
      have hcomma : step (.reading .separator (.list done :: stack)) .comma =
          .ok (.reading .value (.list done :: stack)) := rfl
      have hdone : done.reverse ++ Value.sortedItems (v :: items) =
          (v.sorted :: done).reverse ++ Value.sortedItems items := by
        rw [Value.sortedItems, List.reverse_cons, List.append_assoc, List.singleton_append]
      simp only [tokensOfItems, List.cons_append, List.append_assoc]
      rw [foldlM_step_cons hcomma, foldlM_step_tokensOf hroom _ v hv, hdone]
      exact foldlM_step_tokensOfItems hroom (v.sorted :: done) ts items hitems

/-- The entries of a table are inserted up to its end. -/
theorem foldlM_step_tokensOfEntries {room : Nat} {stack : List Frame}
    (hroom : room + (stack.length + 1) ≤ deepest) (done : Table Value) (ts : List Token) :
    (entries : List (String × Value)) → Value.WritableEntries room entries →
      (tokensOfEntries entries ++ .closeTable :: ts).foldlM step
          (.reading .separator (.table done.entries :: stack)) =
        ts.foldlM step (deliver (.table ((Value.sortedEntries entries).foldl
          (fun t e => t.insert e.1 e.2) done).entries) stack)
  | [], _ => foldlM_step_cons rfl ts
  | (k, v) :: entries, ⟨hv, hentries⟩ => by
      have hcomma : step (.reading .separator (.table done.entries :: stack)) .comma =
          .ok (.reading .key (.table done.entries :: stack)) := rfl
      have hkey : step (.reading .key (.table done.entries :: stack)) (.text k) =
          .ok (.reading .colon (.entry done.entries k :: stack)) := rfl
      have hcolon : step (.reading .colon (.entry done.entries k :: stack)) .colon =
          .ok (.reading .value (.entry done.entries k :: stack)) := rfl
      simp only [tokensOfEntries, List.cons_append, List.append_assoc]
      rw [foldlM_step_cons hcomma, foldlM_step_cons hkey, foldlM_step_cons hcolon,
        foldlM_step_tokensOf hroom _ v hv]
      exact foldlM_step_tokensOfEntries hroom (done.insert k v.sorted) ts entries hentries

end

/-- The text of a tree is read as the tree with its tables in order. -/
theorem parseText_pretty {v : Value} (h : v.Writable deepest) :
    parseText (pretty v) = .ok v.sorted := by
  have hroom : deepest + ([] : List Frame).length ≤ deepest := Nat.le_refl _
  have hfold := foldlM_step_tokensOf hroom [] v h
  rw [List.append_nil] at hfold
  rw [parseText, parse, tokens_pretty h, hfold]
  rfl

end CrateGraph.Json
