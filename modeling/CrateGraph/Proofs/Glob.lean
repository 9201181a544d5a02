import CrateGraph.Glob
import Mathlib

/-!
# Patterns that are negated

A pattern is checked without its negation and its token, and only one negation is taken away.
To put a negation in front of a pattern leaves it valid as long as it had none. If it had one,
this is now a character of the pattern, and whatever came after it stands inside of a path
component where it stood at the start of one. That makes a difference for a `**` only.

## Main results

* `scan_ok_congr` — whether a pattern is valid does not depend on where counting starts.
* `scan_fresh_eq_inside`, `scan_inside_recursive_ne_ok` — a reader at the start of a path
  component and one inside differ at a `**` alone.
* `valid_negate_iff` — which valid patterns are valid when they are negated.
-/

namespace CrateGraph.Glob

/-! ## Places and positions -/

/-- Places that differ at most in where a class was opened. -/
inductive Place.Alike : Place → Place → Prop
  | fresh : Alike .fresh .fresh
  | inside : Alike .inside .inside
  | inClass (opened opened' : Nat) : Alike (.inClass opened) (.inClass opened')

theorem Place.Alike.refl (place : Place) : place.Alike place := by
  cases place with
  | fresh => exact .fresh
  | inside => exact .inside
  | inClass opened => exact .inClass opened opened

/-- Positions are counted for the messages only. -/
theorem scan_ok_congr (place : Place) (n : Nat) (cs : List Char) :
    ∀ {place' m}, place.Alike place' →
      (scan place n cs = .ok () ↔ scan place' m cs = .ok ()) := by
  fun_induction scan place n cs with
  | case2 opened n rest ih =>
      -- The end of a class.
      intro place' m h
      cases h
      simp only [scan, if_true]
      exact ih .inside
  | case3 opened n c rest hc ih =>
      -- A character of a class.
      intro place' m h
      cases h
      simp only [scan, if_neg hc]
      exact ih (.inClass _ _)
  | case8 n rest _ ih =>
      -- A `**` that is a whole path component.
      intro place' m h
      cases h
      simp only [scan, if_true]
      exact ih .fresh
  | case10 place n c rest hplace ih | case12 place n c rest hplace _ _ ih =>
      -- A class is opened.
      intro place' m h
      cases h <;> simp_all only [scan]
      · exact ih (.inClass _ _)
      · exact ih (.inClass _ _)
      · exact (hplace _ rfl).elim
  | case14 place n c rest hplace _ _ _ _ _ _ _ _ ih =>
      -- A character that stands for itself, or a `*` or `?`.
      intro place' m h
      cases h <;> simp_all only [scan]
      · exact ih (.refl _)
      · exact ih (.refl _)
      · exact (hplace _ rfl).elim
  | _ =>
      -- The end of the text and the faults.
      intro place' m h
      cases h <;> simp_all [scan]

/-! ## Inside of a path component -/

/-- Without a `**` in front it makes no difference where in a path component a text starts. -/
theorem scan_fresh_eq_inside (n : Nat) {cs : List Char} (h : ∀ tail, cs ≠ '*' :: '*' :: tail) :
    scan .fresh n cs = scan .inside n cs := by
  generalize hp : Place.fresh = place
  fun_cases scan place n cs with
  | case14 =>
      subst hp
      simp_all [scan]
  | _ => simp_all [scan]

theorem scan_inside_recursive_ne_ok (n : Nat) (tail : List Char) :
    scan .inside n ('*' :: '*' :: tail) ≠ .ok () := by
  rcases tail with _ | ⟨c, tail⟩
  · simp [scan]
  · by_cases hc : c = '*' <;> simp [scan, hc]

/-- Outside of classes only a `*` and a `[` do more than to end or to go on with a path
component. -/
theorem scan_plain {place : Place} (hplace : ∀ opened, place ≠ .inClass opened) {c : Char}
    (hstar : c ≠ '*') (hclass : c ≠ '[') (n : Nat) (rest : List Char) :
    scan place n (c :: rest) = scan (if c = '/' then .fresh else .inside) (n + 1) rest := by
  cases place with
  | fresh => simp [scan, hstar, hclass]
  | inside => simp [scan, hstar, hclass]
  | inClass opened => exact absurd rfl (hplace opened)

/-- Characters that stand for themselves do not lead out of a path component. -/
theorem scan_inside_append {cs : List Char} (h : ∀ c ∈ cs, c ≠ '*' ∧ c ≠ '[' ∧ c ≠ '/') (n : Nat)
    (rest : List Char) : scan .inside n (cs ++ rest) = scan .inside (n + cs.length) rest := by
  induction cs generalizing n with
  | nil => rfl
  | cons c cs ih =>
      obtain ⟨⟨hstar, hclass, hslash⟩, hcs⟩ := List.forall_mem_cons.1 h
      rw [List.cons_append, scan_plain (by simp) hstar hclass, if_neg hslash, ih hcs,
        List.length_cons]
      congr 1
      omega

theorem hasStart_recursive_eq_false_iff (s : String) :
    Text.hasStart "**" s = false ↔ ∀ tail, s.toList ≠ '*' :: '*' :: tail := by
  have hstart : Text.hasStart "**" s = true ↔ ∃ tail, s.toList = '*' :: '*' :: tail := by
    rw [Text.hasStart, List.isPrefixOf_iff_prefix]
    exact ⟨fun ⟨tail, h⟩ => ⟨tail, h.symm⟩, fun ⟨tail, h⟩ => ⟨tail, h.symm⟩⟩
  rw [← Bool.not_eq_true, hstart, not_exists]

/-- A valid pattern that is read from inside of a path component is still one unless it begins
with a `**`. -/
theorem scan_inside_ok_iff {s : String} (h : check s = .ok ()) (n : Nat) :
    scan .inside n s.toList = .ok () ↔ Text.hasStart "**" s = false := by
  rw [hasStart_recursive_eq_false_iff]
  constructor
  · intro hinside tail hs
    rw [hs] at hinside
    exact scan_inside_recursive_ne_ok n tail hinside
  · intro hs
    rw [← scan_fresh_eq_inside n hs]
    exact (scan_ok_congr .fresh 0 s.toList .fresh).1 h

/-! ## Tokens -/

/-- A pattern without the token that it starts with. -/
def tokenless (pattern : String) : String :=
  match Text.stripStart? workspaceRoot pattern with
  | some rest => rest
  | none => (Text.stripStart? projectRoot pattern).getD pattern

/-- A pattern without its token and the slash after that. -/
def belowToken (pattern : String) : String :=
  match Text.stripStart? workspaceRoot pattern with
  | some rest => without "/" rest
  | none =>
    match Text.stripStart? projectRoot pattern with
    | some rest => without "/" rest
    | none => pattern

theorem stripTokens_eq (pattern : String) :
    stripTokens pattern = belowToken (without "!" pattern) := by
  unfold stripTokens belowToken
  rfl

theorem stripTokens_negate (pattern : String) :
    stripTokens (negate pattern) = belowToken pattern := by
  have hstart : Text.stripStart? "!" (negate pattern) = some pattern :=
    Text.stripStart?_eq_some_iff.2 rfl
  rw [stripTokens_eq, without, hstart, Option.getD_some]

/-- A pattern with a negation has no token in front. -/
theorem belowToken_negate (pattern : String) : belowToken (negate pattern) = negate pattern := by
  have hnone : ∀ token : String, token.toList.head? = some '\x7b' →
      Text.stripStart? token (negate pattern) = none := by
    intro token htoken
    cases hstart : Text.stripStart? token (negate pattern) with
    | none => rfl
    | some rest =>
        have hlist := congrArg (fun s => s.toList.head?) (Text.stripStart?_eq_some_iff.1 hstart)
        simp [negate, htoken] at hlist
  rw [belowToken, hnone workspaceRoot (by decide), hnone projectRoot (by decide)]

/-- A token stands for itself when it is read as part of a path component. -/
theorem scan_inside_token {token : String} (h : token ∈ [workspaceRoot, projectRoot]) (n : Nat)
    (rest : String) :
    scan .inside n (token ++ rest).toList =
      scan .inside (n + token.toList.length) rest.toList := by
  have hplain : ∀ token ∈ [workspaceRoot, projectRoot],
      ∀ c ∈ token.toList, c ≠ '*' ∧ c ≠ '[' ∧ c ≠ '/' := by
    simp [workspaceRoot, projectRoot]
  rw [String.toList_append, scan_inside_append (hplain token h)]

/-- The slash after a token leads to the start of a path component, where reading a pattern
without it starts as well. -/
theorem scan_inside_ok_iff_of_without {rest : String} (h : check (without "/" rest) = .ok ())
    (n : Nat) :
    scan .inside n rest.toList = .ok () ↔ Text.hasStart "**" rest = false := by
  cases hslash : Text.stripStart? "/" rest with
  | none =>
      rw [without, hslash, Option.getD_none] at h
      exact scan_inside_ok_iff h n
  | some below =>
      rw [without, hslash, Option.getD_some] at h
      have hlist : rest.toList = '/' :: below.toList := by
        rw [Text.stripStart?_eq_some_iff.1 hslash, String.toList_append]
        rfl
      have hstart : Text.hasStart "**" rest = false := by
        rw [hasStart_recursive_eq_false_iff, hlist]
        simp
      rw [hlist, scan_plain (by simp) (by decide) (by decide), if_pos rfl]
      exact iff_of_true ((scan_ok_congr .fresh 0 below.toList .fresh).1 h) hstart

theorem scan_inside_ok_iff_of_belowToken {s : String} (h : check (belowToken s) = .ok ())
    (n : Nat) :
    scan .inside n s.toList = .ok () ↔ Text.hasStart "**" (tokenless s) = false := by
  unfold belowToken at h
  unfold tokenless
  cases hw : Text.stripStart? workspaceRoot s with
  | some rest =>
      rw [hw] at h
      rw [Text.stripStart?_eq_some_iff.1 hw, scan_inside_token (by simp)]
      exact scan_inside_ok_iff_of_without h _
  | none =>
      rw [hw] at h
      cases hp : Text.stripStart? projectRoot s with
      | some rest =>
          rw [hp] at h
          rw [Text.stripStart?_eq_some_iff.1 hp, scan_inside_token (by simp)]
          exact scan_inside_ok_iff_of_without h _
      | none =>
          rw [hp] at h
          exact scan_inside_ok_iff h n

/-! ## Negation -/

/-- Whether a pattern is negated and, apart from that and its token, begins with a `**`. -/
def negatesRecursive (pattern : String) : Bool :=
  match Text.stripStart? "!" pattern with
  | some rest => Text.hasStart "**" (tokenless rest)
  | none => false

/-- A negation is read as a character if there is another one in front of it. -/
theorem check_negate (pattern : String) : check (negate pattern) = scan .inside 1 pattern.toList := by
  have hlist : (negate pattern).toList = '!' :: pattern.toList := by
    rw [negate, String.toList_append]
    rfl
  rw [check, hlist, scan_plain (by simp) (by decide) (by decide), if_neg (by decide)]

/-- A valid pattern stays valid when it is negated, unless it is negated already and then begins
with a `**`. -/
theorem valid_negate_iff {pattern : String} (h : Valid pattern) :
    Valid (negate pattern) ↔ negatesRecursive pattern = false := by
  unfold Valid at h ⊢
  rw [stripTokens_negate]
  rw [stripTokens_eq, without] at h
  unfold negatesRecursive
  cases hstart : Text.stripStart? "!" pattern with
  | none =>
      rw [hstart, Option.getD_none] at h
      exact iff_of_true h rfl
  | some rest =>
      rw [hstart, Option.getD_some] at h
      have hpattern : pattern = negate rest := Text.stripStart?_eq_some_iff.1 hstart
      rw [hpattern, belowToken_negate, check_negate]
      exact scan_inside_ok_iff_of_belowToken h 1

end CrateGraph.Glob
