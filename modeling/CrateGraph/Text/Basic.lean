/-!
# Cutting text

Operations on strings that the rest of the library needs, each defined on the list of
characters of a string so that it can be followed by induction.

## Main results

* `stripStart?_eq_some_iff`: a start is stripped exactly when the text is that start
  followed by the rest.
-/

namespace CrateGraph.Text

/-- What follows a start in a list of characters, if they begin with it. -/
def after? : List Char → List Char → Option (List Char)
  | [], cs => some cs
  | _ :: _, [] => none
  | a :: start, c :: cs => if a = c then after? start cs else none

/-- The rest of a text after a given start, if the text begins with it. -/
def stripStart? (start s : String) : Option String :=
  (after? start.toList s.toList).map String.ofList

/-- Whether a text begins with a given start. -/
def hasStart (start s : String) : Bool := start.toList.isPrefixOf s.toList

/-- Whether a character is white space. -/
def isBlank (c : Char) : Bool :=
  let n := c.toNat
  (0x9 ≤ n && n ≤ 0xd) || n == 0x20 || n == 0x85 || n == 0xa0 || n == 0x1680
    || (0x2000 ≤ n && n ≤ 0x200a) || n == 0x2028 || n == 0x2029 || n == 0x202f
    || n == 0x205f || n == 0x3000

/-- A text without the white space at its two ends. -/
def trim (s : String) : String :=
  String.ofList
    (((s.toList.dropWhile isBlank).reverse.dropWhile isBlank).reverse)

/-- The texts joined with a separator between each two. -/
def join (sep : String) : List String → String
  | [] => ""
  | [s] => s
  | s :: rest => s ++ sep ++ join sep rest

/-- A number with zeros in front up to a width. -/
def padded (width n : Nat) : String :=
  let digits := Nat.toDigits 10 n
  String.ofList (List.replicate (width - digits.length) '0' ++ digits)

theorem after?_eq_some_iff {start cs rest : List Char} :
    after? start cs = some rest ↔ cs = start ++ rest := by
  induction start generalizing cs with
  | nil => simp [after?, eq_comm]
  | cons a start ih =>
    cases cs with
    | nil => simp [after?]
    | cons c cs =>
      by_cases h : a = c
      · subst h
        simp [after?, ih]
      · simp [after?, h, Ne.symm h]

/-- Stripping a start undoes putting it in front, and does nothing else. -/
theorem stripStart?_eq_some_iff {start s rest : String} :
    stripStart? start s = some rest ↔ s = start ++ rest := by
  unfold stripStart?
  rw [Option.map_eq_some_iff]
  constructor
  · rintro ⟨cs, h, rfl⟩
    rw [after?_eq_some_iff] at h
    apply String.ext
    simp [h]
  · rintro rfl
    exact ⟨rest.toList, by rw [after?_eq_some_iff]; simp, by simp⟩

end CrateGraph.Text
