import CrateGraph.Text.Basic

/-!
# Patterns

A pattern is what a text is like: an asterisk stands for any text, a question mark for any
character, and brackets for one of some characters. A character that is quoted stands for
itself.
-/

namespace CrateGraph.Shell

/-- A character of a pattern, and whether it stands for itself alone. -/
abbrev PatternChar := Char × Bool

/-- A pattern. -/
abbrev Pattern := List PatternChar

namespace Pattern

/-- Whether a character belongs to a class that has a name. -/
def isOfClass (name : String) (c : Char) : Bool :=
  let n := c.toNat
  let upper := 'A' ≤ c && c ≤ 'Z'
  let lower := 'a' ≤ c && c ≤ 'z'
  let blank := c = ' ' || c = '\t'
  match name with
  | "alpha" => upper || lower
  | "digit" => c.isDigit
  | "alnum" => upper || lower || c.isDigit
  | "upper" => upper
  | "lower" => lower
  | "space" => c = ' ' || (9 ≤ n && n ≤ 13)
  | "blank" => blank
  | "punct" => 33 ≤ n && n ≤ 126 && !(upper || lower || c.isDigit)
  | "print" => 32 ≤ n && n ≤ 126
  | "graph" => 33 ≤ n && n ≤ 126
  | "cntrl" => n < 32 || n = 127
  | "xdigit" => c.isDigit || ('a' ≤ c && c ≤ 'f') || ('A' ≤ c && c ≤ 'F')
  | _ => false

/-- The name of the class at the start of a pattern, after its first bracket, and what
follows it. -/
def className? (p : Pattern) : Option (String × Pattern) :=
  match p with
  | (':', false) :: rest =>
    let name := rest.takeWhile fun c => c.1.isAlpha
    match rest.drop name.length with
    | (':', _) :: (']', _) :: after => some (String.ofList (name.map (·.1)), after)
    | _ => none
  | _ => none

/-- The characters in brackets, as a test, and what follows them, if they are closed. A
bracket that closes is an ordinary character if it comes first. -/
def members? : Nat → Bool → Pattern → Option ((Char → Bool) × Pattern)
  | 0, _, _ => none
  | _, _, [] => none
  | steps + 1, first, (c, quoted) :: rest =>
    if c = ']' && !quoted && !first then some (fun _ => false, rest)
    else match if c = '[' && !quoted then className? rest else none with
      | some (name, rest) =>
        (members? steps false rest).map fun m => (fun d => isOfClass name d || m.1 d, m.2)
      | none =>
        match rest with
        | ('-', false) :: (hi, q) :: after =>
          if hi = ']' && !q then
            (members? steps false rest).map fun m => (fun d => d = c || m.1 d, m.2)
          else
            (members? steps false after).map fun m =>
              (fun d => (c ≤ d && d ≤ hi) || m.1 d, m.2)
        | rest => (members? steps false rest).map fun m => (fun d => d = c || m.1 d, m.2)

/-- The test for a character that brackets stand for, and what follows them. -/
def brackets? (p : Pattern) : Option ((Char → Bool) × Pattern) :=
  match p with
  | ('!', false) :: rest =>
    (members? (rest.length + 1) true rest).map fun m => (fun c => !m.1 c, m.2)
  | p => members? (p.length + 1) true p

/-- Whether a text is like a pattern. `steps` bounds the characters of both. -/
def fitsIn : Nat → Pattern → List Char → Bool
  | 0, _, _ => false
  | _, [], s => s.isEmpty
  | steps + 1, ('*', false) :: p, s =>
    fitsIn steps p s || match s with
      | _ :: s => fitsIn steps (('*', false) :: p) s
      | [] => false
  | steps + 1, (c, quoted) :: p, s =>
    match s with
    | [] => false
    | d :: s =>
      if c = '?' && !quoted then fitsIn steps p s
      else match if c = '[' && !quoted then brackets? p else none with
        | some (test, rest) => test d && fitsIn steps rest s
        | none => c = d && fitsIn steps p s

/-- Whether a text is like a pattern. -/
def fits (p : Pattern) (s : List Char) : Bool := p.fitsIn (p.length + s.length + 1) s

/-- Whether a pattern has characters that do not stand for themselves. -/
def isSpecial (p : Pattern) : Bool :=
  p.any fun c => !c.2 && (c.1 = '*' || c.1 = '?' || c.1 = '[')

/-- The text of a pattern. -/
def text (p : Pattern) : String := String.ofList (p.map (·.1))

/-- A text without the part at its start that is like a pattern: the longest such part or
the shortest one. -/
def trimStart (p : Pattern) (longest : Bool) (s : List Char) : List Char :=
  let sizes := List.range (s.length + 1)
  match (if longest then sizes.reverse else sizes).find? fun n => p.fits (s.take n) with
  | some n => s.drop n
  | none => s

/-- A text without the part at its end that is like a pattern. -/
def trimEnd (p : Pattern) (longest : Bool) (s : List Char) : List Char :=
  let sizes := List.range (s.length + 1)
  match (if longest then sizes else sizes.reverse).find? fun n => p.fits (s.drop n) with
  | some n => s.take n
  | none => s

end Pattern

end CrateGraph.Shell
