import CrateGraph.Text.Alphanumeric
import CrateGraph.Text.Basic

/-!
# Target platforms

A dependency may be limited to a platform, which is the name of a target or a condition
`cfg(...)` on the settings of a compilation: a setting alone, a setting with a value, and
`all`, `any` and `not` of conditions.
-/

namespace CrateGraph

/-- A condition on the settings of a compilation. -/
inductive Condition where
  | set (name : String)
  | equal (name value : String)
  | not (c : Condition)
  | all (cs : List Condition)
  | any (cs : List Condition)
deriving Repr

/-- Where a dependency applies. -/
inductive Platform where
  | target (name : String)
  | cfg (c : Condition)
deriving Repr

namespace Platform

/-- A token of a condition. -/
inductive Token where
  | openParen
  | closeParen
  | comma
  | equals
  | ident (name : String)
  | quoted (value : String)
deriving DecidableEq, Repr

/-- The kind of a token in words. -/
def Token.kind : Token → String
  | .openParen => "`(`"
  | .closeParen => "`)`"
  | .comma => "`,`"
  | .equals => "`=`"
  | .ident _ => "an identifier"
  | .quoted _ => "a string"

/-- Why a text is no platform. -/
inductive Fault where
  | openString
  | unexpectedChar (c : Char)
  | unexpectedToken (expected found : String)
  | incomplete (expected : String)
  | trailing (rest : String)
  | unexpectedParen
  | unexpectedInName (c : Char)
deriving DecidableEq, Repr

/-- The fault in words. -/
def Fault.message : Fault → String
  | .openString => "unterminated string in cfg"
  | .unexpectedChar c =>
    "unexpected character `" ++ c.toString
      ++ "` in cfg, expected parens, a comma, an identifier, or a string"
  | .unexpectedToken expected found => "expected " ++ expected ++ ", found " ++ found
  | .incomplete expected => "expected " ++ expected ++ ", but cfg expression ended"
  | .trailing rest => "unexpected content `" ++ rest ++ "` found after cfg expression"
  | .unexpectedParen =>
    "invalid target specifier: unexpected `(` character, cfg expressions must start with `cfg(`"
  | .unexpectedInName c =>
    "invalid target specifier: unexpected character " ++ c.toString ++ " in target name"

/-- A fault and the text it was found in. -/
structure Error where
  text : String
  fault : Fault
deriving DecidableEq, Repr

/-- The error in words. -/
def Error.message (e : Error) : String :=
  "failed to parse `" ++ e.text ++ "` as a cfg expression: " ++ e.fault.message

/-- What stands at some place of a condition: a token, or a text that is none, and all of
the text from there on. -/
structure Lexeme where
  content : Except Fault Token
  onward : List Char

/-- Whether a character can stand in the name of a setting after its first. -/
def isNameChar (c : Char) : Bool := c = '_' || c.isAlphanum

/-- Whether a name of a setting can start with a character. -/
def startsName (c : Char) : Bool := c = '_' || c.isAlpha

/-- The token that starts with a character, and what follows it. -/
def readToken (c : Char) (rest : List Char) : Except Fault Token × List Char :=
  if c = '(' then (.ok .openParen, rest)
  else if c = ')' then (.ok .closeParen, rest)
  else if c = ',' then (.ok .comma, rest)
  else if c = '=' then (.ok .equals, rest)
  else if c = '"' then
    match rest.dropWhile (· ≠ '"') with
    | _ :: after => (.ok (.quoted (String.ofList (rest.takeWhile (· ≠ '"')))), after)
    | [] => (.error .openString, [])
  else if startsName c then
    (.ok (.ident (String.ofList (c :: rest.takeWhile isNameChar))), rest.dropWhile isNameChar)
  else (.error (.unexpectedChar c), rest)

theorem dropWhile_length {α : Type u} (p : α → Bool) (l : List α) :
    (l.dropWhile p).length ≤ l.length :=
  (List.dropWhile_suffix p).length_le

theorem readToken_length (c : Char) (rest : List Char) :
    (readToken c rest).2.length ≤ rest.length := by
  unfold readToken
  split
  · simp
  split
  · simp
  split
  · simp
  split
  · simp
  split
  · have := dropWhile_length (· ≠ '"') rest
    split
    · rename_i heq
      rw [heq] at this
      simp only [List.length_cons] at this
      simp only
      omega
    · simp
  split
  · exact dropWhile_length _ rest
  · simp

/-- The lexemes of a text. -/
def lexemes : List Char → List Lexeme
  | [] => []
  | c :: rest =>
    if c = ' ' then lexemes rest
    else ⟨(readToken c rest).1, c :: rest⟩ :: lexemes (readToken c rest).2
termination_by cs => cs.length
decreasing_by
  · simp
  · have := readToken_length c rest
    simp only [List.length_cons]
    omega

/-- Lexemes that are left of others. -/
abbrev Rest (ls : List Lexeme) := { rest : List Lexeme // rest.length < ls.length }

/-- What follows an expected token. -/
def eat (t : Token) : (ls : List Lexeme) → Except Fault (Rest ls)
  | [] => .error (.incomplete t.kind)
  | ⟨.error e, _⟩ :: _ => .error e
  | ⟨.ok t', _⟩ :: rest =>
    if t = t' then .ok ⟨rest, by simp⟩ else .error (.unexpectedToken t.kind t'.kind)

/-- The setting at the start of lexemes, with its value if it has one. -/
def readSetting : (ls : List Lexeme) → Except Fault (Condition × Rest ls)
  | [] => .error (.incomplete "identifier")
  | ⟨.error e, _⟩ :: _ => .error e
  | ⟨.ok (.ident name), _⟩ :: ⟨.ok .equals, _⟩ :: rest =>
    match rest with
    | [] => .error (.incomplete "a string")
    | ⟨.error e, _⟩ :: _ => .error e
    | ⟨.ok (.quoted value), _⟩ :: rest =>
      .ok (.equal name value, ⟨rest, by simp only [List.length_cons]; omega⟩)
    | ⟨.ok t, _⟩ :: _ => .error (.unexpectedToken "a string" t.kind)
  | ⟨.ok (.ident name), _⟩ :: rest => .ok (.set name, ⟨rest, by simp⟩)
  | ⟨.ok t, _⟩ :: _ => .error (.unexpectedToken "identifier" t.kind)

mutual

/-- The condition at the start of lexemes. -/
def readCondition (ls : List Lexeme) : Except Fault (Condition × Rest ls) :=
  match ls with
  | [] => .error (.incomplete "start of a cfg expression")
  | ⟨.error e, _⟩ :: _ => .error e
  | ⟨.ok t, s⟩ :: rest =>
    if t = .ident "all" || t = .ident "any" then do
      let ⟨after, h⟩ ← eat .openParen rest
      let (cs, ⟨after', h'⟩) ← readConditions after
      return (if t = .ident "all" then .all cs else .any cs,
        ⟨after', by simp only [List.length_cons]; omega⟩)
    else if t = .ident "not" then do
      let ⟨after, h⟩ ← eat .openParen rest
      let (c, ⟨after', h'⟩) ← readCondition after
      let ⟨after'', h''⟩ ← eat .closeParen after'
      return (.not c, ⟨after'', by simp only [List.length_cons]; omega⟩)
    else readSetting (⟨.ok t, s⟩ :: rest)
termination_by (ls.length, 0)
decreasing_by
  all_goals simp only [List.length_cons]; apply Prod.Lex.left; omega

/-- The conditions up to a closing parenthesis, with commas between them. -/
def readConditions (ls : List Lexeme) : Except Fault (List Condition × Rest ls) :=
  match ls with
  | ⟨.ok .closeParen, _⟩ :: rest => .ok ([], ⟨rest, by simp⟩)
  | ls => do
    let (c, ⟨after, h⟩) ← readCondition ls
    match after, h with
    | ⟨.ok .comma, _⟩ :: after, h => do
      let (cs, ⟨after', h'⟩) ← readConditions after
      return (c :: cs, ⟨after', by simp only [List.length_cons] at h; omega⟩)
    | after, h => do
      let ⟨after', h'⟩ ← eat .closeParen after
      return ([c], ⟨after', by omega⟩)
termination_by (ls.length, 1)
decreasing_by
  · apply Prod.Lex.right; omega
  · simp only [List.length_cons] at h; apply Prod.Lex.left; omega

end

/-- The condition that a text is. -/
def parseCondition (s : String) : Except Fault Condition := do
  let (c, ⟨rest, _⟩) ← readCondition (lexemes s.toList)
  match rest with
  | [] => return c
  | l :: _ => throw (.trailing (String.ofList l.onward))

/-- Whether a character can stand in the name of a target. -/
def isTargetChar (c : Char) : Bool :=
  Text.isAlphanumeric c || c = '_' || c = '-' || c = '.'

/-- The text inside `cfg(` and `)`, if a text has that form. -/
def conditionText? (s : String) : Option String :=
  match Text.stripStart? "cfg(" s with
  | none => none
  | some rest =>
    if rest.toList.getLast? = some ')' then some (String.ofList rest.toList.dropLast) else none

/-- The platform that a text is. -/
def parse (s : String) : Except Error Platform :=
  match conditionText? s with
  | some inner => ((parseCondition inner).map .cfg).mapError (⟨inner, ·⟩)
  | none =>
    match s.toList.find? fun c => !isTargetChar c with
    | none => .ok (.target s)
    | some c =>
      .error ⟨s, if s.toList.contains '(' then .unexpectedParen else .unexpectedInName c⟩

end Platform

end CrateGraph
