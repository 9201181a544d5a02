import CrateGraph.Shell.Numeral
import CrateGraph.Text.Raw

/-!
# What `echo` prints

A backslash in what is printed begins an escape, for the shell always, and for the program
of the same name if it is asked for. A number after a backslash stands for a byte. The
escape `\c` ends all printing. Texts are raw.
-/

namespace CrateGraph.Shell

/-- The character that a letter after a backslash stands for. -/
def controlOf? : Char → Option Char
  | 'a' => some '\x07'
  | 'b' => some '\x08'
  | 'e' => some '\x1b'
  | 'f' => some '\x0c'
  | 'n' => some '\n'
  | 'r' => some '\r'
  | 't' => some '\t'
  | 'v' => some '\x0b'
  | '\\' => some '\\'
  | _ => none

/-- Something printed, and whether printing ends with it. -/
structure Printed where
  chars : List Char
  last : Bool

namespace Printed

/-- Nothing. -/
def nothing : Printed := ⟨[], false⟩

/-- Two things printed one after the other. -/
def append (a b : Printed) : Printed := if a.last then a else ⟨a.chars ++ b.chars, b.last⟩

end Printed

/-- How escapes are read. -/
structure Escapes where
  /-- Whether printing can be ended. -/
  ending : Bool
  /-- Whether a zero may stand in front of the digits of a byte. -/
  zero : Bool
  /-- Whether digits without that zero stand for a byte as well. -/
  bare : Bool
  /-- Whether a byte may be given in hexadecimal. -/
  hexadecimal : Bool

namespace Escapes

/-- In what the shell's `echo` prints, and in values that are printed with escapes. -/
def shellText : Escapes := ⟨true, true, true, false⟩

/-- In the formats of the shell. -/
def shellFormat : Escapes := ⟨false, false, true, false⟩

/-- In what the program `echo` prints, and in values that are printed with escapes. -/
def programText : Escapes := ⟨true, true, true, true⟩

/-- In the formats of a program. -/
def programFormat : Escapes := ⟨true, false, true, true⟩

end Escapes

/-- The byte that a number is. -/
def byteChar (n : Nat) : Char := Char.ofNat (n % 256)

/-- What follows a backslash: what it stands for, and the rest. -/
def readEscape (e : Escapes) (cs : List Char) : Printed × List Char :=
  match cs with
  | [] => (⟨['\\'], false⟩, [])
  | c :: rest =>
    if c = 'c' && e.ending then (⟨[], true⟩, rest)
    else if c = 'x' && e.hexadecimal && rest.head?.any (isDigitIn 16) then
      let digits := (rest.take 2).takeWhile (isDigitIn 16)
      (⟨[byteChar (numberOf 16 digits)], false⟩, rest.drop digits.length)
    else match controlOf? c with
      | some d => (⟨[d], false⟩, rest)
      | none =>
        let digits := if e.zero && c = '0' && rest.head?.any isOctal then rest else cs
        if isOctal c && (e.bare || c = '0') then
          let octal := (digits.take 3).takeWhile isOctal
          (⟨[byteChar (numberOf 8 octal)], false⟩, digits.drop octal.length)
        else (⟨['\\', c], false⟩, rest)

/-- What a text with escapes stands for, after what has been read of it already. `steps`
bounds its characters. -/
def unescapeFrom (e : Escapes) : Nat → List Char → List Char → Printed
  | 0, before, _ => ⟨before.reverse, false⟩
  | _, before, [] => ⟨before.reverse, false⟩
  | steps + 1, before, c :: cs =>
    if c = '\\' then
      let (p, rest) := readEscape e cs
      if p.last then ⟨before.reverse ++ p.chars, true⟩
      else unescapeFrom e steps (p.chars.reverse ++ before) rest
    else unescapeFrom e steps (c :: before) cs

/-- What a text with escapes stands for. -/
def unescape (e : Escapes) (cs : List Char) : Printed := unescapeFrom e (cs.length + 1) [] cs

/-- What arguments print, with escapes or without, and with a line end or without. -/
def echoWith (escapes : Option Escapes) (newline : Bool) (args : List String) : String :=
  let cs := (String.intercalate " " args).toList
  let p := match escapes with
    | some e => unescape e cs
    | none => ⟨cs, false⟩
  String.ofList (p.append ⟨if newline then ['\n'] else [], false⟩).chars

/-- What the shell's own `echo` prints. -/
def echoed : List String → String
  | "-n" :: args => echoWith (some .shellText) false args
  | args => echoWith (some .shellText) true args

/-- What the program `echo` prints, whose options are the letters `n`, `e` and `E`. -/
def echoedPlain (escapes : Option Escapes) (newline : Bool) : List String → String
  | [] => echoWith escapes newline []
  | arg :: args =>
    match arg.toList with
    | '-' :: flags =>
      if !flags.isEmpty && flags.all fun c => c = 'n' || c = 'e' || c = 'E' then
        let escapes := match flags.reverse.find? (· ≠ 'n') with
          | some 'e' => some .programText
          | some _ => none
          | none => escapes
        echoedPlain escapes (newline && !flags.contains 'n') args
      else echoWith escapes newline (arg :: args)
    | _ => echoWith escapes newline (arg :: args)

end CrateGraph.Shell
