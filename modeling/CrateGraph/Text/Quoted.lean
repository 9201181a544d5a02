import CrateGraph.Text.Shapeless

/-!
# Quoted text in messages

A message that names a text or a character puts it in quotes and makes visible what
would not be: the quote itself and the backslash get a backslash, the common controls
their letter, and every other character without a shape of its own its number.
-/

namespace CrateGraph.Text

/-- A character as its number in hexadecimal, as in `\u{301}`. -/
def numbered (c : Char) : List Char :=
  ['\\', 'u', '\x7b'] ++ Nat.toDigits 16 c.toNat ++ ['\x7d']

/-- A character inside quotes of the given kind. -/
def quotedChar (quote c : Char) : List Char :=
  if c = '\x00' then ['\\', '0']
  else if c = '\t' then ['\\', 't']
  else if c = '\r' then ['\\', 'r']
  else if c = '\n' then ['\\', 'n']
  else if c = '\\' || c = quote then ['\\', c]
  else if isShapeless c then numbered c
  else [c]

/-- A text in double quotes. -/
def quoted (s : String) : String :=
  String.ofList (['"'] ++ s.toList.flatMap (quotedChar '"') ++ ['"'])

/-- A single character in single quotes. -/
def quotedSingle (c : Char) : String :=
  String.ofList (['\''] ++ quotedChar '\'' c ++ ['\''])

end CrateGraph.Text
