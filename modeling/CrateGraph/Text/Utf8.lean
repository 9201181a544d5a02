/-!
# Bytes and text

Text is stored in files and pipes as UTF-8. Reading a configuration demands well-formed
bytes; showing what a program printed does not, and there each maximal malformed piece
is shown as one replacement character.
-/

namespace CrateGraph

/-- The contents of a file or a pipe. -/
abbrev Bytes := List UInt8

namespace Text

/-- The bytes of a text. -/
def toBytes (s : String) : Bytes := s.toUTF8.data.toList

/-- The text of well-formed bytes. -/
def ofBytes? (bs : Bytes) : Option String := String.fromUTF8? ⟨bs.toArray⟩

/-- Shown in place of bytes that are no text. -/
def replacement : Char := '\uFFFD'

/-- Whether a byte lies in a closed range. -/
def inByteRange (lo hi b : UInt8) : Bool := lo ≤ b && b ≤ hi

/-- The range that the second byte of a sequence of three or four lies in: it rules out
overlong forms, surrogates and numbers past the last code point. -/
def secondRange (lead : UInt8) : UInt8 × UInt8 :=
  if lead = 0xe0 then (0xa0, 0xbf)
  else if lead = 0xed then (0x80, 0x9f)
  else if lead = 0xf0 then (0x90, 0xbf)
  else if lead = 0xf4 then (0x80, 0x8f)
  else (0x80, 0xbf)

/-- The code point of a lead byte's bits followed by those of its continuation bytes. -/
def codePoint (leadBits : Nat) (continuation : List UInt8) : Char :=
  Char.ofNat (continuation.foldl (fun n b => n * 64 + b.toNat % 64) leadBits)

/-- The character that a byte at or above 0x80 begins, and how many of the bytes after it
belong to it. Where the bytes are malformed, the character is `replacement`, and the count
covers those that a longer text could still have completed. -/
def readSequence (lead : UInt8) (rest : Bytes) : Char × Nat :=
  let tail := inByteRange 0x80 0xbf
  let second := fun b => inByteRange (secondRange lead).1 (secondRange lead).2 b
  if inByteRange 0xc2 0xdf lead then
    match rest with
    | b :: _ => if tail b then (codePoint (lead.toNat % 32) [b], 1) else (replacement, 0)
    | [] => (replacement, 0)
  else if inByteRange 0xe0 0xef lead then
    match rest with
    | b :: c :: _ =>
      if !second b then (replacement, 0)
      else if tail c then (codePoint (lead.toNat % 16) [b, c], 2)
      else (replacement, 1)
    | [b] => (replacement, if second b then 1 else 0)
    | [] => (replacement, 0)
  else if inByteRange 0xf0 0xf4 lead then
    match rest with
    | b :: c :: d :: _ =>
      if !second b then (replacement, 0)
      else if !tail c then (replacement, 1)
      else if tail d then (codePoint (lead.toNat % 8) [b, c, d], 3)
      else (replacement, 2)
    | [b, c] => (replacement, if !second b then 0 else if tail c then 2 else 1)
    | [b] => (replacement, if second b then 1 else 0)
    | [] => (replacement, 0)
  else (replacement, 0)

/-- The characters that bytes stand for after a few that belong to the character before, with a
replacement character for each malformed piece. -/
def shownFrom : Nat → Bytes → List Char
  | _, [] => []
  | skipped + 1, _ :: rest => shownFrom skipped rest
  | 0, b :: rest =>
    if b < 0x80 then Char.ofNat b.toNat :: shownFrom 0 rest
    else
      let c := readSequence b rest
      c.1 :: shownFrom c.2 rest

/-- The characters that bytes stand for. -/
def shownChars (bs : Bytes) : List Char := shownFrom 0 bs

/-- The text that bytes are shown as, well formed or not. -/
def shown (bs : Bytes) : String := String.ofList (shownChars bs)

end Text

end CrateGraph
