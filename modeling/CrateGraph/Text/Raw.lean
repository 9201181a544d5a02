import CrateGraph.Text.Utf8

/-!
# Raw texts

What a program reads and writes need not be text. Where it is treated as one, a raw text
stands for it: it has one character for each byte, so that nothing is lost, and the
characters of ASCII stand for themselves.
-/

namespace CrateGraph.Text

/-- The raw text of bytes. -/
def raw (bs : Bytes) : String := String.ofList (bs.map fun b => Char.ofNat b.toNat)

/-- The bytes that a raw text stands for. -/
def unraw (s : String) : Bytes := s.toList.map fun c => c.toNat.toUInt8

/-- The raw text of a text. -/
def rawOf (s : String) : String := raw (toBytes s)

end CrateGraph.Text
