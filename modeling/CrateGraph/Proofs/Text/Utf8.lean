import CrateGraph.Text.Utf8
import Mathlib

/-!
# The bytes of a text

A text is stored character by character. A character of ASCII is one byte below 0x80, and any
other is a few bytes of which none is, so a reader that looks for characters of ASCII can go
through the bytes one at a time.

## Main results

* `toBytes_ofList`, `toBytes_append` — the bytes of a text are those of its characters.
* `ofBytes?_toBytes` — a text is read back from its bytes.
* `utf8EncodeChar_of_ascii`, `le_of_mem_utf8EncodeChar` — the bytes of one character.
-/

namespace CrateGraph.Text

theorem toBytes_ofList (l : List Char) :
    toBytes (String.ofList l) = l.flatMap String.utf8EncodeChar := by
  rw [toBytes, String.toUTF8_eq_toByteArray, String.toByteArray_ofList, List.utf8Encode,
    List.data_toByteArray]

theorem toBytes_append (s t : String) : toBytes (s ++ t) = toBytes s ++ toBytes t := by
  simp [toBytes]

theorem toBytes_singleton (c : Char) :
    toBytes (String.singleton c) = String.utf8EncodeChar c := by
  rw [String.singleton_eq_ofList, toBytes_ofList, List.flatMap_singleton]

/-- A text is read back from its bytes. -/
theorem ofBytes?_toBytes (s : String) : ofBytes? (toBytes s) = some s := by
  have hbytes : (⟨(toBytes s).toArray⟩ : ByteArray) = s.toByteArray := by
    simp [toBytes]
  rw [ofBytes?, hbytes, String.fromUTF8?, dif_pos s.isValidUTF8]
  rfl

/-- Bytes that are read as a text are those of that text. -/
theorem eq_toBytes_of_ofBytes? {bs : Bytes} {s : String} (h : ofBytes? bs = some s) :
    bs = toBytes s := by
  rw [ofBytes?, String.fromUTF8?] at h
  split at h
  · obtain rfl := Option.some.inj h
    simp [toBytes, String.fromUTF8]
  · cases h

theorem utf8EncodeChar_of_ascii {c : Char} (h : c.toNat < 0x80) :
    String.utf8EncodeChar c = [c.toNat.toUInt8] := by
  have hc : c.val.toNat ≤ 127 := Nat.le_of_lt_succ h
  rw [String.utf8EncodeChar, if_pos hc]
  rfl

/-- No byte of a character past ASCII is a character of ASCII. -/
theorem le_of_mem_utf8EncodeChar {c : Char} (h : 0x80 ≤ c.toNat) {b : UInt8}
    (hb : b ∈ String.utf8EncodeChar c) : 0x80 ≤ b := by
  have hbyte : ∀ n, 0x80 ≤ n → n < 0x100 → 0x80 ≤ UInt8.ofNat n := by
    intro n hlow hhigh
    rw [UInt8.le_iff_toNat_le, UInt8.toNat_ofNat', Nat.mod_eq_of_lt hhigh]
    exact hlow
  have hc : ¬c.val.toNat ≤ 127 := Nat.not_le.2 h
  rw [String.utf8EncodeChar, if_neg hc] at hb
  split at hb
  · simp only [List.mem_cons, List.not_mem_nil, or_false] at hb
    rcases hb with rfl | rfl <;> exact hbyte _ (by omega) (by omega)
  · split at hb
    · simp only [List.mem_cons, List.not_mem_nil, or_false] at hb
      rcases hb with rfl | rfl | rfl <;> exact hbyte _ (by omega) (by omega)
    · simp only [List.mem_cons, List.not_mem_nil, or_false] at hb
      rcases hb with rfl | rfl | rfl | rfl <;> exact hbyte _ (by omega) (by omega)

end CrateGraph.Text
