import CrateGraph.Json.Printer
import CrateGraph.Json.Token
import CrateGraph.Proofs.Text.Utf8

/-!
# Strings in JSON are read back

A character is written as itself or as an escape, and a reader goes through the bytes of the
first and takes the second as a whole. So whatever characters a string has, control characters
and those past ASCII among them, the same string is read as was written.

## Main results

* `escaped_cases` — what a character is written as, and how it is read.
* `readString_string` — a written string is read back, and what follows it is left.
-/

namespace CrateGraph.Json

/-! ## Escapes -/

theorem readUnit_of_hexDigit? {a b c d : UInt8} {w x y z : Nat} (ha : hexDigit? a = some w)
    (hb : hexDigit? b = some x) (hc : hexDigit? c = some y) (hd : hexDigit? d = some z)
    (rest : Bytes) :
    readUnit (a :: b :: c :: d :: rest) = .ok (((w * 16 + x) * 16 + y) * 16 + z, rest) := by
  simp only [readUnit, ha, hb, hc, hd]

theorem readNumbered_of_lt {bs rest : Bytes} {n : Nat} (h : readUnit bs = .ok (n, rest))
    (hn : n < 0xd800) : readNumbered bs = .ok (Char.ofNat n, rest) := by
  have hlow : (decide (0xdc00 ≤ n) && decide (n ≤ 0xdfff)) = false := by
    simp only [Bool.and_eq_false_iff, decide_eq_false_iff_not]
    omega
  simp [readNumbered, h, bind, Except.bind, pure, Except.pure, hlow, hn]

theorem hexDigit?_digitChar :
    ∀ n < 16, hexDigit? (Nat.digitChar n).toNat.toUInt8 = some n := by
  decide

theorem digitChar_ascii : ∀ n < 16, (Nat.digitChar n).toNat < 0x80 := by
  decide

/-- A control character is read from its number. -/
theorem readNumbered_control {c : Char} (h : c.toNat < 0x20) (rest : Bytes) :
    readNumbered (0x30 :: 0x30 :: (Nat.digitChar (c.toNat / 16)).toNat.toUInt8 ::
      (Nat.digitChar (c.toNat % 16)).toNat.toUInt8 :: rest) = .ok (c, rest) := by
  have hzero : hexDigit? 0x30 = some 0 := by decide
  have hunit := readUnit_of_hexDigit? hzero hzero
    (hexDigit?_digitChar (c.toNat / 16) (by omega)) (hexDigit?_digitChar (c.toNat % 16) (by omega))
    rest
  have hvalue : ((0 * 16 + 0) * 16 + c.toNat / 16) * 16 + c.toNat % 16 = c.toNat := by omega
  rw [readNumbered_of_lt hunit (by omega), hvalue, Char.ofNat_toNat]

/-! ## Characters -/

/-- A byte that stands for itself inside of a string. -/
def Plain (b : UInt8) : Prop := 0x20 ≤ b ∧ b ≠ 0x22 ∧ b ≠ 0x5c

/-- The bytes of a character that is not escaped stand for themselves. -/
theorem plain_of_mem_utf8EncodeChar {c : Char} (hcontrol : ¬c.toNat < 0x20) (hquote : c ≠ '"')
    (hbackslash : c ≠ '\\') {b : UInt8} (hb : b ∈ String.utf8EncodeChar c) : Plain b := by
  by_cases hc : c.toNat < 0x80
  · rw [Text.utf8EncodeChar_of_ascii hc, List.mem_singleton] at hb
    have hnat : b.toNat = c.toNat := by
      rw [hb, Nat.toUInt8, UInt8.toNat_ofNat', Nat.mod_eq_of_lt (by omega)]
    refine ⟨?_, ?_, ?_⟩
    · rw [UInt8.le_iff_toNat_le, hnat]
      exact Nat.not_lt.1 hcontrol
    · intro heq
      exact hquote (Char.toNat_inj.1 (by rw [← hnat, heq]; rfl))
    · intro heq
      exact hbackslash (Char.toNat_inj.1 (by rw [← hnat, heq]; rfl))
  · have hhigh : 0x80 ≤ b := Text.le_of_mem_utf8EncodeChar (Nat.not_lt.1 hc) hb
    refine ⟨?_, ?_, ?_⟩
    · exact UInt8.le_trans (by decide) hhigh
    · rintro rfl
      exact absurd hhigh (by decide)
    · rintro rfl
      exact absurd hhigh (by decide)

/-- A character is written as an escape that it is read from, or as itself. -/
theorem escaped_cases (c : Char) :
    (∃ es, (escaped c).flatMap String.utf8EncodeChar = 0x5c :: es ∧
      ∀ rest, readEscape (es ++ rest) = .ok (c, rest)) ∨
    escaped c = [c] ∧ ∀ b ∈ String.utf8EncodeChar c, Plain b := by
  unfold escaped
  split_ifs with h₁ h₂ h₃ h₄ h₅ h₆ h₇ h₈
  · subst h₁
    exact .inl ⟨[0x22], by decide, fun _ => rfl⟩
  · subst h₂
    exact .inl ⟨[0x5c], by decide, fun _ => rfl⟩
  · subst h₃
    exact .inl ⟨[0x6e], by decide, fun _ => rfl⟩
  · subst h₄
    exact .inl ⟨[0x72], by decide, fun _ => rfl⟩
  · subst h₅
    exact .inl ⟨[0x74], by decide, fun _ => rfl⟩
  · subst h₆
    exact .inl ⟨[0x62], by decide, fun _ => rfl⟩
  · subst h₇
    exact .inl ⟨[0x66], by decide, fun _ => rfl⟩
  · refine .inl ⟨[0x75, 0x30, 0x30, (Nat.digitChar (c.toNat / 16)).toNat.toUInt8,
      (Nat.digitChar (c.toNat % 16)).toNat.toUInt8], ?_, readNumbered_control h₈⟩
    simp only [List.flatMap_cons, List.flatMap_nil,
      Text.utf8EncodeChar_of_ascii (digitChar_ascii (c.toNat / 16) (by omega)),
      Text.utf8EncodeChar_of_ascii (digitChar_ascii (c.toNat % 16) (by omega))]
    rfl
  · exact .inr ⟨rfl, fun b hb => plain_of_mem_utf8EncodeChar h₈ h₁ h₂ hb⟩

/-! ## Strings -/

theorem readBody_of_plain {bs : Bytes} (h : ∀ b ∈ bs, Plain b) (done rest : Bytes) :
    readBody done (bs ++ rest) = readBody (bs.reverse ++ done) rest := by
  induction bs generalizing done with
  | nil => rfl
  | cons b bs ih =>
      obtain ⟨hcontrol, hquote, hbackslash⟩ := h b List.mem_cons_self
      have hbs : ∀ b ∈ bs, Plain b := fun b hb => h b (List.mem_cons_of_mem _ hb)
      rw [List.cons_append, readBody, if_neg hquote, if_neg hbackslash,
        if_neg (UInt8.not_lt.2 hcontrol), ih hbs, List.reverse_cons, List.append_assoc,
        List.singleton_append]

theorem readBody_of_escape {es rest : Bytes} {c : Char} (h : readEscape es = .ok (c, rest))
    (done : Bytes) :
    readBody done (0x5c :: es) =
      readBody ((String.utf8EncodeChar c).reverse ++ done) rest := by
  rw [readBody, if_neg (by decide), if_pos rfl]
  split
  · rename_i r hr
    rw [h] at hr
    cases hr
    rw [Text.toBytes_singleton]
  · rename_i e he
    rw [h] at he
    cases he

/-- A written character is read as its bytes. -/
theorem readBody_escaped (c : Char) (done rest : Bytes) :
    readBody done ((escaped c).flatMap String.utf8EncodeChar ++ rest) =
      readBody ((String.utf8EncodeChar c).reverse ++ done) rest := by
  obtain ⟨es, hes, hread⟩ | ⟨hself, hplain⟩ := escaped_cases c
  · rw [hes, List.cons_append, readBody_of_escape (hread rest)]
  · rw [hself, List.flatMap_singleton, readBody_of_plain hplain]

theorem readBody_flatMap_escaped (l : List Char) (done rest : Bytes) :
    readBody done ((l.flatMap escaped).flatMap String.utf8EncodeChar ++ 0x22 :: rest) =
      .ok (done.reverse ++ l.flatMap String.utf8EncodeChar, rest) := by
  induction l generalizing done with
  | nil =>
      rw [List.flatMap_nil, List.flatMap_nil, List.nil_append, readBody, if_pos rfl,
        List.append_nil]
  | cons c l ih =>
      rw [List.flatMap_cons, List.flatMap_append, List.append_assoc, readBody_escaped, ih,
        List.reverse_append, List.reverse_reverse, List.flatMap_cons, List.append_assoc]

theorem toBytes_string (s : String) :
    Text.toBytes (string s) =
      0x22 :: ((s.toList.flatMap escaped).flatMap String.utf8EncodeChar ++ [0x22]) := by
  have hquote : String.utf8EncodeChar '"' = [0x22] := by decide
  rw [string, Text.toBytes_ofList, List.cons_append, List.flatMap_cons, List.flatMap_append,
    List.flatMap_singleton, hquote, List.singleton_append]

/-- A string is read back after its opening quote. -/
theorem readString_string (s : String) (rest : Bytes) :
    readString ((s.toList.flatMap escaped).flatMap String.utf8EncodeChar ++ 0x22 :: rest) =
      .ok (s, rest) := by
  have hbody := readBody_flatMap_escaped s.toList [] rest
  have hs : s.toList.flatMap String.utf8EncodeChar = Text.toBytes s := by
    rw [← Text.toBytes_ofList, String.ofList_toList]
  rw [List.reverse_nil, List.nil_append, hs] at hbody
  simp only [readString, hbody, bind, Except.bind, Text.ofBytes?_toBytes]
  rfl

end CrateGraph.Json
