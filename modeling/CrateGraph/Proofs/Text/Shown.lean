import CrateGraph.Proofs.Text.Utf8

/-!
# How bytes are shown

Bytes that are text are shown as that text. Of others it can be told only that no malformed piece is
shown as a character of ASCII: what shows such a character has it among its bytes, and what shows
nothing else is text. A reader that looks for characters of ASCII therefore finds in what is shown
no more than there is.

## Main results

* `shown_toBytes` — text is shown as it is.
* `mem_of_mem_shownFrom` — a character of ASCII that is shown is there.
* `toBytes_shown_eq_self` — what is shown as ASCII is what it is shown as.
-/

namespace CrateGraph.Text

variable {b : UInt8} {bs rest : Bytes} {c : Char}

/-! ## One sequence -/

theorem inByteRange_iff {lo hi : UInt8} :
    inByteRange lo hi b = true ↔ lo.toNat ≤ b.toNat ∧ b.toNat ≤ hi.toNat := by
  rw [inByteRange, Bool.and_eq_true, decide_eq_true_eq, decide_eq_true_eq, UInt8.le_iff_toNat_le,
    UInt8.le_iff_toNat_le]

theorem toNat_ofNat_of_lt {n : Nat} (h : n < 256) : (UInt8.ofNat n).toNat = n := by
  rw [UInt8.toNat_ofNat', Nat.mod_eq_of_lt h]

/-- What the second byte of a sequence can be, by its first. -/
theorem inSecondRange_iff {lead : UInt8} :
    inByteRange (secondRange lead).1 (secondRange lead).2 b = true ↔
      0x80 ≤ b.toNat ∧ b.toNat ≤ 0xbf ∧ (lead.toNat = 0xe0 → 0xa0 ≤ b.toNat) ∧
        (lead.toNat = 0xed → b.toNat ≤ 0x9f) ∧ (lead.toNat = 0xf0 → 0x90 ≤ b.toNat) ∧
        (lead.toNat = 0xf4 → b.toNat ≤ 0x8f) := by
  have hlead : ∀ n : UInt8, lead = n ↔ lead.toNat = n.toNat := fun n => UInt8.toNat_inj.symm
  simp only [secondRange, hlead, inByteRange_iff]
  split
  · rename_i h
    simp [h]
    omega
  · split
    · rename_i h
      simp [h]
      omega
    · split
      · rename_i h
        simp [h]
        omega
      · split
        · rename_i h
          simp [h]
          omega
        · simp_all

/-- A byte past ASCII is shown as a replacement character, or it begins a well-formed sequence of
two, three or four bytes. -/
theorem readSequence_cases (b : UInt8) (rest : Bytes) :
    (readSequence b rest).1 = replacement ∨
      (∃ x, inByteRange 0xc2 0xdf b = true ∧ inByteRange 0x80 0xbf x = true ∧
        (readSequence b rest).1 = codePoint (b.toNat % 32) [x]) ∨
      (∃ x y, inByteRange 0xe0 0xef b = true ∧
        inByteRange (secondRange b).1 (secondRange b).2 x = true ∧
        inByteRange 0x80 0xbf y = true ∧
        (readSequence b rest).1 = codePoint (b.toNat % 16) [x, y]) ∨
      ∃ x y z, inByteRange 0xf0 0xf4 b = true ∧
        inByteRange (secondRange b).1 (secondRange b).2 x = true ∧
        inByteRange 0x80 0xbf y = true ∧ inByteRange 0x80 0xbf z = true ∧
        (readSequence b rest).1 = codePoint (b.toNat % 8) [x, y, z] := by
  simp only [readSequence]
  split
  · rename_i hlead
    rcases rest with _ | ⟨x, more⟩
    · exact .inl rfl
    · cases hx : inByteRange 0x80 0xbf x with
      | false => simp [hx]
      | true => exact .inr (.inl ⟨x, hlead, hx, by simp [hx]⟩)
  · split
    · rename_i hlead
      rcases rest with _ | ⟨x, _ | ⟨y, more⟩⟩
      · exact .inl rfl
      · exact .inl rfl
      · cases hx : inByteRange (secondRange b).1 (secondRange b).2 x with
        | false => simp [hx]
        | true =>
            cases hy : inByteRange 0x80 0xbf y with
            | false => simp [hx, hy]
            | true => exact .inr (.inr (.inl ⟨x, y, hlead, hx, hy, by simp [hx, hy]⟩))
    · split
      · rename_i hlead
        rcases rest with _ | ⟨x, _ | ⟨y, _ | ⟨z, more⟩⟩⟩
        · exact .inl rfl
        · exact .inl rfl
        · exact .inl rfl
        · cases hx : inByteRange (secondRange b).1 (secondRange b).2 x with
          | false => simp [hx]
          | true =>
              cases hy : inByteRange 0x80 0xbf y with
              | false => simp [hx, hy]
              | true =>
                  cases hz : inByteRange 0x80 0xbf z with
                  | false => simp [hx, hy, hz]
                  | true =>
                      exact .inr (.inr (.inr ⟨x, y, z, hlead, hx, hy, hz, by simp [hx, hy, hz]⟩))
      · exact .inl rfl

/-- The character of a well-formed sequence is past ASCII. -/
theorem le_toNat_ofNat {n : Nat} (hlow : 0x80 ≤ n)
    (hvalid : n < 0xd800 ∨ 0xdfff < n ∧ n < 0x110000) : 0x80 ≤ (Char.ofNat n).toNat := by
  rw [Char.toNat_ofNat, if_pos hvalid]
  exact hlow

/-- Whatever a byte past ASCII begins, it is not shown as a character of ASCII. -/
theorem le_readSequence (b : UInt8) (rest : Bytes) : 0x80 ≤ (readSequence b rest).1.toNat := by
  rcases readSequence_cases b rest with h | ⟨x, hb, hx, h⟩ | ⟨x, y, hb, hx, hy, h⟩ |
    ⟨x, y, z, hb, hx, hy, hz, h⟩
  · rw [h]
    decide
  · simp only [inByteRange_iff, UInt8.reduceToNat] at hb hx
    rw [h]
    exact le_toNat_ofNat (by simp; omega) (by simp; omega)
  · rw [inSecondRange_iff] at hx
    simp only [inByteRange_iff, UInt8.reduceToNat] at hb hy
    rw [h]
    exact le_toNat_ofNat (by simp; omega) (by simp; omega)
  · rw [inSecondRange_iff] at hx
    simp only [inByteRange_iff, UInt8.reduceToNat] at hb hy hz
    rw [h]
    exact le_toNat_ofNat (by simp; omega) (by simp; omega)

/-! ## Text -/

/-- The bytes of a character past ASCII, by their number. -/
theorem utf8EncodeChar_cases (h : 0x80 ≤ c.toNat) :
    (c.toNat ≤ 2047 ∧ String.utf8EncodeChar c =
      [UInt8.ofNat (c.toNat / 64 % 32 + 192), UInt8.ofNat (c.toNat % 64 + 128)]) ∨
    (2047 < c.toNat ∧ c.toNat ≤ 65535 ∧ String.utf8EncodeChar c =
      [UInt8.ofNat (c.toNat / 4096 % 16 + 224), UInt8.ofNat (c.toNat / 64 % 64 + 128),
        UInt8.ofNat (c.toNat % 64 + 128)]) ∨
    (65535 < c.toNat ∧ String.utf8EncodeChar c =
      [UInt8.ofNat (c.toNat / 262144 % 8 + 240), UInt8.ofNat (c.toNat / 4096 % 64 + 128),
        UInt8.ofNat (c.toNat / 64 % 64 + 128), UInt8.ofNat (c.toNat % 64 + 128)]) := by
  have hmany : ¬c.val.toNat ≤ 127 := Nat.not_le.2 h
  by_cases htwo : c.val.toNat ≤ 2047
  · exact .inl ⟨htwo, by rw [String.utf8EncodeChar, if_neg hmany, if_pos htwo]; rfl⟩
  · by_cases hthree : c.val.toNat ≤ 65535
    · exact .inr (.inl ⟨Nat.not_le.1 htwo, hthree,
        by rw [String.utf8EncodeChar, if_neg hmany, if_neg htwo, if_pos hthree]; rfl⟩)
    · exact .inr (.inr ⟨Nat.not_le.1 hthree,
        by rw [String.utf8EncodeChar, if_neg hmany, if_neg htwo, if_neg hthree]; rfl⟩)

theorem inTailRange_ofNat (n : Nat) :
    inByteRange 0x80 0xbf (UInt8.ofNat (n % 64 + 128)) = true := by
  rw [inByteRange_iff, toNat_ofNat_of_lt (by omega)]
  simp only [UInt8.reduceToNat]
  omega

theorem toNat_ofNat_mod (n : Nat) : (UInt8.ofNat (n % 64 + 128)).toNat % 64 = n % 64 := by
  rw [toNat_ofNat_of_lt (by omega)]
  omega

theorem inByteRange_ofNat {n : Nat} {lo hi : UInt8} (hn : n < 256) (hlo : lo.toNat ≤ n)
    (hhi : n ≤ hi.toNat) : inByteRange lo hi (UInt8.ofNat n) = true := by
  rw [inByteRange_iff, toNat_ofNat_of_lt hn]
  exact ⟨hlo, hhi⟩

theorem readSequence_two {x : UInt8} (hb : inByteRange 0xc2 0xdf b = true)
    (hx : inByteRange 0x80 0xbf x = true) (rest : Bytes) :
    readSequence b (x :: rest) = (codePoint (b.toNat % 32) [x], 1) := by
  simp [readSequence, hb, hx]

theorem readSequence_three {x y : UInt8} (hb : inByteRange 0xe0 0xef b = true)
    (hx : inByteRange (secondRange b).1 (secondRange b).2 x = true)
    (hy : inByteRange 0x80 0xbf y = true) (rest : Bytes) :
    readSequence b (x :: y :: rest) = (codePoint (b.toNat % 16) [x, y], 2) := by
  have hfew : inByteRange 0xc2 0xdf b = false := by
    rw [Bool.eq_false_iff, ne_eq, inByteRange_iff]
    simp only [inByteRange_iff, UInt8.reduceToNat] at hb ⊢
    omega
  simp [readSequence, hfew, hb, hx, hy]

theorem readSequence_four {x y z : UInt8} (hb : inByteRange 0xf0 0xf4 b = true)
    (hx : inByteRange (secondRange b).1 (secondRange b).2 x = true)
    (hy : inByteRange 0x80 0xbf y = true) (hz : inByteRange 0x80 0xbf z = true) (rest : Bytes) :
    readSequence b (x :: y :: z :: rest) = (codePoint (b.toNat % 8) [x, y, z], 3) := by
  have hfew : inByteRange 0xc2 0xdf b = false ∧ inByteRange 0xe0 0xef b = false := by
    rw [Bool.eq_false_iff, Bool.eq_false_iff, ne_eq, ne_eq, inByteRange_iff, inByteRange_iff]
    simp only [inByteRange_iff, UInt8.reduceToNat] at hb ⊢
    omega
  simp [readSequence, hfew, hb, hx, hy, hz]

/-- A character past ASCII is read back from its bytes, whatever follows them. -/
theorem readSequence_utf8EncodeChar (h : 0x80 ≤ c.toNat) (rest : Bytes) :
    ∃ b more, String.utf8EncodeChar c = b :: more ∧ 0x80 ≤ b ∧
      readSequence b (more ++ rest) = (c, more.length) := by
  have hvalid : c.toNat < 0xd800 ∨ 0xdfff < c.toNat ∧ c.toNat < 0x110000 := c.valid
  have hread : ∀ n, n = c.toNat → Char.ofNat n = c := by
    rintro n rfl
    exact Char.ofNat_toNat c
  have hpast : ∀ {b : UInt8} {more}, String.utf8EncodeChar c = b :: more → 0x80 ≤ b :=
    fun {b more} hbytes => le_of_mem_utf8EncodeChar h (hbytes ▸ List.mem_cons_self)
  rcases utf8EncodeChar_cases h with ⟨hmost, hbytes⟩ | ⟨hleast, hmost, hbytes⟩ | ⟨hleast, hbytes⟩
  · refine ⟨_, _, hbytes, hpast hbytes, ?_⟩
    rw [List.singleton_append, readSequence_two
      (inByteRange_ofNat (by omega) (by simp; omega) (by simp; omega)) (inTailRange_ofNat _)]
    simp only [codePoint, List.foldl_cons, List.foldl_nil, toNat_ofNat_mod]
    rw [toNat_ofNat_of_lt (by omega), hread _ (by omega)]
    rfl
  · have hsecond : inByteRange (secondRange (UInt8.ofNat (c.toNat / 4096 % 16 + 224))).1
        (secondRange (UInt8.ofNat (c.toNat / 4096 % 16 + 224))).2
        (UInt8.ofNat (c.toNat / 64 % 64 + 128)) = true := by
      rw [inSecondRange_iff, toNat_ofNat_of_lt (by omega), toNat_ofNat_of_lt (by omega)]
      omega
    refine ⟨_, _, hbytes, hpast hbytes, ?_⟩
    rw [List.cons_append, List.singleton_append, readSequence_three
      (inByteRange_ofNat (by omega) (by simp) (by simp; omega)) hsecond (inTailRange_ofNat _)]
    simp only [codePoint, List.foldl_cons, List.foldl_nil, toNat_ofNat_mod]
    rw [toNat_ofNat_of_lt (by omega), hread _ (by omega)]
    rfl
  · have hsecond : inByteRange (secondRange (UInt8.ofNat (c.toNat / 262144 % 8 + 240))).1
        (secondRange (UInt8.ofNat (c.toNat / 262144 % 8 + 240))).2
        (UInt8.ofNat (c.toNat / 4096 % 64 + 128)) = true := by
      rw [inSecondRange_iff, toNat_ofNat_of_lt (by omega), toNat_ofNat_of_lt (by omega)]
      omega
    refine ⟨_, _, hbytes, hpast hbytes, ?_⟩
    rw [List.cons_append, List.cons_append, List.singleton_append, readSequence_four
      (inByteRange_ofNat (by omega) (by simp) (by simp; omega)) hsecond (inTailRange_ofNat _)
      (inTailRange_ofNat _)]
    simp only [codePoint, List.foldl_cons, List.foldl_nil, toNat_ofNat_mod]
    rw [toNat_ofNat_of_lt (by omega), hread _ (by omega)]
    rfl

/-! ## All of the bytes -/

/-- Bytes that belong to the character before are passed over. -/
theorem shownFrom_eq (n : Nat) (bs : Bytes) : shownFrom n bs = shownChars (bs.drop n) := by
  induction bs generalizing n with
  | nil => rw [List.drop_nil, shownChars, shownFrom, shownFrom]
  | cons b rest ih =>
      cases n with
      | zero => rfl
      | succ n => rw [shownFrom, List.drop_succ_cons, ih]

theorem shownChars_cons_of_lt (hb : b < 0x80) (rest : Bytes) :
    shownChars (b :: rest) = Char.ofNat b.toNat :: shownChars rest := by
  rw [shownChars, shownFrom, if_pos hb, shownChars]

theorem shownChars_cons_of_le (hb : 0x80 ≤ b) (rest : Bytes) : shownChars (b :: rest) =
    (readSequence b rest).1 :: shownChars (rest.drop (readSequence b rest).2) := by
  rw [shownChars, shownFrom, if_neg (UInt8.not_lt.2 hb), ← shownFrom_eq]

theorem shownChars_utf8EncodeChar (c : Char) (rest : Bytes) :
    shownChars (String.utf8EncodeChar c ++ rest) = c :: shownChars rest := by
  by_cases hc : c.toNat < 0x80
  · have hb : (c.toNat.toUInt8).toNat = c.toNat := toNat_ofNat_of_lt (by omega)
    have hlt : c.toNat.toUInt8 < 0x80 := UInt8.lt_iff_toNat_lt.2 (by rw [hb]; exact hc)
    rw [utf8EncodeChar_of_ascii hc, List.singleton_append, shownChars_cons_of_lt hlt, hb,
      Char.ofNat_toNat]
  · obtain ⟨b, more, hbytes, hb, hread⟩ := readSequence_utf8EncodeChar (Nat.not_lt.1 hc) rest
    rw [hbytes, List.cons_append, shownChars_cons_of_le hb, hread, List.drop_left]

/-- Text is shown as it is. -/
theorem shown_toBytes (s : String) : shown (toBytes s) = s := by
  have hchars : ∀ cs : List Char, shownChars (cs.flatMap String.utf8EncodeChar) = cs := by
    intro cs
    induction cs with
    | nil => rfl
    | cons c cs ih => rw [List.flatMap_cons, shownChars_utf8EncodeChar, ih]
  conv_lhs => rw [← String.ofList_toList (s := s)]
  rw [shown, toBytes_ofList, hchars, String.ofList_toList]

theorem toBytes_inj {s t : String} : toBytes s = toBytes t ↔ s = t := by
  refine ⟨fun h => ?_, congrArg toBytes⟩
  rw [← shown_toBytes s, h, shown_toBytes]

theorem toNat_ofNat_of_ascii (hb : b < 0x80) : (Char.ofNat b.toNat).toNat = b.toNat := by
  have hlt : b.toNat < 0x80 := UInt8.lt_iff_toNat_lt.1 hb
  rw [Char.toNat_ofNat, if_pos (.inl (by omega))]

/-- A character of ASCII that is shown is among the bytes. -/
theorem mem_of_mem_shownFrom (hc : c.toNat < 0x80) {n : Nat} (h : c ∈ shownFrom n bs) :
    c.toNat.toUInt8 ∈ bs := by
  fun_induction shownFrom n bs with
  | case1 => cases h
  | case2 n b rest ih => exact List.mem_cons_of_mem b (ih h)
  | case3 b rest hb ih =>
      rcases List.mem_cons.1 h with rfl | h
      · simp [toNat_ofNat_of_ascii hb]
      · exact List.mem_cons_of_mem b (ih h)
  | case4 b rest hb read ih =>
      rcases List.mem_cons.1 h with rfl | h
      · exact absurd hc (Nat.not_lt.2 (le_readSequence b rest))
      · exact List.mem_cons_of_mem b (ih h)

/-- What is shown as nothing but ASCII is text. -/
theorem flatMap_shownFrom_of_ascii {n : Nat} (h : ∀ c ∈ shownFrom n bs, c.toNat < 0x80) :
    (shownFrom n bs).flatMap String.utf8EncodeChar = bs.drop n := by
  fun_induction shownFrom n bs with
  | case1 => rw [List.flatMap_nil, List.drop_nil]
  | case2 n b rest ih => rw [ih h, List.drop_succ_cons]
  | case3 b rest hb ih =>
      rw [List.flatMap_cons, utf8EncodeChar_of_ascii (h _ List.mem_cons_self),
        ih fun c hc => h c (List.mem_cons_of_mem _ hc), toNat_ofNat_of_ascii hb]
      simp
  | case4 b rest hb read ih =>
      exact absurd (h _ List.mem_cons_self) (Nat.not_lt.2 (le_readSequence b rest))

theorem toBytes_shown (bs : Bytes) :
    toBytes (shown bs) = (shownChars bs).flatMap String.utf8EncodeChar := by
  rw [shown, toBytes_ofList]

/-- Where the text that is shown has bytes of ASCII only, these are the bytes that it is shown
for. -/
theorem toBytes_shown_eq_self (h : ∀ b ∈ toBytes (shown bs), b < 0x80) :
    toBytes (shown bs) = bs := by
  have hascii : ∀ c ∈ shownChars bs, c.toNat < 0x80 := by
    intro c hc
    by_contra hpast
    obtain ⟨b, more, hbytes, hb, -⟩ := readSequence_utf8EncodeChar (Nat.not_lt.1 hpast) []
    have hmem : b ∈ toBytes (shown bs) := by
      rw [toBytes_shown, List.mem_flatMap]
      exact ⟨c, hc, hbytes ▸ List.mem_cons_self⟩
    exact UInt8.not_lt.2 hb (h b hmem)
  rw [toBytes_shown, shownChars, flatMap_shownFrom_of_ascii hascii, List.drop_zero]

end CrateGraph.Text
