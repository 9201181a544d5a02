import CrateGraph.Json.Number
import CrateGraph.Proofs.Success
import CrateGraph.Proofs.Text.Utf8

/-!
# Numbers in JSON are read back

A number ends where a byte comes that cannot continue it, so what follows a number does not
matter as long as it starts with another byte. An integer that fits into 64 bits is read back
from its digits.

## Main results

* `readNumber_append` — what a number is read as does not depend on what follows it.
* `readNumber_int` — an integer is read back.
-/

namespace CrateGraph.Json

/-! ## What follows a number -/

/-- Whether the first byte of what follows a number, if any, ends it. -/
def Ends (rest : Bytes) : Prop :=
  ∀ b ∈ rest.head?, digit? b = none ∧ b ≠ 0x2e ∧ b ≠ 0x65 ∧ b ≠ 0x45

theorem ends_nil : Ends [] := nofun

theorem ends_cons {b : UInt8} (h : digit? b = none ∧ b ≠ 0x2e ∧ b ≠ 0x65 ∧ b ≠ 0x45) (bs : Bytes) :
    Ends (b :: bs) := by
  rintro _ ⟨⟩
  exact h

variable {rest bs : Bytes}

theorem takeDigits_append (h : Ends rest) (bs : Bytes) :
    takeDigits (bs ++ rest) = ((takeDigits bs).1, (takeDigits bs).2 ++ rest) := by
  induction bs with
  | nil =>
      cases rest with
      | nil => rfl
      | cons b rest => simp [takeDigits, (h b rfl).1]
  | cons b bs ih =>
      rw [List.cons_append, takeDigits, takeDigits, ih]
      cases digit? b <;> rfl

theorem someDigits_ok_iff (bs : Bytes) (r : List Nat × Bytes) :
    someDigits bs = .ok r ↔ takeDigits bs = r ∧ r.1 ≠ [] := by
  unfold someDigits
  rcases takeDigits bs with ⟨_ | ⟨d, ds⟩, left⟩
  · cases left <;> simp <;> rintro rfl <;> rfl
  · simp only [Except.ok.injEq]
    constructor
    · rintro rfl
      simp
    · exact And.left

theorem someDigits_append (h : Ends rest) {r : List Nat × Bytes} (hr : someDigits bs = .ok r) :
    someDigits (bs ++ rest) = .ok (r.1, r.2 ++ rest) := by
  obtain ⟨rfl, hne⟩ := (someDigits_ok_iff bs r).1 hr
  exact (someDigits_ok_iff _ _).2 ⟨takeDigits_append h bs, hne⟩

theorem readWhole_ok_iff (bs : Bytes) (r : List Nat × Bytes) :
    readWhole bs = .ok r ↔ someDigits bs = .ok r ∧ ∀ d ds, r.1 ≠ 0 :: d :: ds := by
  unfold readWhole
  rw [Success.bind_iff]
  constructor
  · rintro ⟨ds, hds, hwhole⟩
    split at hwhole
    · cases hwhole
    · rename_i hzero
      cases hwhole
      exact ⟨hds, fun d ds heq => hzero d ds r.2 (Prod.ext heq rfl)⟩
  · rintro ⟨hr, hzero⟩
    refine ⟨r, hr, ?_⟩
    split
    · exact absurd rfl (hzero _ _)
    · rfl

theorem readWhole_append (h : Ends rest) {r : List Nat × Bytes} (hr : readWhole bs = .ok r) :
    readWhole (bs ++ rest) = .ok (r.1, r.2 ++ rest) := by
  obtain ⟨hdigits, hzero⟩ := (readWhole_ok_iff bs r).1 hr
  exact (readWhole_ok_iff _ _).2 ⟨someDigits_append h hdigits, hzero⟩

theorem readFraction_of_head? (h : ∀ b ∈ bs.head?, b ≠ 0x2e) :
    readFraction bs = .ok (none, bs) := by
  unfold readFraction
  split
  · exact absurd rfl (h _ rfl)
  · rfl

theorem readFraction_append (h : Ends rest) {r : Option (List Nat) × Bytes}
    (hr : readFraction bs = .ok r) : readFraction (bs ++ rest) = .ok (r.1, r.2 ++ rest) := by
  cases bs with
  | nil =>
      cases hr
      exact readFraction_of_head? fun b hb => (h b hb).2.1
  | cons b bs =>
      by_cases hb : b = 0x2e
      · subst hb
        obtain ⟨ds, hds, rfl⟩ := (Success.map_iff _ _ _).1 hr
        exact (Success.map_iff _ _ _).2 ⟨_, someDigits_append h hds, rfl⟩
      · have hhead : ∀ c ∈ (b :: bs).head?, c ≠ 0x2e := by simpa using hb
        rw [readFraction_of_head? hhead] at hr
        cases hr
        exact readFraction_of_head? (by simpa using hb)

theorem readExponent_of_head? (h : ∀ b ∈ bs.head?, b ≠ 0x65 ∧ b ≠ 0x45) :
    readExponent bs = .ok (none, bs) := by
  cases bs with
  | nil => rfl
  | cons b bs =>
      obtain ⟨hlower, hupper⟩ := h b rfl
      simp [readExponent, hlower, hupper]

/-- After its mark an exponent is digits, but for a sign. -/
theorem exists_readExponent_eq {e : UInt8} (he : e = 0x65 ∨ e = 0x45) (s : UInt8) (bs : Bytes) :
    ∃ negative t, ∀ rest, readExponent (e :: s :: (bs ++ rest)) =
      (someDigits (t ++ rest)).map fun r => (some (negative, r.1), r.2) := by
  have hmark : (decide (e = 0x65) || decide (e = 0x45)) = true := by simpa using he
  by_cases hminus : s = 0x2d
  · subst hminus
    exact ⟨true, bs, fun rest => by rw [readExponent, if_pos hmark]⟩
  · by_cases hplus : s = 0x2b
    · subst hplus
      exact ⟨false, bs, fun rest => by rw [readExponent, if_pos hmark]⟩
    · refine ⟨false, s :: bs, fun rest => ?_⟩
      rw [readExponent, if_pos hmark, List.cons_append]
      · rintro t ⟨⟩
        exact hminus rfl
      · rintro t ⟨⟩
        exact hplus rfl

theorem readExponent_append (h : Ends rest) {r : Option (Bool × List Nat) × Bytes}
    (hr : readExponent bs = .ok r) : readExponent (bs ++ rest) = .ok (r.1, r.2 ++ rest) := by
  cases bs with
  | nil =>
      cases hr
      exact readExponent_of_head? fun b hb => (h b hb).2.2
  | cons e bs =>
      by_cases he : e = 0x65 ∨ e = 0x45
      · cases bs with
        | nil => rcases he with rfl | rfl <;> cases hr
        | cons s bs =>
            obtain ⟨negative, t, ht⟩ := exists_readExponent_eq he s bs
            have hbare : readExponent (e :: s :: bs) =
                (someDigits t).map fun r => (some (negative, r.1), r.2) := by
              simpa using ht []
            obtain ⟨ds, hds, rfl⟩ := (Success.map_iff _ _ _).1 (hbare.symm.trans hr)
            rw [List.cons_append, List.cons_append, ht]
            exact (Success.map_iff _ _ _).2 ⟨_, someDigits_append h hds, rfl⟩
      · have hhead : ∀ c ∈ (e :: bs).head?, c ≠ 0x65 ∧ c ≠ 0x45 := by simpa using he
        rw [readExponent_of_head? hhead] at hr
        cases hr
        exact readExponent_of_head? (by simpa using he)

theorem readSign_of_ne {b : UInt8} (hb : b ≠ 0x2d) (bs : Bytes) :
    readSign (b :: bs) = (false, b :: bs) := by
  unfold readSign
  split
  · rename_i heq
    cases heq
    exact absurd rfl hb
  · rfl

theorem readSign_append (hne : bs ≠ []) (rest : Bytes) :
    readSign (bs ++ rest) = ((readSign bs).1, (readSign bs).2 ++ rest) := by
  cases bs with
  | nil => exact absurd rfl hne
  | cons b bs =>
      by_cases hb : b = 0x2d
      · subst hb
        rfl
      · rw [List.cons_append, readSign_of_ne hb, readSign_of_ne hb, List.cons_append]

theorem readWritten_append (h : Ends rest) {r : Written × Bytes} (hr : readWritten bs = .ok r) :
    readWritten (bs ++ rest) = .ok (r.1, r.2 ++ rest) := by
  have hne : bs ≠ [] := by
    rintro rfl
    cases hr
  obtain ⟨whole, hwhole, hr⟩ := (Success.bind_iff _ _ _).1 hr
  obtain ⟨fraction, hfraction, hr⟩ := (Success.bind_iff _ _ _).1 hr
  obtain ⟨exponent, hexponent, hr⟩ := (Success.bind_iff _ _ _).1 hr
  cases hr
  refine (Success.bind_iff _ _ _).2 ⟨(whole.1, whole.2 ++ rest), ?_, ?_⟩
  · rw [readSign_append hne]
    exact readWhole_append h hwhole
  · refine (Success.bind_iff _ _ _).2 ⟨_, readFraction_append h hfraction, ?_⟩
    refine (Success.bind_iff _ _ _).2 ⟨_, readExponent_append h hexponent, ?_⟩
    rw [readSign_append hne]
    rfl

/-- What a number is read as does not depend on what follows it. -/
theorem readNumber_append (h : Ends rest) {r : Value × Bytes} (hr : readNumber bs = .ok r) :
    readNumber (bs ++ rest) = .ok (r.1, r.2 ++ rest) := by
  obtain ⟨written, hwritten, hr⟩ := (Success.bind_iff _ _ _).1 hr
  obtain ⟨v, hv, hr⟩ := (Success.bind_iff _ _ _).1 hr
  cases hr
  refine (Success.bind_iff _ _ _).2 ⟨_, readWritten_append h hwritten, ?_⟩
  exact (Success.bind_iff _ _ _).2 ⟨v, hv, rfl⟩

/-- A number starts with a minus sign or a digit. -/
theorem exists_cons_of_readNumber {r : Value × Bytes} (hr : readNumber bs = .ok r) :
    ∃ b t, bs = b :: t ∧ (b = 0x2d ∨ (digit? b).isSome) := by
  obtain ⟨written, hwritten, -⟩ := (Success.bind_iff _ _ _).1 hr
  obtain ⟨whole, hwhole, -⟩ := (Success.bind_iff _ _ _).1 hwritten
  cases bs with
  | nil => cases hr
  | cons b t =>
      refine ⟨b, t, rfl, ?_⟩
      by_cases hb : b = 0x2d
      · exact .inl hb
      · right
        rw [readSign_of_ne hb, readWhole_ok_iff, someDigits_ok_iff] at hwhole
        obtain ⟨⟨rfl, hne⟩, -⟩ := hwhole
        rw [takeDigits] at hne
        cases hdigit : digit? b with
        | none => simp [hdigit] at hne
        | some d => rfl

/-! ## Integers -/

/-- The decimal digits of a natural number. -/
def decimals (n : Nat) : List Nat := (Nat.toDigits 10 n).map fun c => c.toNat - 0x30

theorem decimals_of_lt {n : Nat} (h : n < 10) : decimals n = [n] := by
  rw [decimals, Nat.toDigits_of_lt_base h]
  interval_cases n <;> rfl

theorem decimals_of_le {n : Nat} (h : 10 ≤ n) : decimals n = decimals (n / 10) ++ [n % 10] := by
  have hlast : decimals (n % 10) = [n % 10] := decimals_of_lt (Nat.mod_lt n (by decide))
  rw [decimals, Nat.toDigits_of_lt_base (Nat.mod_lt n (by decide))] at hlast
  rw [decimals, Nat.toDigits_of_base_le (by decide) h, List.map_append, hlast, decimals]

theorem lt_of_mem_decimals {n d : Nat} (h : d ∈ decimals n) : d < 10 := by
  obtain ⟨c, hc, rfl⟩ := List.mem_map.1 h
  have hdigit := Nat.isDigit_of_mem_toDigits (by decide) (by decide) hc
  obtain ⟨-, hnine⟩ := Char.isDigit_iff_toNat.1 hdigit
  have hvalue : '9'.toNat = 0x39 := rfl
  omega

/-- The digits of a number stand for it. -/
theorem ofDigits_decimals (n : Nat) : ofDigits (decimals n) = n := by
  induction n using Nat.strong_induction_on with
  | _ n ih =>
      by_cases hn : n < 10
      · rw [decimals_of_lt hn]
        exact Nat.zero_add n
      · have hfront : ofDigits (decimals (n / 10)) = n / 10 := ih (n / 10) (by omega)
        rw [decimals_of_le (Nat.not_lt.1 hn), ofDigits, List.foldl_append]
        rw [ofDigits] at hfront
        rw [hfront, List.foldl_cons, List.foldl_nil]
        omega

theorem decimals_ne_nil (n : Nat) : decimals n ≠ [] := by
  rw [decimals, Ne, List.map_eq_nil_iff]
  exact Nat.toDigits_ne_nil

/-- Only zero starts with a zero. -/
theorem eq_zero_of_head?_decimals {n : Nat} (h : (decimals n).head? = some 0) : n = 0 := by
  induction n using Nat.strong_induction_on with
  | _ n ih =>
      by_cases hn : n < 10
      · rw [decimals_of_lt hn] at h
        exact Option.some.inj h
      -- a longer number starts as its quotient by ten, which is not zero
      · rw [decimals_of_le (Nat.not_lt.1 hn),
          List.head?_append_of_ne_nil _ (decimals_ne_nil _)] at h
        have hzero : n / 10 = 0 := ih (n / 10) (by omega) h
        omega

theorem decimals_ne_zero_cons_cons (n d : Nat) (ds : List Nat) : decimals n ≠ 0 :: d :: ds := by
  intro h
  have hn : n = 0 := eq_zero_of_head?_decimals (by rw [h]; rfl)
  subst hn
  cases h

/-- The bytes of digits. -/
def numeral (ds : List Nat) : Bytes := ds.map fun d => UInt8.ofNat (0x30 + d)

theorem digit?_ofNat : ∀ d < 10, digit? (UInt8.ofNat (0x30 + d)) = some d := by
  decide

theorem takeDigits_numeral {ds : List Nat} (h : ∀ d ∈ ds, d < 10) :
    takeDigits (numeral ds) = (ds, []) := by
  induction ds with
  | nil => rfl
  | cons d ds ih =>
      have hrest : ∀ d ∈ ds, d < 10 := fun d hd => h d (List.mem_cons_of_mem _ hd)
      have htake : takeDigits (numeral ds) = (ds, []) := ih hrest
      have hd : digit? (UInt8.ofNat (0x30 + d)) = some d := digit?_ofNat d (h d List.mem_cons_self)
      rw [numeral, List.map_cons, takeDigits, hd]
      exact congrArg (Prod.map (d :: ·) id) htake

theorem toBytes_toString (n : Nat) : Text.toBytes (toString n) = numeral (decimals n) := by
  rw [Nat.toString_eq_ofList_toDigits, Text.toBytes_ofList, numeral, decimals, List.map_map,
    List.map_eq_flatMap]
  refine List.flatMap_congr fun c hc => ?_
  have hdigit := Nat.isDigit_of_mem_toDigits (by decide) (by decide) hc
  obtain ⟨hzero, hnine⟩ := Char.isDigit_iff_toNat.1 hdigit
  have hlow : '0'.toNat = 0x30 := rfl
  have hhigh : '9'.toNat = 0x39 := rfl
  have hc : 0x30 + (c.toNat - 0x30) = c.toNat := by omega
  rw [Text.utf8EncodeChar_of_ascii (by omega)]
  show _ = [UInt8.ofNat (0x30 + (c.toNat - 0x30))]
  rw [hc]

theorem readWhole_numeral (n : Nat) : readWhole (numeral (decimals n)) = .ok (decimals n, []) := by
  rw [readWhole_ok_iff, someDigits_ok_iff]
  exact ⟨⟨takeDigits_numeral fun d hd => lt_of_mem_decimals hd, decimals_ne_nil n⟩,
    decimals_ne_zero_cons_cons n⟩

theorem readSign_numeral (n : Nat) :
    readSign (numeral (decimals n)) = (false, numeral (decimals n)) := by
  have hminus : ∀ d < 10, UInt8.ofNat (0x30 + d) ≠ 0x2d := by decide
  cases h : decimals n with
  | nil => exact absurd h (decimals_ne_nil n)
  | cons d ds =>
      have hd : d < 10 := lt_of_mem_decimals (h ▸ List.mem_cons_self)
      rw [numeral, List.map_cons, readSign_of_ne (hminus d hd)]

theorem readWritten_of_readSign {n : Nat} {negative : Bool}
    (h : readSign bs = (negative, numeral (decimals n))) :
    readWritten bs = .ok (⟨negative, decimals n, none, none⟩, []) := by
  refine (Success.bind_iff _ _ _).2 ⟨(decimals n, []), ?_, ?_⟩
  · rw [h]
    exact readWhole_numeral n
  · rw [h]
    rfl

/-- An integer that fits into 64 bits is read back. -/
theorem readNumber_int {n : Int} (hlow : -(wordLimit : Int) ≤ 2 * n) (hhigh : n < wordLimit) :
    readNumber (Text.toBytes (toString n)) = .ok (.int n, []) := by
  cases n with
  | ofNat n =>
      have hbytes : Text.toBytes (toString (Int.ofNat n)) = numeral (decimals n) :=
        toBytes_toString n
      have hn : n < wordLimit := Int.ofNat_lt.1 hhigh
      have hvalue : Written.value ⟨false, decimals n, none, none⟩ = .ok (.int (Int.ofNat n)) := by
        simp [Written.value, ofDigits_decimals, hn]
      rw [hbytes]
      refine (Success.bind_iff _ _ _).2 ⟨_, readWritten_of_readSign (readSign_numeral n), ?_⟩
      exact (Success.bind_iff _ _ _).2 ⟨_, hvalue, rfl⟩
  | negSucc n =>
      have hbytes :
          Text.toBytes (toString (Int.negSucc n)) = 0x2d :: numeral (decimals (n + 1)) := by
        rw [← toBytes_toString]
        exact Text.toBytes_append "-" (toString (n + 1))
      have hn : 2 * (n + 1) ≤ wordLimit := by omega
      have hvalue : Written.value ⟨true, decimals (n + 1), none, none⟩ =
          .ok (.int (Int.negSucc n)) := by
        simp [Written.value, ofDigits_decimals, hn]
        omega
      rw [hbytes]
      refine (Success.bind_iff _ _ _).2 ⟨_, readWritten_of_readSign rfl, ?_⟩
      exact (Success.bind_iff _ _ _).2 ⟨_, hvalue, rfl⟩

end CrateGraph.Json
