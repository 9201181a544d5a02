import CrateGraph.Text.Utf8
import CrateGraph.Value

/-!
# Numbers in JSON

A number without fraction and exponent that fits into 64 bits is an integer and is kept
exactly. Every other number is a double. Its digits are gathered into a significand of 64
bits, of which the digits that do not fit are dropped; the double nearest to the
significand is then multiplied by, or divided by, a power of ten, and rounded once more. A
result too large for a double is no number.
-/

namespace CrateGraph.Json

/-- Why a text is no JSON document: it stops short, or a byte is out of place. -/
inductive Error where
  | ended
  | malformed
deriving DecidableEq, Repr

/-- The digit that a byte stands for. -/
def digit? (b : UInt8) : Option Nat :=
  if 0x30 ≤ b && b ≤ 0x39 then some (b.toNat - 0x30) else none

/-- The digits at the start of a text, and what follows them. -/
def takeDigits : Bytes → List Nat × Bytes
  | [] => ([], [])
  | b :: rest =>
    match digit? b with
    | some d => ((takeDigits rest).map (d :: ·) id)
    | none => ([], b :: rest)

theorem takeDigits_length (bs : Bytes) : (takeDigits bs).2.length ≤ bs.length := by
  induction bs with
  | nil => simp [takeDigits]
  | cons b rest ih =>
    unfold takeDigits
    split
    · simp; omega
    · simp

/-- The parts of a number as they are written. -/
structure Written where
  negative : Bool
  /-- Digits before the point. -/
  whole : List Nat
  /-- Digits after the point, if there is one. -/
  fraction : Option (List Nat)
  /-- Sign and digits of the exponent, if there is one. -/
  exponent : Option (Bool × List Nat)
deriving DecidableEq, Repr

/-- Digits of which there must be one. -/
def someDigits (bs : Bytes) : Except Error (List Nat × Bytes) :=
  match takeDigits bs with
  | ([], []) => .error .ended
  | ([], _ :: _) => .error .malformed
  | (ds, rest) => .ok (ds, rest)

/-- The digits before the point: a zero stands alone. -/
def readWhole (bs : Bytes) : Except Error (List Nat × Bytes) := do
  match ← someDigits bs with
  | (0 :: _ :: _, _) => throw .malformed
  | r => return r

/-- The digits after a point, if a point follows. -/
def readFraction : Bytes → Except Error (Option (List Nat) × Bytes)
  | 0x2e :: rest => (someDigits rest).map fun r => (some r.1, r.2)
  | bs => .ok (none, bs)

/-- The sign and digits of an exponent, if one follows. -/
def readExponent : Bytes → Except Error (Option (Bool × List Nat) × Bytes)
  | [] => .ok (none, [])
  | e :: rest =>
    if e = 0x65 || e = 0x45 then
      match rest with
      | 0x2d :: rest => (someDigits rest).map fun r => (some (true, r.1), r.2)
      | 0x2b :: rest => (someDigits rest).map fun r => (some (false, r.1), r.2)
      | rest => (someDigits rest).map fun r => (some (false, r.1), r.2)
    else .ok (none, e :: rest)

/-- Whether a minus sign comes first, and what follows it. -/
def readSign : Bytes → Bool × Bytes
  | 0x2d :: rest => (true, rest)
  | bs => (false, bs)

/-- The parts of the number at the start of a text, and what follows it. -/
def readWritten (bs : Bytes) : Except Error (Written × Bytes) := do
  let sign := readSign bs
  let whole ← readWhole sign.2
  let fraction ← readFraction whole.2
  let exponent ← readExponent fraction.2
  return (⟨sign.1, whole.1, fraction.1, exponent.1⟩, exponent.2)

/-- The natural number that digits stand for. -/
def ofDigits (ds : List Nat) : Nat := ds.foldl (fun n d => n * 10 + d) 0

/-- Appends digits to a significand as long as it fits into 64 bits; also the digits that
are left. -/
def gather : Nat → List Nat → Nat × List Nat
  | n, [] => (n, [])
  | n, d :: ds => if n * 10 + d < wordLimit then gather (n * 10 + d) ds else (n, d :: ds)

/-- The double nearest to a significand, scaled by a power of ten, if it is finite. The
powers that are used are those up to 308; two divisions by the last leave nothing of any
significand. -/
def scaledBy (significand : Nat) (exponent : Int) : Except Error Binary64 :=
  let x := Binary64.ofNat false significand
  match exponent with
  | .ofNat k =>
    if significand = 0 then .ok x
    else if k > 308 then .error .malformed
    else
      let y := x.scaleUp (Nat.pow 10 k)
      if y.isInfinite then .error .malformed else .ok y
  | .negSucc k =>
    if k + 1 ≤ 308 then .ok (x.scaleDown (Nat.pow 10 (k + 1)))
    else if k + 1 ≤ 616 then
      .ok ((x.scaleDown (Nat.pow 10 308)).scaleDown (Nat.pow 10 (k + 1 - 308)))
    else .ok (Binary64.zero false)

namespace Written

/-- The power of ten that the exponent part stands for. -/
def power (w : Written) : Int :=
  match w.exponent with
  | none => 0
  | some (negative, ds) => if negative then -(ofDigits ds : Int) else ofDigits ds

/-- The double that the parts stand for. -/
def real (w : Written) : Except Error Binary64 := do
  let (n, dropped) := gather 0 w.whole
  let fraction := w.fraction.getD []
  let (n', left) := gather n fraction
  let x ← scaledBy n' (dropped.length - (fraction.length - left.length : Nat) + w.power)
  return if w.negative then x.neg else x

/-- The value that the parts stand for. -/
def value (w : Written) : Except Error Value :=
  let n := ofDigits w.whole
  if w.fraction.isNone && w.exponent.isNone then
    if !w.negative && n < wordLimit then .ok (.int n)
    else if w.negative && 0 < n && 2 * n ≤ wordLimit then .ok (.int (-(n : Int)))
    else w.real.map .real
  else w.real.map .real

end Written

/-- The number at the start of a text, and what follows it. -/
def readNumber (bs : Bytes) : Except Error (Value × Bytes) := do
  let written ← readWritten bs
  let v ← written.1.value
  return (v, written.2)

/-! ### Reading a number leaves less to read -/

theorem someDigits_length {bs : Bytes} {r : List Nat × Bytes} (h : someDigits bs = .ok r) :
    r.2.length < bs.length := by
  unfold someDigits at h
  cases bs with
  | nil => simp [takeDigits] at h
  | cons b rest =>
    have hl := takeDigits_length rest
    unfold takeDigits at h
    cases hd : digit? b with
    | none => simp [hd] at h
    | some d =>
      simp only [hd, Prod.map] at h
      cases h
      simp only [id_eq, List.length_cons]
      omega

theorem readWhole_length {bs : Bytes} {r : List Nat × Bytes} (h : readWhole bs = .ok r) :
    r.2.length < bs.length := by
  unfold readWhole at h
  cases hs : someDigits bs with
  | error e => simp [hs, bind, Except.bind] at h
  | ok s =>
    have hl := someDigits_length hs
    simp only [hs, bind, Except.bind] at h
    split at h
    · cases h
    · cases h; exact hl

theorem readFraction_length {bs : Bytes} {r : Option (List Nat) × Bytes}
    (h : readFraction bs = .ok r) : r.2.length ≤ bs.length := by
  unfold readFraction at h
  split at h
  · rename_i rest
    cases hs : someDigits rest with
    | error e => simp [hs, Except.map] at h
    | ok s =>
      have := someDigits_length hs
      simp only [hs, Except.map] at h
      cases h
      simp only [List.length_cons]
      omega
  · cases h; simp

theorem readExponent_length {bs : Bytes} {r : Option (Bool × List Nat) × Bytes}
    (h : readExponent bs = .ok r) : r.2.length ≤ bs.length := by
  have key : ∀ {rest : Bytes} {s : Bool}, (someDigits rest).map
      (fun r => (some (s, r.1), r.2)) = .ok r → r.2.length < rest.length := by
    intro rest s h
    cases hs : someDigits rest with
    | error e => simp [hs, Except.map] at h
    | ok d =>
      have := someDigits_length hs
      simp only [hs, Except.map] at h
      cases h
      exact this
  unfold readExponent at h
  split at h
  · cases h; simp
  · split at h
    · split at h <;> have := key h <;> simp only [List.length_cons] <;> omega
    · cases h; simp

theorem readSign_length (bs : Bytes) : (readSign bs).2.length ≤ bs.length := by
  unfold readSign
  split <;> simp

theorem readWritten_length {bs : Bytes} {r : Written × Bytes} (h : readWritten bs = .ok r) :
    r.2.length < bs.length := by
  have h0 := readSign_length bs
  simp only [readWritten, bind, Except.bind, pure, Except.pure] at h
  cases h1 : readWhole (readSign bs).2 with
  | error e => simp [h1] at h
  | ok w =>
    have hl1 := readWhole_length h1
    simp only [h1] at h
    cases h2 : readFraction w.2 with
    | error e => simp [h2] at h
    | ok f =>
      have hl2 := readFraction_length h2
      simp only [h2] at h
      cases h3 : readExponent f.2 with
      | error e => simp [h3] at h
      | ok x =>
        have hl3 := readExponent_length h3
        simp only [h3] at h
        cases h
        simp only
        omega

theorem readNumber_length {bs : Bytes} {r : Value × Bytes} (h : readNumber bs = .ok r) :
    r.2.length < bs.length := by
  simp only [readNumber, bind, Except.bind, pure, Except.pure] at h
  cases hw : readWritten bs with
  | error e => simp [hw] at h
  | ok w =>
    have := readWritten_length hw
    simp only [hw] at h
    cases hv : w.1.value with
    | error e => simp [hv] at h
    | ok v =>
      simp only [hv] at h
      cases h
      exact this

end CrateGraph.Json
