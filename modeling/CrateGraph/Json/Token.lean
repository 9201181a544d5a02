import CrateGraph.Json.Number

/-!
# Tokens of a JSON text

A text is cut into brackets, separators, names, numbers and strings, and the blanks
between them are dropped. Reading stops at the first byte that cannot be part of a token;
a token list that ends so says why in its last token, which lets the reader of the list
report whichever fault comes first.
-/

namespace CrateGraph.Json

/-- A token. -/
inductive Token where
  | openList
  | closeList
  | openTable
  | closeTable
  | comma
  | colon
  /-- A string, which is a value or a key. -/
  | text (s : String)
  /-- A number or one of the named values. -/
  | scalar (v : Value)
  /-- The text cannot be cut any further, from a string that is not well formed or from
  something else. -/
  | fault (inText : Bool) (e : Error)
deriving DecidableEq, Repr

/-- Whether a byte separates tokens and is dropped. -/
def isBlank (b : UInt8) : Bool := b = 0x20 || b = 0x0a || b = 0x09 || b = 0x0d

/-- What follows a given name at the start of a text. -/
def expect : Bytes → Bytes → Except Error Bytes
  | [], bs => .ok bs
  | _ :: _, [] => .error .ended
  | n :: name, b :: bs => if n = b then expect name bs else .error .malformed

/-- The value of a hexadecimal digit. -/
def hexDigit? (b : UInt8) : Option Nat :=
  if 0x30 ≤ b && b ≤ 0x39 then some (b.toNat - 0x30)
  else if 0x41 ≤ b && b ≤ 0x46 then some (b.toNat - 0x37)
  else if 0x61 ≤ b && b ≤ 0x66 then some (b.toNat - 0x57)
  else none

/-- The sixteen-bit unit that four hexadecimal digits stand for. -/
def readUnit : Bytes → Except Error (Nat × Bytes)
  | a :: b :: c :: d :: rest =>
    match hexDigit? a, hexDigit? b, hexDigit? c, hexDigit? d with
    | some a, some b, some c, some d => .ok (((a * 16 + b) * 16 + c) * 16 + d, rest)
    | _, _, _, _ => .error .malformed
  | _ => .error .ended

/-- The character of an escape by number, read after its `\u`. A character past sixteen
bits is written as two units, each with its own `\u`. -/
def readNumbered (bs : Bytes) : Except Error (Char × Bytes) := do
  let (n, rest) ← readUnit bs
  if 0xdc00 ≤ n && n ≤ 0xdfff then throw .malformed
  if n < 0xd800 || 0xdbff < n then return (Char.ofNat n, rest)
  match rest with
  | [] => throw .ended
  | [0x5c] => throw .ended
  | 0x5c :: 0x75 :: rest =>
    let (n', rest) ← readUnit rest
    if n' < 0xdc00 || 0xdfff < n' then throw .malformed
    return (Char.ofNat ((n - 0xd800) * 0x400 + (n' - 0xdc00) + 0x10000), rest)
  | _ => throw .malformed

/-- The character of an escape, read after its backslash. -/
def readEscape : Bytes → Except Error (Char × Bytes)
  | [] => .error .ended
  | b :: rest =>
    if b = 0x75 then readNumbered rest
    else if b = 0x22 || b = 0x5c || b = 0x2f then .ok (Char.ofNat b.toNat, rest)
    else if b = 0x62 then .ok ('\x08', rest)
    else if b = 0x66 then .ok ('\x0c', rest)
    else if b = 0x6e then .ok ('\n', rest)
    else if b = 0x72 then .ok ('\r', rest)
    else if b = 0x74 then .ok ('\t', rest)
    else .error .malformed

theorem readUnit_length {bs : Bytes} {r : Nat × Bytes} (h : readUnit bs = .ok r) :
    r.2.length < bs.length := by
  unfold readUnit at h
  split at h
  · split at h
    · cases h; simp only [List.length_cons]; omega
    · cases h
  · cases h

theorem readNumbered_length {bs : Bytes} {r : Char × Bytes} (h : readNumbered bs = .ok r) :
    r.2.length < bs.length := by
  unfold readNumbered at h
  cases h1 : readUnit bs with
  | error e => simp [h1, bind, Except.bind] at h
  | ok u =>
    have hl := readUnit_length h1
    simp only [h1, bind, Except.bind] at h
    split at h
    · cases h
    · split at h
      · cases h; exact hl
      · split at h
        · cases h
        · cases h
        · rename_i rest heq
          cases h2 : readUnit rest with
          | error e => simp [h2] at h
          | ok u' =>
            have hl' := readUnit_length h2
            have hu : u.2.length = rest.length + 2 := by rw [heq]; simp
            simp only [h2] at h
            split at h
            · cases h
            · rw [← Except.ok.inj h]
              simp only
              omega
        · cases h

theorem readEscape_length {bs : Bytes} {r : Char × Bytes} (h : readEscape bs = .ok r) :
    r.2.length < bs.length := by
  cases bs with
  | nil => cases h
  | cons b rest =>
    simp only [readEscape] at h
    split at h
    · have := readNumbered_length h
      simp only [List.length_cons]
      omega
    · have hr : ∀ c : Char, (Except.ok (c, rest) : Except Error (Char × Bytes)) = .ok r →
          r.2.length < (b :: rest).length := by
        intro c hc
        cases hc
        simp
      split at h
      · exact hr _ h
      · split at h
        · exact hr _ h
        · split at h
          · exact hr _ h
          · split at h
            · exact hr _ h
            · split at h
              · exact hr _ h
              · split at h
                · exact hr _ h
                · cases h

/-- The bytes of a string up to its closing quote, and what follows it. `done` holds the
bytes read so far, the last one first. -/
def readBody (done : Bytes) (bs : Bytes) : Except Error (Bytes × Bytes) :=
  match bs with
  | [] => .error .ended
  | b :: rest =>
    if b = 0x22 then .ok (done.reverse, rest)
    else if b = 0x5c then
      match _h : readEscape rest with
      | .ok r => readBody ((Text.toBytes (String.singleton r.1)).reverse ++ done) r.2
      | .error e => .error e
    else if b < 0x20 then .error .malformed
    else readBody (b :: done) rest
termination_by bs.length
decreasing_by
  · have := readEscape_length _h
    simp only [List.length_cons]
    omega
  · simp

/-- The string after an opening quote, and what follows it. -/
def readString (bs : Bytes) : Except Error (String × Bytes) := do
  let (body, rest) ← readBody [] bs
  match Text.ofBytes? body with
  | some s => return (s, rest)
  | none => throw .malformed

theorem readBody_length {done bs : Bytes} {r : Bytes × Bytes} (h : readBody done bs = .ok r) :
    r.2.length < bs.length := by
  fun_induction readBody done bs with
  | case1 => cases h
  | case2 => cases h; simp
  | case3 done rest r' hr _ ih =>
    have := readEscape_length hr
    have := ih h
    simp only [List.length_cons]
    omega
  | case4 => cases h
  | case5 => cases h
  | case6 done b rest _ _ _ ih =>
    have := ih h
    simp only [List.length_cons]
    omega

theorem readString_length {bs : Bytes} {r : String × Bytes} (h : readString bs = .ok r) :
    r.2.length < bs.length := by
  unfold readString at h
  cases hb : readBody [] bs with
  | error e => simp [hb, bind, Except.bind] at h
  | ok body =>
    have := readBody_length hb
    simp only [hb, bind, Except.bind] at h
    split at h
    · cases h; exact this
    · cases h

theorem expect_length {name bs rest : Bytes} (h : expect name bs = .ok rest) :
    rest.length ≤ bs.length := by
  induction name generalizing bs with
  | nil => cases h; simp
  | cons n name ih =>
    cases bs with
    | nil => cases h
    | cons b bs =>
      simp only [expect] at h
      split at h
      · have := ih h
        simp only [List.length_cons]
        omega
      · cases h

/-- The token that is a single byte. -/
def punctuation? (b : UInt8) : Option Token :=
  if b = 0x5b then some .openList
  else if b = 0x5d then some .closeList
  else if b = 0x7b then some .openTable
  else if b = 0x7d then some .closeTable
  else if b = 0x2c then some .comma
  else if b = 0x3a then some .colon
  else none

/-- The value whose name starts with a byte, and the rest of that name. -/
def named? (b : UInt8) : Option (Value × Bytes) :=
  if b = 0x6e then some (.null, [0x75, 0x6c, 0x6c])
  else if b = 0x74 then some (.bool true, [0x72, 0x75, 0x65])
  else if b = 0x66 then some (.bool false, [0x61, 0x6c, 0x73, 0x65])
  else none

/-- The token that starts with a byte, and what follows it. -/
def readToken (b : UInt8) (rest : Bytes) : Except Error (Token × Bytes) :=
  match punctuation? b with
  | some t => .ok (t, rest)
  | none =>
    match named? b with
    | some (v, name) => (expect name rest).map fun r => (.scalar v, r)
    | none =>
      if b = 0x22 then (readString rest).map fun r => (.text r.1, r.2)
      else if b = 0x2d || (digit? b).isSome then
        (readNumber (b :: rest)).map fun r => (.scalar r.1, r.2)
      else .error .malformed

theorem readToken_length {b : UInt8} {rest : Bytes} {r : Token × Bytes}
    (h : readToken b rest = .ok r) : r.2.length ≤ rest.length := by
  unfold readToken at h
  split at h
  · cases h; simp
  · split at h
    · rename_i name _
      cases he : expect name rest with
      | error e => simp [he, Except.map] at h
      | ok s =>
        have := expect_length he
        simp only [he, Except.map] at h
        cases h
        exact this
    · split at h
      · cases hs : readString rest with
        | error e => simp [hs, Except.map] at h
        | ok s =>
          have := readString_length hs
          simp only [hs, Except.map] at h
          cases h
          simp only
          omega
      · split at h
        · cases hs : readNumber (b :: rest) with
          | error e => simp [hs, Except.map] at h
          | ok s =>
            have := readNumber_length hs
            simp only [hs, Except.map] at h
            cases h
            simp only [List.length_cons] at this
            simp only
            omega
        · cases h

/-- The tokens of a text. -/
def tokens (bs : Bytes) : List Token :=
  match bs with
  | [] => []
  | b :: rest =>
    if isBlank b then tokens rest
    else
      match _h : readToken b rest with
      | .ok r => r.1 :: tokens r.2
      | .error e => [.fault (b = 0x22) e]
termination_by bs.length
decreasing_by
  · simp
  · have := readToken_length _h
    simp only [List.length_cons]
    omega

end CrateGraph.Json
