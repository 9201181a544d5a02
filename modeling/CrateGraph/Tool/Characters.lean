import CrateGraph.Shell.Pattern
import CrateGraph.Tool.Copying

/-!
# Programs for characters

`tr`, which replaces or drops characters, and `od`, which shows bytes as numbers.
-/

namespace CrateGraph.Tool

open Shell (Work Session Opening complain setStatus openPath numberOf isOctal manyRounds)

/-! ## Sets of characters -/

/-- A part of the description of a set. -/
inductive SetPart where
  | chars (bytes : List UInt8)
  | range (first last : UInt8)
  | named (name : String)
  /-- A character so many times, or as often as it takes. -/
  | repeated (b : UInt8) (count : Option Nat)
deriving Repr

/-- The character that a backslash begins, and the rest. -/
def readBackslash : List Char → UInt8 × List Char
  | [] => (92, [])
  | c :: cs =>
    match c with
    | 'a' => (7, cs)
    | 'b' => (8, cs)
    | 'f' => (12, cs)
    | 'n' => (10, cs)
    | 'r' => (13, cs)
    | 't' => (9, cs)
    | 'v' => (11, cs)
    | _ =>
      if isOctal c then
        let digits := ((c :: cs).take 3).takeWhile isOctal
        let digits := if numberOf 8 digits > 255 then digits.take 2 else digits
        ((numberOf 8 digits).toUInt8, (c :: cs).drop digits.length)
      else (c.toNat.toUInt8, cs)

/-- The next character of a description, and the rest. -/
def nextOfSet : List Char → Option (UInt8 × List Char)
  | [] => none
  | '\\' :: cs => some (readBackslash cs)
  | c :: cs => some (c.toNat.toUInt8, cs)

/-- The parts of a description. `steps` bounds its characters. -/
def readSet : Nat → List Char → Except String (List SetPart)
  | 0, _ => .ok []
  | steps + 1, cs =>
    let named := match cs with
      | '[' :: ':' :: rest =>
        let name := rest.takeWhile fun c => c ≠ ':'
        match rest.drop name.length with
        | ':' :: ']' :: after => some (String.ofList name, after)
        | _ => none
      | _ => none
    let equal := match cs with
      | '[' :: '=' :: c :: '=' :: ']' :: after => some (c.toNat.toUInt8, after)
      | _ => none
    let again := match cs with
      | '[' :: rest =>
        match nextOfSet rest with
        | some (b, '*' :: more) =>
          let digits := more.takeWhile Char.isDigit
          match more.drop digits.length with
          | ']' :: after =>
            let n := numberOf (if digits.head? = some '0' then 8 else 10) digits
            some (b, if n = 0 then none else some n, after)
          | _ => none
        | _ => none
      | _ => none
    match named, equal, again with
    | some (name, after), _, _ =>
      let known := ["alnum", "alpha", "blank", "cntrl", "digit", "graph", "lower", "print",
        "punct", "space", "upper", "xdigit"]
      if known.contains name then (readSet steps after).map (SetPart.named name :: ·)
      else .error ("invalid character class " ++ quoted name)
    | _, some (b, after), _ => (readSet steps after).map (SetPart.chars [b] :: ·)
    | _, _, some (b, n, after) => (readSet steps after).map (SetPart.repeated b n :: ·)
    | _, _, _ =>
      match nextOfSet cs with
      | none => .ok []
      | some (b, rest) =>
        match rest with
        | '-' :: more =>
          match nextOfSet more with
          | some (b', after) =>
            if b' < b then
              let show? := fun (x : UInt8) => String.ofList (
                if x < 32 || x ≥ 127 then escapeText (Char.ofNat x.toNat) else [Char.ofNat x.toNat])
              .error ("range-endpoints of '" ++ show? b ++ "-" ++ show? b'
                ++ "' are in reverse collating sequence order")
            else (readSet steps after).map (SetPart.range b b' :: ·)
          | none => .ok [.chars [b], .chars [45]]
        | _ => (readSet steps rest).map (SetPart.chars [b] :: ·)

/-- All bytes. -/
def allBytes : List UInt8 := (List.range 256).map Nat.toUInt8

/-- The characters of a part, where one that is there as often as it takes counts so many
times. -/
def SetPart.members (fill : Nat) : SetPart → List UInt8
  | chars bytes => bytes
  | range first last => allBytes.filter fun b => first ≤ b && b ≤ last
  | named name => allBytes.filter fun b => Shell.Pattern.isOfClass name (Char.ofNat b.toNat)
  | repeated b n => List.replicate (n.getD fill) b

/-- The characters of a set that is to have at least so many. -/
def membersOf (size : Nat) (parts : List SetPart) : List UInt8 :=
  let fixed := (parts.map fun p => (p.members 0).length).foldl Nat.add 0
  parts.flatMap (SetPart.members (size - fixed))

/-- Bytes without those that repeat the one before and are in a set. -/
def squeeze (set : List UInt8) : Option UInt8 → Bytes → Bytes → Bytes × Option UInt8
  | before, acc, [] => (acc.reverse, before)
  | before, acc, b :: bs =>
    if before = some b && set.contains b then squeeze set before acc bs
    else squeeze set (some b) (b :: acc) bs

/-- Goes through what can be read, with something that is remembered. -/
def mapInput {σ : Type} (f : σ → Bytes → Bytes × σ) : Nat → σ → Work Unit
  | 0, _ => return ()
  | rounds + 1, st => do
    match ← System.read 0 8192 none with
    | .ok [] => return ()
    | .ok bytes => do
      let (out, st) := f st bytes
      emit out
      mapInput f rounds st
    | .error e => fail 1 ("read error: " ++ reason e)

/-- What a byte becomes, by pairs of bytes. The last pair for a byte counts. -/
def translation (pairs : List (UInt8 × UInt8)) : Array UInt8 :=
  pairs.foldl (fun table p => table.set! p.1.toNat p.2) (allBytes.toArray)

/-- Replaces or drops characters. -/
def tr : Work Unit := do
  let p ← parsed 1
    ⟨"+cCdst",
      [("complement", 'c', .none), ("delete", 'd', .none), ("squeeze-repeats", 's', .none),
        ("truncate-set1", 't', .none)], true⟩
  let complement := p.has 'c' || p.has 'C'
  let delete := p.has 'd'
  let squeezes := p.has 's'
  let least := if delete = squeezes then 2 else 1
  let most := if delete && !squeezes then 1 else 2
  match p.operands with
  | [] => misuse 1 "missing operand"
  | [one] =>
    if least = 2 then
      warn ("missing operand after " ++ quoted one)
      complain (if delete && squeezes then
          "Two strings must be given when both deleting and squeezing repeats.\n"
        else "Two strings must be given when translating.\n")
      hint
      quit 1
  | _ => pure ()
  match p.operands[most]? with
  | some extra => do
    warn ("extra operand " ++ quoted extra)
    if most = 1 && p.operands.length = 2 then
      complain "Only one string may be given when deleting without squeezing repeats.\n"
    hint
    quit 1
  | none => pure ()
  let read := fun (text : String) => (show Work (List SetPart) from do
    match readSet (text.length + 1) text.toList with
    | .ok parts => return parts
    | .error message => fail 1 message)
  let first ← read (p.operands.head?.getD "")
  let plain := membersOf 0 first
  let set := if complement then allBytes.filter fun b => !plain.contains b else plain
  match p.operands[1]? with
  | none =>
    if delete then
      mapInput (fun () bytes => (bytes.filter fun b => !set.contains b, ())) manyRounds ()
    else mapInput (fun before bytes => squeeze set before [] bytes) manyRounds none
  | some text => do
    let second ← read text
    if delete then
      let again := membersOf 0 second
      mapInput (fun before bytes =>
        squeeze again before [] (bytes.filter fun b => !set.contains b)) manyRounds none
    else
      let target := membersOf set.length second
      let caseOf := fun (part : SetPart) => match part with
        | .named "upper" => some true
        | .named "lower" => some false
        | _ => none
      if target.isEmpty && !(p.has 't') then
        fail 1 "when not truncating set1, string2 must be non-empty"
      let misaligned := second.any fun part => match part with
        | .named name => name ≠ "upper" && name ≠ "lower"
        | _ => false
      if misaligned then
        fail 1
          "when translating, the only character classes that may appear in\nstring2 are 'upper' and 'lower'"
      let _ := caseOf
      let padded := if p.has 't' then target
        else target ++ List.replicate (set.length - target.length) (target.getLast?.getD 0)
      let table := translation (set.zip padded)
      let change := fun (bytes : Bytes) => bytes.map fun b => table[b.toNat]?.getD b
      if squeezes then
        mapInput (fun before bytes => squeeze target before [] (change bytes)) manyRounds none
      else mapInput (fun () bytes => (change bytes, ())) manyRounds ()

/-! ## `od` -/

/-- How `od` shows bytes. -/
inductive Shape where
  /-- Numbers of so many bytes in a base, with or without a sign. -/
  | number (size base : Nat) (signed : Bool)
  /-- Characters, or their names. -/
  | char
  | name
deriving DecidableEq, Repr

/-- The names of the bytes that are not printed. -/
def byteNames : List String :=
  ["nul", "soh", "stx", "etx", "eot", "enq", "ack", "bel", "bs", "ht", "nl", "vt", "ff", "cr",
    "so", "si", "dle", "dc1", "dc2", "dc3", "dc4", "nak", "syn", "etb", "can", "em", "sub",
    "esc", "fs", "gs", "rs", "us", "sp"]

/-- A number in a base with zeros in front. -/
def digitsIn (base width n : Nat) : String :=
  let digits := Nat.toDigits base n
  String.ofList (List.replicate (width - digits.length) '0' ++ digits)

/-- The number of characters of a value in some shape. -/
def Shape.width : Shape → Nat
  | .number size base signed =>
    let bits := 8 * size
    if base = 8 then (bits + 2) / 3
    else if base = 16 then bits / 4
    else (toString (Nat.pow 2 (if signed then bits - 1 else bits))).length + if signed then 1 else 0
  | .char | .name => 3

/-- The number of bytes of a value in some shape. -/
def Shape.size : Shape → Nat
  | .number size _ _ => size
  | _ => 1

/-- A value in some shape. -/
def Shape.text (s : Shape) (bytes : Bytes) : String :=
  let n := bytes.reverse.foldl (fun n b => n * 256 + b.toNat) 0
  match s with
  | .number size base signed =>
    if base = 10 then
      let half := Nat.pow 2 (8 * size - 1)
      if signed && n ≥ half then "-" ++ toString (Nat.pow 2 (8 * size) - n) else toString n
    else digitsIn base s.width n
  | .char =>
    match n with
    | 0 => "\\0"
    | 7 => "\\a"
    | 8 => "\\b"
    | 9 => "\\t"
    | 10 => "\\n"
    | 11 => "\\v"
    | 12 => "\\f"
    | 13 => "\\r"
    | n => if 32 ≤ n && n < 127 then (Char.ofNat n).toString else digitsIn 8 3 n
  | .name =>
    let m := n % 128
    if m = 127 then "del" else byteNames[m]?.getD (Char.ofNat m).toString

/-- A line of bytes in some shape, given the width of a value. -/
def Shape.line (s : Shape) (width : Nat) (bytes : Bytes) : String :=
  let count := (bytes.length + s.size - 1) / s.size
  String.join <| (List.range count).map fun i =>
    let value := (bytes.drop (i * s.size)).take s.size
    let text := s.text (value ++ List.replicate (s.size - value.length) 0)
    String.ofList (List.replicate (width - text.length) ' ') ++ text

/-- The shapes that the argument of `-t` describes. -/
def readShapes : Nat → List Char → Option (List Shape)
  | 0, _ => some []
  | _, [] => some []
  | steps + 1, c :: cs =>
    let digits := cs.takeWhile Char.isDigit
    let (size, rest) := match digits, cs with
      | [], 'C' :: more => (1, more)
      | [], 'S' :: more => (2, more)
      | [], 'I' :: more => (4, more)
      | [], 'L' :: more => (8, more)
      | [], cs => (4, cs)
      | digits, cs => (numberOf 10 digits, cs.drop digits.length)
    let shape := match c with
      | 'a' => some (Shape.name, cs)
      | 'c' => some (Shape.char, cs)
      | 'd' => some (.number size 10 true, rest)
      | 'u' => some (.number size 10 false, rest)
      | 'o' => some (.number size 8 false, rest)
      | 'x' => some (.number size 16 false, rest)
      | _ => none
    shape.bind fun (s, rest) => (readShapes steps rest).map (s :: ·)

/-- Shows bytes as numbers. -/
def od : Work Unit := do
  let p ← parsed 1
    ⟨"A:j:N:t:vw::abcdfiloxsX",
      [("address-radix", 'A', .required), ("skip-bytes", 'j', .required),
        ("read-bytes", 'N', .required), ("format", 't', .required),
        ("output-duplicates", 'v', .none), ("width", 'w', .optional)], false⟩
  let short : List (Char × String) :=
    [('a', "a"), ('b', "o1"), ('c', "c"), ('d', "u2"), ('i', "dI"), ('l', "dL"), ('o', "o2"),
      ('s', "d2"), ('x', "x2"), ('X', "x4")]
  let texts := p.options.filterMap fun o => if o.1 = 't' then o.2 else short.lookup o.1
  let shapes ← texts.mapM fun text => do
    match readShapes (text.length + 1) text.toList with
    | some shapes => return shapes
    | none => fail 1 ("invalid character '" ++ ((text.toList.head?.map Char.toString).getD "")
        ++ "' in type string " ++ quoted text)
  let shapes := if shapes.flatten.isEmpty then [.number 2 8 false] else shapes.flatten
  let contents ← do
    let rec go : List String → List Bytes → Work (List Bytes)
      | [], found => return found.reverse
      | file :: files, found => do
        if file = "-" then go files ((← contentsOf 0 (warnFile "-")) :: found)
        else
          match ← openPath fileStream file .read with
          | .ok () => do
            let bytes ← contentsOf fileStream (warnFile file)
            System.detach fileStream
            go files (bytes :: found)
          | .error e => do
            setStatus 1
            warnFile file e
            go files found
    match (p.value? 'N').bind (sizeOf? ["b", "k", "m", "K", "M"]), p.operands with
    | some n, [] =>
      let rec take : Nat → Nat → List Bytes → Work (List Bytes)
        | 0, _, found => return found.reverse
        | _, 0, found => return found.reverse
        | rounds + 1, left, found => do
          match ← System.read 0 left none with
          | .ok (b :: bytes) => take rounds (left - (b :: bytes).length) ((b :: bytes) :: found)
          | _ => return found.reverse
      take manyRounds (n + ((p.value? 'j').bind (sizeOf? [])).getD 0) []
    | _, files => go (orInput files) []
  let skip := ((p.value? 'j').bind (sizeOf? ["b", "k", "m", "K", "M"])).getD 0
  let bytes := contents.flatten.drop skip
  let bytes := match (p.value? 'N').bind (sizeOf? ["b", "k", "m", "K", "M"]) with
    | some n => bytes.take n
    | none => bytes
  let perLine := match p.options.find? fun o => o.1 = 'w' with
    | some (_, some text) => max 1 ((Shell.countOf? text).getD 16)
    | some (_, none) => 32
    | none => 16
  let radix := (p.value? 'A').getD "o"
  let address := fun (n : Nat) => match radix with
    | "d" => String.ofList (List.replicate (7 - (toString n).length) '0') ++ toString n
    | "x" => digitsIn 16 6 n
    | "n" => ""
    | _ => digitsIn 8 7 n
  -- the values of all shapes are as wide as those of the widest one take for each byte
  let widest := (shapes.map fun s => ((s.width + 1) * 8 + s.size - 1) / s.size).foldl max 0
  let widthOf := fun (s : Shape) => widest * s.size / 8
  let lines := (List.range ((bytes.length + perLine - 1) / perLine)).map fun i =>
    (i * perLine, (bytes.drop (i * perLine)).take perLine)
  let show? := fun (acc : List String × Option Bytes × Bool) (l : Nat × Bytes) =>
    let (out, before, starred) := acc
    if before = some l.2 && !p.has 'v' && l.2.length = perLine then
      (if starred then out else "*\n" :: out, before, true)
    else
      let rows := shapes.zipIdx.map fun (s, i) =>
        let start := if i = 0 then address l.1
          else String.ofList (List.replicate (address l.1).length ' ')
        start ++ s.line (widthOf s) l.2 ++ "\n"
      (String.join rows :: out, some l.2, false)
  let (out, _, _) := lines.foldl show? ([], none, false)
  print (String.join out.reverse)
  if radix ≠ "n" then print (address (skip + bytes.length) ++ "\n")

end CrateGraph.Tool
