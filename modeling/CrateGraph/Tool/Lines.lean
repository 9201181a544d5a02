import CrateGraph.Tool.Copying

/-!
# Programs for lines

Programs that read lines and write them in another order or form: `sort`, `uniq`, `cut`,
`paste`, `nl`, `fold` and `rev`. Bytes are compared by their numbers.
-/

namespace CrateGraph.Tool

open Shell (Work Session Opening complain setStatus openPath numberOf)

/-- The contents of files, one after the other. -/
def allContents (files : List String) : Work (List Bytes) := do
  let rec go : List String → List Bytes → Work (List Bytes)
    | [], found => return found.reverse
    | file :: files, found => do
      if file = "-" then go files ((← contentsOf 0 (warnFile "-")) :: found)
      else
        match ← openPath fileStream file .read with
        | .ok () => do
          let bytes ← contentsOf fileStream (warnFile file)
          System.detach fileStream
          go files (bytes :: found)
        | .error e => do
          setStatus 1
          warnFile file e
          go files found
  go (orInput files) []

/-- Whether a byte is a blank. -/
def isBlankByte (b : UInt8) : Bool := b = 32 || b = 9

/-- Whether bytes come before others, or are the same. -/
def bytesLe : Bytes → Bytes → Bool
  | [], _ => true
  | _ :: _, [] => false
  | a :: as, b :: bs => if a < b then true else if b < a then false else bytesLe as bs

/-- How bytes compare with others. -/
def compareBytes (a b : Bytes) : Ordering :=
  if a = b then .eq else if bytesLe a b then .lt else .gt

/-! ## `sort` -/

/-- A place in a line: after so many fields, and so many characters of the next one. -/
structure KeyPlace where
  fields : Nat
  chars : Nat
  skipBlanks : Bool

/-- A part of a line by which lines are sorted. -/
structure SortKey where
  start : KeyPlace
  stop : Option KeyPlace
  /-- The letters of the options that apply to it. -/
  flags : List Char

/-- What is left of a line after some fields. -/
def afterFields (tab : Option UInt8) : Nat → Bytes → Bytes
  | 0, line => line
  | n + 1, line =>
    match tab with
    | some t => afterFields tab n ((line.dropWhile (· ≠ t)).drop 1)
    | none => afterFields tab n ((line.dropWhile isBlankByte).dropWhile fun b => !isBlankByte b)

/-- What is left of a line after the end of some field, before what separates it from the
next one. -/
def afterFieldEnd (tab : Option UInt8) (n : Nat) (line : Bytes) : Bytes :=
  match tab, n with
  | some t, n + 1 => (afterFields tab n line).dropWhile (· ≠ t)
  | _, n => afterFields tab n line

/-- The part of a line that is a key. -/
def SortKey.cut (k : SortKey) (tab : Option UInt8) (line : Bytes) : Bytes :=
  let skip := fun (p : KeyPlace) (rest : Bytes) =>
    (if p.skipBlanks then rest.dropWhile isBlankByte else rest).drop p.chars
  let start := skip k.start (afterFields tab k.start.fields line)
  match k.stop with
  | none => start
  | some p =>
    let rest := if p.chars = 0 then afterFieldEnd tab (p.fields + 1) line
      else skip p (afterFields tab p.fields line)
    start.take (start.length - rest.length)

/-- A number at the start of bytes: whether it is negative, its whole digits without zeros
in front, and the digits after its point without zeros at the end. -/
def leadingNumber (bytes : Bytes) : Bool × List Char × List Char × List Char :=
  let cs := (Text.raw bytes).toList.dropWhile fun c => c = ' ' || c = '\t'
  let (negative, cs) := match cs with
    | '-' :: rest => (true, rest)
    | _ => (false, cs)
  let whole := cs.takeWhile Char.isDigit
  let rest := cs.drop whole.length
  let (part, rest) := match rest with
    | '.' :: more => (more.takeWhile Char.isDigit, more.dropWhile Char.isDigit)
    | _ => ([], rest)
  (negative, whole.dropWhile (· = '0'), (part.reverse.dropWhile (· = '0')).reverse, rest)

/-- How two numbers at the start of bytes compare. -/
def compareNumbers (withUnit : Bool) (a b : Bytes) : Ordering :=
  let (na, wa, pa, ra) := leadingNumber a
  let (nb, wb, pb, rb) := leadingNumber b
  let unit := fun (rest : List Char) =>
    if !withUnit then 0
    else match rest.head? with
      | some c => (['k', 'M', 'G', 'T', 'P', 'E', 'Z', 'Y'].idxOf (if c = 'K' then 'k' else c) + 1) % 9
      | none => 0
  let zeroA := wa.isEmpty && pa.isEmpty
  let zeroB := wb.isEmpty && pb.isEmpty
  let sign := fun (zero negative : Bool) => if zero then 1 else if negative then 0 else 2
  let (sa, sb) := (sign zeroA na, sign zeroB nb)
  if sa ≠ sb then compare sa sb
  else
    let size := (compare (unit ra) (unit rb)).then <| (compare wa.length wb.length).then <|
      (compare (String.ofList wa) (String.ofList wb)).then
        (compare (String.ofList pa) (String.ofList pb))
    if sa = 0 then size.swap else size

/-- The number of the month whose name bytes begin with. -/
def monthOf (bytes : Bytes) : Nat :=
  let name := ((Text.raw bytes).toList.dropWhile fun c => c = ' ' || c = '\t').take 3
  (["JAN", "FEB", "MAR", "APR", "MAY", "JUN", "JUL", "AUG", "SEP", "OCT", "NOV", "DEC"].idxOf
    (String.ofList (name.map Char.toUpper)) + 1) % 13

/-- Versions compare by their numbers and the texts between them. -/
def compareVersions : Nat → List Char → List Char → Ordering
  | 0, _, _ => .eq
  | steps + 1, a, b =>
    let (ta, tb) := (a.takeWhile fun c => !c.isDigit, b.takeWhile fun c => !c.isDigit)
    let (a, b) := (a.drop ta.length, b.drop tb.length)
    let (da, db) := (a.takeWhile Char.isDigit, b.takeWhile Char.isDigit)
    let (restA, restB) := (a.drop da.length, b.drop db.length)
    let order := (compare (String.ofList ta) (String.ofList tb)).then
      (compare (numberOf 10 da) (numberOf 10 db))
    if order ≠ .eq || (restA.isEmpty && restB.isEmpty) then order
    else compareVersions steps restA restB

/-- How the keys of two lines compare, without reversal. -/
def compareKeys (flags : List Char) (a b : Bytes) : Ordering :=
  let has := flags.contains
  if has 'n' || has 'g' then compareNumbers false a b
  else if has 'h' then compareNumbers true a b
  else if has 'M' then compare (monthOf a) (monthOf b)
  else if has 'V' then
    compareVersions (a.length + b.length + 1) (Text.raw a).toList (Text.raw b).toList
  else
    let keep := fun (c : UInt8) =>
      let isLetter := (65 ≤ c && c ≤ 90) || (97 ≤ c && c ≤ 122) || (48 ≤ c && c ≤ 57)
      (!has 'd' || isLetter || isBlankByte c) && (!has 'i' || (32 ≤ c && c < 127))
    let fold := fun (c : UInt8) => if has 'f' && 97 ≤ c && c ≤ 122 then c - 32 else c
    let view := fun (x : Bytes) =>
      let x := if has 'b' then x.dropWhile isBlankByte else x
      (x.filter keep).map fold
    compareBytes (view a) (view b)

/-- A place in the text of a key, and the letters after it. -/
def readPlace (cs : List Char) : Option (Nat × Option Nat × List Char × List Char) :=
  let digits := cs.takeWhile Char.isDigit
  let rest := cs.drop digits.length
  let (chars, rest) := match rest with
    | '.' :: more =>
      let d := more.takeWhile Char.isDigit
      (some (numberOf 10 d), more.drop d.length)
    | _ => (none, rest)
  let flags := rest.takeWhile Char.isAlpha
  if digits.isEmpty then none
  else some (numberOf 10 digits, chars, flags, rest.drop flags.length)

/-- The key that an argument describes. -/
def readKey (arg : String) : Option SortKey := do
  let (field, chars, flags, rest) ← readPlace arg.toList
  if field = 0 then none
  let start := fun (flags : List Char) =>
    (⟨field - 1, (chars.getD 1) - 1, flags.contains 'b'⟩ : KeyPlace)
  match rest with
  | [] => some ⟨start flags, none, flags⟩
  | ',' :: more =>
    let (field', chars', flags', rest') ← readPlace more
    if field' = 0 || !rest'.isEmpty then none
    some ⟨start flags, some ⟨field' - 1, chars'.getD 0, flags'.contains 'b'⟩, flags ++ flags'⟩
  | _ => none

/-- The order of lines by keys. -/
structure LineOrder where
  keys : List SortKey
  tab : Option UInt8
  /-- The letters of the options that apply to keys that have none. -/
  flags : List Char

/-- How two lines compare by their keys. -/
def LineOrder.byKeys (o : LineOrder) (a b : Bytes) : Ordering :=
  let keys := if o.keys.isEmpty then [⟨⟨0, 0, o.flags.contains 'b'⟩, none, []⟩] else o.keys
  keys.foldl (fun found k => found.then <|
    let flags := if (k.flags.filter (· ≠ 'b')).isEmpty && !k.flags.contains 'b'
      then o.flags else k.flags
    let order := compareKeys flags (k.cut o.tab a) (k.cut o.tab b)
    if flags.contains 'r' then order.swap else order) .eq

/-- Lines of which each is different from the one before. -/
def dropRepeated (same : Bytes → Bytes → Bool) : List Bytes → List Bytes
  | [] => []
  | [x] => [x]
  | x :: y :: rest =>
    if same x y then dropRepeated same (x :: rest) else x :: dropRepeated same (y :: rest)
termination_by lines => lines.length

/-- The first line that comes before the one in front of it, with its number. -/
def disorder (fine : Bytes → Bytes → Bool) : Nat → List Bytes → Option (Nat × Bytes)
  | n, x :: y :: rest => if fine x y then disorder fine (n + 1) (y :: rest) else some (n + 1, y)
  | _, _ => none

/-- Sorts lines. -/
def sort : Work Unit := do
  let p ← parsed 2
    ⟨"bcCdfghik:mMno:rsS:t:T:uVz",
      [("reverse", 'r', .none), ("numeric-sort", 'n', .none), ("unique", 'u', .none),
        ("key", 'k', .required), ("field-separator", 't', .required), ("output", 'o', .required),
        ("stable", 's', .none), ("check", 'c', .optional), ("ignore-case", 'f', .none),
        ("ignore-leading-blanks", 'b', .none), ("version-sort", 'V', .none),
        ("human-numeric-sort", 'h', .none), ("general-numeric-sort", 'g', .none),
        ("month-sort", 'M', .none), ("dictionary-order", 'd', .none), ("merge", 'm', .none),
        ("zero-terminated", 'z', .none), ("ignore-nonprinting", 'i', .none)], false⟩
  let keys ← (p.values 'k').mapM fun text => do
    match readKey text with
    | some k => return k
    | none => fail 2 ("invalid number at field start: invalid count at start of " ++ quoted text)
  let tab ← match p.value? 't' with
    | none => pure none
    | some text =>
      match Text.unraw text with
      | [b] => pure (some b)
      | [92, 48] => pure (some 0)
      | [] => fail 2 "empty tab"
      | _ => fail 2 ("multi-character tab " ++ quoted text)
  let flags := (p.options.map (·.1)).filter fun c => ['b', 'd', 'f', 'g', 'h', 'i', 'M', 'n', 'r', 'V'].contains c
  let order : LineOrder := ⟨keys, tab, flags⟩
  let ending : UInt8 := if p.has 'z' then 0 else 10
  let s ← get
  let t ← System.tree
  for file in p.operands do
    if file ≠ "-" then
      match t.locate s.cwd (Shell.pathOf file) with
      | .ok _ => pure ()
      | .error e => fail 2 ("cannot read: " ++ named file ++ ": " ++ reason e)
  let contents ← allContents p.operands
  if (← get).status ≠ 0 then quit 2
  let lines := contents.flatMap fun bytes =>
    let pieces := bytes.splitOn ending
    if pieces.getLast? = some [] then pieces.dropLast else pieces
  let stable := p.has 's' || p.has 'u'
  let whole := fun (a b : Bytes) =>
    let o := order.byKeys a b
    if stable then o
    else o.then (if flags.contains 'r' then compareBytes b a else compareBytes a b)
  if p.has 'c' || p.has 'C' then
    let fine := fun (a b : Bytes) =>
      if p.has 'u' then decide (order.byKeys a b = .lt) else decide (whole a b ≠ .gt)
    match disorder fine 1 lines with
    | none => quit 0
    | some (n, line) => do
      if p.has 'c' then
        warn (((p.operands.head?).getD "-") ++ ":" ++ toString n ++ ": disorder: " ++ Text.raw line)
      quit 1
  else
    let sorted := lines.mergeSort fun a b => decide (whole a b ≠ .gt)
    let kept := if p.has 'u' then dropRepeated (fun a b => decide (order.byKeys a b = .eq)) sorted
      else sorted
    match p.value? 'o' with
    | none => pure ()
    | some file =>
      match ← openPath 1 file .write with
      | .ok () => pure ()
      | .error e => fail 2 ("open failed: " ++ named file ++ ": " ++ reason e)
    emit (kept.map (· ++ [ending])).flatten

/-! ## `uniq` -/

/-- Lines that are the same and follow one another, as one with their number. `same` says
whether two lines count as the same. -/
def countRepeated (same : Bytes → Bytes → Bool) : List Bytes → List (Bytes × Nat)
  | [] => []
  | x :: rest =>
    let more := rest.takeWhile (same x)
    (x, more.length + 1) :: countRepeated same (rest.drop more.length)
termination_by lines => lines.length
decreasing_by
  simp only [List.length_drop, List.length_cons]
  omega

/-- Leaves out lines that repeat the one before. -/
def uniq : Work Unit := do
  let p ← parsed 1
    ⟨"cdDuif:s:w:z",
      [("count", 'c', .none), ("repeated", 'd', .none), ("unique", 'u', .none),
        ("ignore-case", 'i', .none), ("skip-fields", 'f', .required),
        ("skip-chars", 's', .required), ("check-chars", 'w', .required)], false⟩
  match p.operands with
  | _ :: _ :: extra :: _ => misuse 1 ("extra operand " ++ quoted extra)
  | _ => pure ()
  match p.operands[0]? with
  | some file =>
    if file ≠ "-" then
      match ← openPath 0 file .read with
      | .ok () => pure ()
      | .error e => fail 1 (named file ++ ": " ++ reason e)
  | none => pure ()
  match p.operands[1]? with
  | some file =>
    if file ≠ "-" then
      match ← openPath 1 file .write with
      | .ok () => pure ()
      | .error e => fail 1 (named file ++ ": " ++ reason e)
  | none => pure ()
  let number := fun (c : Char) => ((p.value? c).bind Shell.countOf?)
  let skipFields := fun (line : Bytes) => afterFields none ((number 'f').getD 0) line
  let fold := fun (c : UInt8) => if p.has 'i' && 97 ≤ c && c ≤ 122 then c - 32 else c
  let view : Bytes → Bytes := fun line =>
    let rest := (skipFields line).drop ((number 's').getD 0)
    (match number 'w' with
      | some n => rest.take n
      | none => rest).map fold
  let isShown := fun (count : Nat) =>
    if p.has 'd' && p.has 'u' then false
    else if p.has 'd' || p.has 'D' then count > 1
    else if p.has 'u' then count = 1 else true
  let line := fun (g : Bytes × Nat) =>
    if !isShown g.2 then []
    else if p.has 'D' then (List.replicate g.2 (g.1 ++ [10])).flatten
    else if p.has 'c' then
      let digits := toString g.2
      Text.toBytes (String.ofList (List.replicate (7 - digits.length) ' ') ++ digits ++ " ")
        ++ g.1 ++ [10]
    else g.1 ++ [10]
  let same : Bytes → Bytes → Bool := fun a b => view a == view b
  let block := fun (last : Option (Bytes × Nat)) (lines : List Bytes) (_ : Bool) => do
    let groups := match last, countRepeated same lines with
      | some (x, n), (y, m) :: more =>
        if same x y then (x, n + m) :: more else (x, n) :: (y, m) :: more
      | none, more => more
      | some g, [] => [g]
    emit (groups.dropLast.map line).flatten
    return groups.getLast?
  let last ← forLines 0 ((p.operands.head?).getD "-") block none
  emit ((last.map line).getD [])

/-! ## `cut` -/

/-- A range of numbers, which may go on without end. -/
abbrev NumberRange := Nat × Option Nat

/-- The ranges that a list describes, or what is wrong with it. -/
def readRanges (fields : Bool) (text : String) : Except String (List NumberRange) :=
  let what := if fields then "fields" else "byte/character positions"
  let value := if fields then "field value" else "byte or character position"
  let number := fun (cs : List Char) =>
    if cs.all Char.isDigit then .ok (numberOf 10 cs)
    else .error ("invalid " ++ value ++ " " ++ quoted (String.ofList cs))
  let items := ((text.toList.map fun c => if c = ' ' then ',' else c).splitOn ',')
  items.mapM fun item => do
    match item.splitOn '-' with
    | [one] => do
      let n ← number one
      if n = 0 then throw (what ++ " are numbered from 1") else return (n, some n)
    | [from?, to?] => do
      if from?.isEmpty && to?.isEmpty then throw "invalid range with no endpoint: -"
      let a ← if from?.isEmpty then pure 1 else number from?
      if a = 0 then throw (what ++ " are numbered from 1")
      if to?.isEmpty then return (a, none)
      else
        let b ← number to?
        if b < a then throw "invalid decreasing range" else return (a, some b)
    | _ => throw ("invalid " ++ (if fields then "field range" else "byte or character range"))

/-- Whether a number is in one of some ranges. -/
def inRanges (ranges : List NumberRange) (n : Nat) : Bool :=
  ranges.any fun r => r.1 ≤ n && r.2.all (n ≤ ·)

/-- Writes parts of lines. -/
def cut : Work Unit := do
  let p ← parsed 1
    ⟨"b:c:d:f:nsz",
      [("bytes", 'b', .required), ("characters", 'c', .required), ("fields", 'f', .required),
        ("delimiter", 'd', .required), ("only-delimited", 's', .none),
        ("complement", 'C', .none), ("output-delimiter", 'O', .required)], false⟩
  let lists := p.options.filter fun o => ['b', 'c', 'f'].contains o.1
  match lists with
  | [] => misuse 1 "you must specify a list of bytes, characters, or fields"
  | _ :: _ :: _ => misuse 1 "only one list may be specified"
  | [(kind, text)] =>
    let fields := decide (kind = 'f')
    if !fields && (p.value? 'd').isSome then
      misuse 1 "an input delimiter may be specified only when operating on fields"
    if !fields && p.has 's' then
      misuse 1 "suppressing non-delimited lines makes sense\n\tonly when operating on fields"
    let ranges ← match readRanges fields (text.getD "") with
      | .ok r => pure r
      | .error message => misuse 1 message
    let delimiter ← match (p.value? 'd').map Text.unraw with
      | none => pure 9
      | some [b] => pure b
      | some [] => pure 0
      | some _ => misuse 1 "the delimiter must be a single character"
    let between := match p.value? 'O' with
      | some s => Text.unraw s
      | none => if fields then [delimiter] else []
    let chosen := fun (n : Nat) => inRanges ranges n != p.has 'C'
    let cutLine := fun (line : Bytes) =>
      if fields then
        if !line.contains delimiter then if p.has 's' then none else some line
        else
          let parts := (line.splitOn delimiter).zipIdx.filterMap fun (x, i) =>
            if chosen (i + 1) then some x else none
          some (List.intercalate between parts)
      else some (line.zipIdx.filterMap fun (b, i) => if chosen (i + 1) then some b else none)
    forFiles warnFile (fun fd file =>
      forLines fd file (fun () lines _ => emit (joinLines (lines.filterMap cutLine))) ())
      (orInput p.operands)

/-! ## `paste`, `nl`, `fold` and `rev` -/

/-- The characters that a list of them describes. -/
def delimiters : List Char → List Bytes
  | [] => []
  | '\\' :: 'n' :: cs => [10] :: delimiters cs
  | '\\' :: 't' :: cs => [9] :: delimiters cs
  | '\\' :: '0' :: cs => [] :: delimiters cs
  | '\\' :: c :: cs => [c.toNat.toUInt8] :: delimiters cs
  | c :: cs => [c.toNat.toUInt8] :: delimiters cs

/-- Texts with delimiters between them, which are used in turn. -/
def pasted (ds : List Bytes) (texts : List Bytes) : Bytes :=
  (texts.zipIdx.map fun (x, i) =>
    if i = 0 then x else (ds[(i - 1) % max 1 ds.length]?.getD []) ++ x).flatten

/-- Puts lines next to one another. -/
def paste : Work Unit := do
  let p ← parsed 1 ⟨"d:sz", [("delimiters", 'd', .required), ("serial", 's', .none)], false⟩
  let ds := delimiters ((p.value? 'd').getD "\t").toList
  let files := orInput p.operands
  let dashes := (files.filter (· = "-")).length
  let contents ← allContents (files.filter (· ≠ "-") ++ if dashes > 0 then ["-"] else [])
  if (← get).status ≠ 0 then quit 1
  let input := if dashes > 0 then (linesOf (contents.getLast?.getD [])).1 else []
  let rec columns : List String → Nat → List Bytes → List (List Bytes)
    | [], _, _ => []
    | "-" :: files, k, cs =>
      (input.zipIdx.filterMap fun (l, i) => if i % dashes = k then some l else none)
        :: columns files (k + 1) cs
    | _ :: files, k, c :: cs => (linesOf c).1 :: columns files k cs
    | _ :: files, k, [] => [] :: columns files k []
  let columns := columns files 0 contents
  if p.has 's' then
    emit (joinLines (columns.map (pasted ds)))
  else
    let rows := (columns.map List.length).foldl max 0
    emit (joinLines ((List.range rows).map fun i => pasted ds (columns.map fun col => col[i]?.getD [])))

/-- Numbers lines. -/
def nl : Work Unit := do
  let p ← parsed 1
    ⟨"b:d:f:h:i:l:n:ps:v:w:",
      [("body-numbering", 'b', .required), ("number-separator", 's', .required),
        ("number-width", 'w', .required), ("starting-line-number", 'v', .required),
        ("line-increment", 'i', .required), ("number-format", 'n', .required)], false⟩
  let number := fun (c : Char) (usual : Nat) => ((p.value? c).bind Shell.countOf?).getD usual
  let width := number 'w' 6
  let separator := (p.value? 's').getD "\t"
  let style := (p.value? 'b').getD "t"
  let form := (p.value? 'n').getD "rn"
  let shown := fun (n : Nat) (line : Bytes) =>
    let numbered := style = "a" || (style = "t" && !line.isEmpty)
    if numbered then
      let digits := toString n
      let padding := fun (c : Char) => String.ofList (List.replicate (width - digits.length) c)
      let shown := if form = "ln" then digits ++ padding ' '
        else if form = "rz" then padding '0' ++ digits else padding ' ' ++ digits
      (Text.unraw (shown ++ separator) ++ line, n + number 'i' 1)
    else
      let blank := String.ofList (List.replicate (width + separator.length) ' ')
      (Text.toBytes blank ++ line, n)
  let block := fun (n : Nat) (lines : List Bytes) (_ : Bool) => do
    let step := fun (acc : List Bytes × Nat) (line : Bytes) =>
      let (text, n) := shown acc.2 line
      (text :: acc.1, n)
    let (out, n) := lines.foldl step ([], n)
    emit (joinLines out.reverse)
    return n
  let rec go : List String → Nat → Work Unit
    | [], _ => return ()
    | file :: files, n => do
      if file = "-" then go files (← forLines 0 file block n)
      else
        match ← openPath fileStream file .read with
        | .ok () => do
          let n ← forLines fileStream file block n
          System.detach fileStream
          go files n
        | .error e => do
          setStatus 1
          warnFile file e
          go files n
  go (orInput p.operands) (number 'v' 1)

/-- The pieces of a line that are no longer than some width, broken after blanks if that is
asked for. -/
def foldLine (width : Nat) (atBlanks : Bool) : Nat → Bytes → List Bytes
  | 0, line => [line]
  | steps + 1, line =>
    if line.length ≤ width then [line]
    else
      let piece := line.take width
      let kept := if atBlanks then (piece.reverse.dropWhile fun b => !isBlankByte b).reverse else []
      let piece := if kept.isEmpty then piece else kept
      piece :: foldLine width atBlanks steps (line.drop piece.length)

/-- Breaks lines. -/
def fold : Work Unit := do
  let p ← parsed 1
    ⟨"bsw:", [("width", 'w', .required), ("spaces", 's', .none), ("bytes", 'b', .none)], false⟩
  let width ← match p.value? 'w' with
    | none => pure 80
    | some text =>
      match Shell.countOf? text with
      | some (n + 1) => pure (n + 1)
      | _ => fail 1 ("invalid number of columns: " ++ quoted text)
  forFiles warnFile (fun fd file =>
    forLines fd file (fun () lines ended => do
      let out := joinLines (lines.flatMap fun l => foldLine width (p.has 's') (l.length + 1) l)
      emit (if ended then out else out.dropLast)) ()) (orInput p.operands)

/-- Reverses lines. -/
def rev : Work Unit := do
  let p ← parsed 1 ⟨"", [], false⟩
  forFiles (fun file e => warn ("cannot open " ++ file ++ ": " ++ reason e)) (fun fd file =>
    forLines fd file (fun () lines ended => do
      let out := joinLines (lines.map List.reverse)
      emit (if ended then out else out.dropLast)) ()) (orInput p.operands)

end CrateGraph.Tool
