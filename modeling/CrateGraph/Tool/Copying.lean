import CrateGraph.Shell.Numeral
import CrateGraph.Tool.Basic

/-!
# Programs that copy

Programs that write what they read, or a part of it: `cat`, `head`, `tail`, `tee`, `tac`,
`yes`, `dd` and `wc`, which only counts.
-/

namespace CrateGraph.Tool

open Shell (Work Session Opening complain setStatus openPath numberOf manyRounds)

/-! ## Sizes -/

/-- The factors that letters after a size stand for. -/
def sizeFactors : List (String × Nat) :=
  [("", 1), ("b", 512), ("kB", 1000), ("k", 1024), ("K", 1024), ("KB", 1000), ("KiB", 1024),
    ("M", 1048576), ("MB", 1000000), ("MiB", 1048576), ("m", 1048576), ("G", 1073741824),
    ("GB", 1000000000), ("GiB", 1073741824), ("c", 1), ("w", 2)]

/-- A size with letters after it. -/
def sizeOf? (units : List String) (s : String) : Option Nat :=
  let digits := s.toList.takeWhile Char.isDigit
  let unit := String.ofList (s.toList.drop digits.length)
  if digits.isEmpty then none
  else if unit ≠ "" && !units.contains unit then none
  else (sizeFactors.lookup unit).map (numberOf 10 digits * ·)

/-- The letters that `head` and `tail` know. -/
def extentUnits : List String := ["b", "kB", "k", "K", "KB", "KiB", "M", "MB", "MiB", "m", "G", "GB", "GiB"]

/-! ## `cat` -/

/-- How `cat` shows what it copies. -/
structure Showing where
  number : Bool
  numberFull : Bool
  squeeze : Bool
  ends : Bool
  tabs : Bool
  others : Bool

/-- What `cat` remembers of what it has copied: the lines that it has numbered, and the line
ends that came last. -/
structure Shown where
  count : Nat
  ends : Nat

/-- A byte that is not printed as itself. -/
def showByte (s : Showing) (b : UInt8) : Bytes :=
  if b = 9 then if s.tabs then [94, 73] else [9]
  else if !s.others then [b]
  else if b < 32 then [94, b + 64]
  else if b < 127 then [b]
  else if b = 127 then [94, 63]
  else if b < 160 then [77, 45, 94, b - 64]
  else if b < 255 then [77, 45, b - 128]
  else [77, 45, 94, 63]

/-- The number of a line, as it is printed. -/
def lineNumber (n : Nat) : Bytes :=
  let digits := toString n
  Text.toBytes (String.ofList (List.replicate (6 - digits.length) ' ') ++ digits ++ "\t")

/-- Shows bytes, after what has been shown already, the last byte first. -/
def showBytes (s : Showing) : Bytes → Shown → Bytes → Bytes × Shown
  | acc, st, [] => (acc.reverse, st)
  | acc, st, b :: bs =>
    if b = 10 then
      if s.squeeze && st.ends ≥ 2 then showBytes s acc st bs
      else
        let numbered := st.ends ≥ 1 && s.number && !s.numberFull
        let start := if numbered then (lineNumber (st.count + 1)).reverse else []
        let stop := if s.ends then [10, 36] else [10]
        showBytes s (stop ++ start ++ acc)
          ⟨if numbered then st.count + 1 else st.count, st.ends + 1⟩ bs
    else
      let numbered := st.ends ≥ 1 && (s.number || s.numberFull)
      let start := if numbered then (lineNumber (st.count + 1)).reverse else []
      showBytes s ((showByte s b).reverse ++ start ++ acc)
        ⟨if numbered then st.count + 1 else st.count, 0⟩ bs

/-- Whether what is written to a file would be read from it again. -/
def feedsItself (fd : Nat) : Work Bool := do
  match ← System.stream fd, ← System.stream 1 with
  | some (.file l, offset), some (.file m, _) =>
    if l ≠ m then return false
    else match (← System.tree).node? l with
      | some (.file contents _) => return offset < contents.length
      | _ => return false
  | _, _ => return false

/-- Copies a stream as it is shown. The result is what is remembered. -/
def copyStream (s : Showing) (plain : Bool) (fd : Nat) (file : String) : Nat → Shown → Work Shown
  | 0, st => return st
  | rounds + 1, st => do
    match ← System.read fd 131072 none with
    | .ok [] => return st
    | .ok bytes => do
      if plain then
        emit bytes
        copyStream s plain fd file rounds st
      else
        let (shown, st) := showBytes s [] st bytes
        emit shown
        copyStream s plain fd file rounds st
    | .error e => do
      setStatus 1
      warnFile file e
      return st

/-- Copies a stream as it is shown, unless that would never end. -/
def catStream (s : Showing) (plain : Bool) (fd : Nat) (file : String) (st : Shown) :
    Work Shown := do
  if ← feedsItself fd then
    setStatus 1
    warn (named file ++ ": input file is output file")
    return st
  else copyStream s plain fd file manyRounds st

/-- Copies files. -/
def catFiles (s : Showing) (plain : Bool) : Shown → List String → Work Unit
  | _, [] => return ()
  | st, file :: files => do
    if file = "-" then catFiles s plain (← catStream s plain 0 file st) files
    else
      match ← openPath fileStream file .read with
      | .ok () => do
        let st ← catStream s plain fileStream file st
        System.detach fileStream
        catFiles s plain st files
      | .error e => do
        setStatus 1
        warnFile file e
        catFiles s plain st files

/-- Copies files. -/
def cat : Work Unit := do
  let p ← parsed 1
    ⟨"AbeEnstTuv", [("show-all", 'A', .none), ("number-nonblank", 'b', .none),
      ("number", 'n', .none), ("show-ends", 'E', .none), ("squeeze-blank", 's', .none),
      ("show-tabs", 'T', .none), ("show-nonprinting", 'v', .none)], false⟩
  let any := fun (cs : List Char) => cs.any p.has
  let s : Showing :=
    { number := p.has 'n' && !p.has 'b', numberFull := p.has 'b', squeeze := p.has 's',
      ends := any ['A', 'e', 'E'], tabs := any ['A', 't', 'T'],
      others := any ['A', 'e', 't', 'v'] }
  let plain := p.options.all fun o => o.1 = 'u'
  catFiles s plain ⟨0, 1⟩ (orInput p.operands)

/-! ## `head` and `tail` -/

/-- How much of a file is meant. -/
structure Extent where
  bytes : Bool
  count : Nat
  /-- Whether all but so much is meant, or all from there on. -/
  other : Bool

/-- The extent that an argument asks for. A sign in front says that the other part is
meant. -/
def extentOf (bytes : Bool) (otherSign : Char) (arg : String) : Work Extent := do
  let cs := arg.toList
  let digits := match cs with
    | '-' :: rest => rest
    | '+' :: rest => rest
    | rest => rest
  match sizeOf? extentUnits (String.ofList digits) with
  | some n => return ⟨bytes, n, cs.head? = some otherSign⟩
  | none =>
    let what := if bytes then "bytes" else "lines"
    fail 1 ("invalid number of " ++ what ++ ": " ++ quoted (if cs.head? = some '-' && otherSign = '-'
      then String.ofList digits else arg))

/-- The arguments in which a number alone after a dash is an option of its own. -/
def spellCount : List String → List String
  | arg :: args =>
    match arg.toList with
    | '-' :: d :: rest =>
      if d.isDigit then
        let digits := (d :: rest).takeWhile Char.isDigit
        match (d :: rest).drop digits.length with
        | [] => ("-n" ++ String.ofList digits) :: args
        | ['c'] => ("-c" ++ String.ofList digits) :: args
        | ['f'] => ("-n" ++ String.ofList digits) :: "-f" :: args
        | _ => arg :: args
      else arg :: args
    | _ => arg :: args
  | [] => []

/-- What `head` and `tail` are given. -/
def parsedExtent (more : String) : Work Parsed := do
  modify fun s => { s with args := spellCount s.args }
  parsed 1
    ⟨"c:n:qvz" ++ more, [("bytes", 'c', .required), ("lines", 'n', .required),
      ("quiet", 'q', .none), ("silent", 'q', .none), ("verbose", 'v', .none),
      ("follow", 'f', .optional), ("sleep-interval", 's', .required)], false⟩

/-- The extent that options ask for. -/
def extentIn (p : Parsed) (otherSign : Char) : Work Extent := do
  match p.options.filter (fun o => o.1 = 'c' || o.1 = 'n') |>.getLast? with
  | some (c, some arg) => extentOf (c = 'c') otherSign arg
  | _ => return ⟨false, 10, false⟩

/-- The heading of a file. -/
def heading (first : Bool) (file : String) : String :=
  (if first then "" else "\n") ++ "==> " ++ (if file = "-" then "standard input" else file)
    ++ " <==\n"

/-- Goes through files with headings, if there are to be any. -/
def withHeadings (p : Parsed) (f : Nat → String → Work Unit) : Work Unit := do
  let files := orInput p.operands
  let show? := p.has 'v' || (!p.has 'q' && files.length > 1)
  let go : Bool → Nat → String → Work Unit := fun first fd file => do
    if show? then print (heading first file)
    f fd file
  let closed := fun (file : String) (e : FileError) =>
    warn ("cannot open " ++ quoted file ++ " for reading: " ++ reason e)
  forFiles closed (go true) (files.take 1)
  forFiles closed (go false) (files.drop 1)

/-- The bytes up to the end of some line, and how many lines are missing. -/
def takeLines : Nat → Bytes → Bytes → Bytes × Nat × Bytes
  | 0, acc, rest => (acc.reverse, 0, rest)
  | n, acc, [] => (acc.reverse, n, [])
  | n + 1, acc, b :: bs =>
    if b = 10 then takeLines n (b :: acc) bs else takeLines (n + 1) (b :: acc) bs

/-- Copies the first lines of a stream. -/
def headLines (fd : Nat) (failed : FileError → Work Unit) : Nat → Nat → Work Unit
  | 0, _ => return ()
  | _, 0 => return ()
  | rounds + 1, n => do
    match ← System.read fd 8192 none with
    | .ok [] => return ()
    | .ok bytes => do
      let (taken, missing, rest) := takeLines n [] bytes
      emit taken
      if missing = 0 then System.unread fd rest.length
      else headLines fd failed rounds missing
    | .error e => failed e

/-- Copies the first bytes of a stream. -/
def headBytes (fd : Nat) (failed : FileError → Work Unit) : Nat → Nat → Work Unit
  | 0, _ => return ()
  | _, 0 => return ()
  | rounds + 1, n => do
    match ← System.read fd (min n 8192) none with
    | .ok [] => return ()
    | .ok bytes => do
      emit bytes
      headBytes fd failed rounds (n - bytes.length)
    | .error e => failed e

/-- The bytes before the last lines. -/
def dropLastLines (n : Nat) (bytes : Bytes) : Bytes :=
  let (lines, ended) := linesOf bytes
  let kept := lines.take (lines.length - n)
  if n = 0 then bytes
  else if ended || kept.length < lines.length then joinLines kept else bytes

/-- Writes the start of files. -/
def head : Work Unit := do
  let p ← parsedExtent ""
  let x ← extentIn p '-'
  withHeadings p fun fd file => do
    let failed := fun (e : FileError) => do
      setStatus 1
      warn ("error reading " ++ quoted file ++ ": " ++ reason e)
    if x.other then
      let bytes ← contentsOf fd failed
      emit (if x.bytes then bytes.take (bytes.length - x.count) else dropLastLines x.count bytes)
    else if x.bytes then headBytes fd failed manyRounds x.count
    else headLines fd failed manyRounds x.count

/-- The last lines of bytes. -/
def lastLines (n : Nat) (bytes : Bytes) : Bytes :=
  let (lines, ended) := linesOf bytes
  let kept := lines.drop (lines.length - n)
  if ended then joinLines kept else (joinLines kept).dropLast

/-- The bytes from a line on. -/
def linesFrom : Nat → Bytes → Bytes
  | 0, bytes => bytes
  | _, [] => []
  | n + 1, bytes =>
    match bytes.dropWhile (· ≠ 10) with
    | [] => []
    | _ :: rest => linesFrom n rest

/-- Writes the end of files. -/
def tail : Work Unit := do
  modify fun s =>
    { s with args := match s.args with
      | arg :: args => match arg.toList with
        | '+' :: d :: rest => if (d :: rest).all Char.isDigit then ("-n" ++ arg) :: args else arg :: args
        | _ => arg :: args
      | [] => [] }
  let p ← parsedExtent "fFs:"
  let x ← extentIn p '+'
  withHeadings p fun fd file => do
    let failed := fun (e : FileError) => do
      setStatus 1
      warn ("error reading " ++ quoted file ++ ": " ++ reason e)
    let bytes ← contentsOf fd failed
    emit <| match x.bytes, x.other with
      | true, true => bytes.drop (x.count - 1)
      | true, false => bytes.drop (bytes.length - x.count)
      | false, true => linesFrom (x.count - 1) bytes
      | false, false => lastLines x.count bytes
  if (p.has 'f' || p.has 'F') && (!p.operands.isEmpty) && (← get).status = 0 then Shell.stall

/-! ## `tee`, `tac` and `yes` -/

/-- Opens files to write to, and gives the numbers of those that were opened. -/
def openAll (o : Opening) : Nat → List String → Work (List (Nat × String))
  | _, [] => return []
  | fd, file :: files => do
    match ← openPath fd file o with
    | .ok () => return (fd, file) :: (← openAll o (fd + 1) files)
    | .error e => do
      setStatus 1
      warnFile file e
      openAll o fd files

/-- Copies what can be read to files as well. -/
def tee : Work Unit := do
  let p ← parsed 1
    ⟨"aip", [("append", 'a', .none), ("ignore-interrupts", 'i', .none),
      ("output-error", 'p', .optional)], false⟩
  let outputs ← openAll (if p.has 'a' then .append else .write) fileStream p.operands
  let copy := fun (bytes : Bytes) => do
    match ← System.write 1 bytes with
    | .ok () => pure ()
    | .error e => do
      if (← get).status = 0 then warn ("'standard output': " ++ reason e)
      setStatus 1
    for (fd, file) in outputs do
      match ← System.write fd bytes with
      | .ok () => pure ()
      | .error e => do
        setStatus 1
        warnFile file e
  let _ ← forBlocks 0 copy manyRounds

/-- The lines of bytes, the last one first. Each has the end that it had. -/
def reversedLines (bytes : Bytes) : Bytes :=
  let (lines, ended) := linesOf bytes
  let pieces := lines.dropLast.map (· ++ [10]) ++ (lines.getLast?.toList.map fun l =>
    if ended then l ++ [10] else l)
  pieces.reverse.flatten

/-- Writes the lines of files, the last one first. -/
def tac : Work Unit := do
  let p ← parsed 1 ⟨"brs:", [], false⟩
  let closed := fun (file : String) (e : FileError) =>
    warn ("failed to open " ++ quoted file ++ " for reading: " ++ reason e)
  forFiles closed (fun fd file => do
    let bytes ← contentsOf fd fun e => warn (named file ++ ": read error: " ++ reason e)
    emit (reversedLines bytes)) (orInput p.operands)

/-- Writes bytes over and over. -/
def pour (bytes : Bytes) : Nat → Work Unit
  | 0 => return ()
  | rounds + 1 => do
    match ← System.write 1 bytes with
    | .ok () => pour bytes rounds
    | .error e => fail 1 ("standard output: " ++ reason e)

/-- Writes a line over and over. -/
def yes : Work Unit := do
  let p ← parsed 1 ⟨"", [], false⟩
  let line := Text.unraw ((if p.operands.isEmpty then "y" else String.intercalate " " p.operands) ++ "\n")
  let copies := max 1 (8192 / line.length)
  pour (List.replicate copies line).flatten manyRounds

/-! ## `dd` -/

/-- The value of an operand of `dd`. -/
def operand? (operands : List (String × String)) (name : String) : Option String :=
  (operands.filter fun o => o.1 = name).getLast?.map (·.2)

/-- A number of which several factors are given. -/
def productOf? (s : String) : Option Nat :=
  let units := ["b", "c", "w", "k", "K", "kB", "KB", "KiB", "M", "MB", "MiB", "G", "GB", "GiB"]
  (s.toList.splitOn 'x').foldl (fun n part => n.bind fun a =>
    (sizeOf? units (String.ofList part)).map (a * ·)) (some 1)

/-- Copies blocks; the result counts those that were read whole and in part, and their
bytes. -/
def copyBlocks (size : Nat) (change : Bytes → Bytes) : Nat → Nat → Nat × Nat × Nat →
    Work (Nat × Nat × Nat)
  | 0, _, counts => return counts
  | _, 0, counts => return counts
  | rounds + 1, left + 1, (whole, part, total) => do
    match ← System.read 0 size none with
    | .ok [] => return (whole, part, total)
    | .ok bytes => do
      match ← System.write 1 (change bytes) with
      | .ok () => pure ()
      | .error e => fail 1 ("error writing 'standard output': " ++ reason e)
      let isWhole := bytes.length ≥ size
      copyBlocks size change rounds left
        (if isWhole then whole + 1 else whole, if isWhole then part else part + 1,
          total + bytes.length)
    | .error e => fail 1 ("error reading 'standard input': " ++ reason e)

/-- Copies blocks of bytes. -/
def dd : Work Unit := do
  let operands := (← get).args.map fun arg =>
    let name := arg.toList.takeWhile (· ≠ '=')
    (String.ofList name, String.ofList (arg.toList.drop (name.length + 1)))
  let names := ["if", "of", "bs", "ibs", "obs", "cbs", "count", "skip", "seek", "conv", "status",
    "iflag", "oflag"]
  for arg in (← get).args do
    let name := String.ofList (arg.toList.takeWhile (· ≠ '='))
    if !(arg.toList.contains '=' && names.contains name) then
      misuse 1 ("unrecognized operand " ++ quoted arg)
  let number := fun (name : String) (usual : Nat) => (show Work Nat from do
    match operand? operands name with
    | none => return usual
    | some text =>
      match productOf? text with
      | some n => return n
      | none => fail 1 ("invalid number: " ++ quoted text))
  let size ← number "bs" (← number "ibs" 512)
  let count ← number "count" manyRounds
  let skip ← number "skip" 0
  let flags := (((operand? operands "conv").getD "").toList.splitOn ',').map String.ofList
  match operand? operands "if" with
  | some file =>
    match ← openPath 0 file .read with
    | .ok () => pure ()
    | .error e => fail 1 ("failed to open " ++ quoted file ++ ": " ++ reason e)
  | none => pure ()
  match operand? operands "of" with
  | some file =>
    let opening : Opening := if flags.contains "notrunc" then ⟨.writing, true, false, false⟩ else .write
    match ← openPath 1 file opening with
    | .ok () => pure ()
    | .error e => fail 1 ("failed to open " ++ quoted file ++ ": " ++ reason e)
  | none => pure ()
  for _ in List.range skip do
    let _ ← System.read 0 size none
  let upper := fun (b : UInt8) => if 97 ≤ b && b ≤ 122 then b - 32 else b
  let lower := fun (b : UInt8) => if 65 ≤ b && b ≤ 90 then b + 32 else b
  let change := if flags.contains "ucase" then List.map upper
    else if flags.contains "lcase" then List.map lower else id
  let (whole, part, total) ← copyBlocks size change manyRounds count (0, 0, 0)
  let status := (operand? operands "status").getD ""
  if status ≠ "none" then
    let records := toString whole ++ "+" ++ toString part ++ " records "
    complain (records ++ "in\n" ++ records ++ "out\n")
    if status ≠ "noxfer" then
      complain (toString total ++ " bytes copied, 0.0001 s, 1.0 MB/s\n")

/-! ## `wc` -/

/-- What is counted in a file. -/
structure Counts where
  lines : Nat
  words : Nat
  bytes : Nat
  longest : Nat

/-- Counts what is in bytes. -/
def countIn (bytes : Bytes) : Counts :=
  let step := fun (acc : Counts × Bool × Nat) (b : UInt8) =>
    let (c, inWord, width) := acc
    let isSpace := b = 32 || (9 ≤ b && b ≤ 13)
    let width' := if b = 10 || b = 13 || b = 12 then 0
      else if b = 9 then width + 8 - width % 8
      else if 32 ≤ b && b < 127 then width + 1 else width
    (⟨if b = 10 then c.lines + 1 else c.lines,
      if !isSpace && !inWord then c.words + 1 else c.words, c.bytes + 1, max c.longest width'⟩,
      !isSpace, width')
  (bytes.foldl step (⟨0, 0, 0, 0⟩, false, 0)).1

/-- The size of a file that is no device, of which the size is known beforehand. -/
def knownSize (s : Session) (t : FileTree) (file : String) : Option Nat :=
  match t.stat s.cwd (Shell.pathOf file) with
  | .ok (.file contents _) => some contents.length
  | _ => none

/-- Counts lines, words and bytes. -/
def wc : Work Unit := do
  let p ← parsed 1
    ⟨"clLmw", [("bytes", 'c', .none), ("chars", 'm', .none), ("lines", 'l', .none),
      ("words", 'w', .none), ("max-line-length", 'L', .none)], false⟩
  let asked := ['l', 'w', 'm', 'c', 'L'].filter p.has
  let asked := if asked.isEmpty then ['l', 'w', 'c'] else asked
  let files := orInput p.operands
  let s ← get
  let t ← System.tree
  let there := files.filter fun f => f = "-" || t.pathExists s.cwd (Shell.pathOf f)
  let sizes := there.map (knownSize s t)
  let total := (sizes.map (·.getD 0)).foldl Nat.add 0
  let width := if files.length = 1 && asked.length = 1 then 1
    else max (toString total).length (if sizes.any Option.isNone then 7 else 1)
  let line := fun (c : Counts) (name : Option String) =>
    let texts := asked.map fun k =>
      let digits := toString <| match k with
        | 'l' => c.lines
        | 'w' => c.words
        | 'L' => c.longest
        | _ => c.bytes
      String.ofList (List.replicate (width - digits.length) ' ') ++ digits
    String.intercalate " " texts ++ (match name with
      | some n => " " ++ named n
      | none => "") ++ "\n"
  let rec go : List String → Counts → Work Counts
    | [], sum => return sum
    | file :: files, sum => do
      let tell := fun (e : FileError) => do
        setStatus 1
        warnFile file e
      let opened ← if file = "-" then pure (some 0)
        else match ← openPath fileStream file .read with
          | .ok () => pure (some fileStream)
          | .error e => do
            tell e
            pure none
      match opened with
      | none => go files sum
      | some fd => do
        let c := countIn (← contentsOf fd tell)
        if fd ≠ 0 then System.detach fd
        print (line c (if p.operands.isEmpty then none else some file))
        go files
          ⟨sum.lines + c.lines, sum.words + c.words, sum.bytes + c.bytes, max sum.longest c.longest⟩
  let sum ← go files ⟨0, 0, 0, 0⟩
  if files.length > 1 then print (line sum (some "total"))

end CrateGraph.Tool
