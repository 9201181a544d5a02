import CrateGraph.Tool.Running

/-!
# Commands for what is read

`xargs` reads items and runs a command with them, as many at a time as fit, or as many as
are asked for. A command is run as soon as its items have been read, so something that
goes on writing items without end is read only as long as the commands go well.
-/

namespace CrateGraph.Tool

open Shell (Work Session Perform complain setStatus openPath fork searchDirs becomeNamed
  isAbsent manyRounds)

/-! ## Items -/

/-- The items of a line. -/
structure ItemLine where
  items : List String
  /-- The quote that was not closed. -/
  unclosed : Option Char
  /-- Whether the line goes on after its end. -/
  goesOn : Bool
deriving DecidableEq, Repr

/-- The items of a line, after a part of one and others, the last ones first. If `whole`,
blanks do not separate items, and those in front do not matter. -/
def readItems (whole : Bool) : Nat → List Char → List Char → Bool → List String → ItemLine
  | 0, _, _, _, found => ⟨found.reverse, none, false⟩
  | steps + 1, cs, word, inWord, found =>
    let done := if inWord then String.ofList word.reverse :: found else found
    let quote := fun (q : Char) (rest : List Char) =>
      let text := rest.takeWhile (· ≠ q)
      match rest.drop text.length with
      | [] => (⟨found.reverse, some q, false⟩ : ItemLine)
      | _ :: rest => readItems whole steps rest (text.reverse ++ word) true found
    match cs with
    | [] => ⟨done.reverse, none, false⟩
    | ['\\'] => ⟨done.reverse, none, true⟩
    | '\\' :: c :: rest => readItems whole steps rest (c :: word) true found
    | c :: rest =>
      if c = '\'' || c = '"' then quote c rest
      else if !(c = ' ' || c = '\t' || c = '\n') || (whole && inWord) then
        readItems whole steps rest (c :: word) true found
      else readItems whole steps rest [] false done

/-- The items of a line. -/
def itemsOfLine (whole : Bool) (cs : List Char) : ItemLine :=
  readItems whole (cs.length + 1) cs [] false []

/-- A text in which all parts that are the same as another one are replaced. -/
def replaceAll (part value : List Char) : Nat → List Char → List Char
  | 0, cs => cs
  | _, [] => []
  | steps + 1, c :: cs =>
    if !part.isEmpty && part.isPrefixOf (c :: cs) then
      value ++ replaceAll part value steps ((c :: cs).drop part.length)
    else c :: replaceAll part value steps cs

/-! ## Commands -/

/-- How many items a command gets. -/
inductive Batch where
  /-- As many as fit. -/
  | fitting
  | items (n : Nat)
  | lines (n : Nat)
  /-- One, which replaces a mark. -/
  | replacing (mark : String)
deriving DecidableEq, Repr

/-- What is run for items. -/
structure Gatherer where
  command : List String
  batch : Batch
  /-- The number of bytes that a command may have. -/
  longest : Nat
  /-- Whether commands are shown. -/
  traced : Bool
  /-- The item after which no others count. -/
  final : Option String

/-- The items that wait for their command. -/
structure Gathered where
  /-- The items, the last one first. -/
  items : List String
  /-- The number of items, and of their bytes. -/
  count : Nat
  size : Nat
  lines : Nat
  /-- Whether a command has been run. -/
  any : Bool
  /-- The start of a line that goes on. -/
  start : List Char
  /-- Whether no other items count. -/
  ended : Bool

/-- The number of bytes of some arguments. -/
def sizeOfArgs (args : List String) : Nat := args.foldl (fun n a => n + a.utf8ByteSize + 1) 0

/-- Runs a command, and ends if it does not go well. -/
def runOnce (self : Perform) (traced : Bool) (args : List String) : Work Unit := do
  if traced then complain (String.intercalate " " args ++ "\n")
  let name := args.head?.getD ""
  let _ ← fork do
    System.attach 0 (.device .null) .reading
    let dirs := (searchDirs (← get)).getD "/bin:/usr/bin"
    let e ← becomeNamed self (some dirs) args
    fail (if isAbsent e then 127 else 126) (name ++ ": " ++ reason e)
  match ← System.wait false with
  | .ended _ (.exited 0) => return ()
  | .ended _ (.exited 255) => do
    warn (name ++ ": exited with status 255; aborting")
    quit 124
  | .ended _ (.exited n) => if n = 126 || n = 127 then quit n else setStatus 123
  | .ended _ (.signaled n) => do
    warn (name ++ ": terminated by signal " ++ toString n)
    quit 125
  | _ => return ()

namespace Gatherer

/-- Runs the command for the items that wait. -/
def flush (self : Perform) (g : Gatherer) (h : Gathered) : Work Gathered := do
  runOnce self g.traced (g.command ++ h.items.reverse)
  return { h with items := [], count := 0, size := 0, lines := 0, any := true }

/-- Adds an item, for which there may have to be a new command. -/
def add (self : Perform) (g : Gatherer) (h : Gathered) (item : String) : Work Gathered := do
  match g.batch with
  | .replacing mark => do
    let put := fun (arg : String) =>
      String.ofList (replaceAll mark.toList item.toList (arg.length + 1) arg.toList)
    runOnce self g.traced (g.command.map put)
    return { h with any := true }
  | _ => do
    let own := sizeOfArgs g.command
    let size := item.utf8ByteSize + 1
    let h ← if own + h.size + size > g.longest && h.count > 0 then g.flush self h else pure h
    if own + size > g.longest then fail 1 "argument line too long"
    let h := { h with items := item :: h.items, count := h.count + 1, size := h.size + size }
    match g.batch with
    | .items n => if h.count ≥ n then g.flush self h else pure h
    | _ => pure h

/-- Adds items up to the last one that counts. -/
def addAll (self : Perform) (g : Gatherer) : Gathered → List String → Work Gathered
  | h, [] => return h
  | h, item :: rest => do
    if h.ended then return h
    else if g.final = some item then return { h with ended := true }
    else addAll self g (← g.add self h item) rest

/-- Runs the command for the items that wait, if there are any or there never were. -/
def finish (self : Perform) (g : Gatherer) (always : Bool) (h : Gathered) : Work Unit := do
  let isReplacing := match g.batch with
    | .replacing _ => true
    | _ => false
  if !h.items.isEmpty || (always && !h.any && !isReplacing) then
    let _ ← g.flush self h

/-- Adds the items of a line. -/
def addLine (self : Perform) (g : Gatherer) (h : Gathered) (line : List Char) (last : Bool) :
    Work Gathered := do
  let text := h.start ++ line
  let whole := match g.batch with
    | .replacing _ => true
    | _ => false
  let l := itemsOfLine whole text
  if l.goesOn && !last then return { h with start := text ++ ['\n'] }
  let h ← g.addAll self { h with start := [] } l.items
  match l.unclosed with
  | some q => do
    let name := if q = '"' then "double" else "single"
    warn ("unmatched " ++ name
      ++ " quote; by default quotes are special to xargs unless you use the -0 option")
    g.finish self false h
    quit 1
  | none =>
    match g.batch with
    | .lines n =>
      let isBlank := match text.getLast? with
        | some c => c = ' ' || c = '\t'
        | none => true
      if isBlank && (l.items.isEmpty || !last) then return h
      else if h.lines + 1 ≥ n && !h.items.isEmpty then g.flush self h
      else return { h with lines := h.lines + 1 }
    | _ => return h

/-- Adds the items of lines. -/
def addLines (self : Perform) (g : Gatherer) : Gathered → List Bytes → Bool → Work Gathered
  | h, [], _ => return h
  | h, line :: rest, ended => do
    if h.ended then return h
    else
      let h ← g.addLine self h (Text.raw line).toList (rest.isEmpty && !ended)
      addLines self g h rest ended

end Gatherer

/-! ## The program -/

/-- The number that an option of `xargs` is given. -/
def atLeast (least : Nat) (c : Char) (text : String) : Work Nat := do
  match Shell.intOf? false text with
  | none => misuse 1 ("invalid number \"" ++ text ++ "\" for -" ++ c.toString ++ " option")
  | some n =>
    if n < (least : Int) then
      misuse 1 ("value " ++ toString n ++ " for -" ++ c.toString ++ " option should be >= "
        ++ toString least)
    else return n.toNat

/-- How the last of some options says that items are to be gathered. One that is given
before is forgotten, and that is told. -/
def batchOf : Batch → List (Char × Option String) → Work Batch
  | b, [] => return b
  | b, (c, value) :: rest => do
    let forget := fun (old new : String) =>
      warn ("warning: options " ++ old ++ " and " ++ new
        ++ " are mutually exclusive, ignoring previous " ++ old ++ " value")
    match c with
    | 'n' => do
      let n ← atLeast 1 'n' (value.getD "")
      match b with
      | .replacing _ =>
        if n = 1 then batchOf b rest
        else
          forget "--replace" "--max-args/-n"
          batchOf (.items n) rest
      | .lines _ => do
        forget "--max-lines" "--max-args/-n"
        batchOf (.items n) rest
      | _ => batchOf (.items n) rest
    | 'L' | 'l' => do
      let n ← match value with
        | some text => atLeast 1 c text
        | none => pure 1
      match b with
      | .replacing _ => forget "--replace" (if c = 'L' then "-L" else "--max-lines/-l")
      | .items _ => forget "--max-args" (if c = 'L' then "-L" else "--max-lines/-l")
      | _ => pure ()
      batchOf (.lines n) rest
    | 'I' | 'i' => do
      match b with
      | .lines _ => forget "--max-lines" "--replace/-I/-i"
      | .items _ => forget "--max-args" "--replace/-I/-i"
      | _ => pure ()
      batchOf (.replacing (value.getD "\x7b\x7d")) rest
    | _ => batchOf b rest

/-- Runs a command with arguments that are read. -/
def xargs (self : Perform) : Work Unit := do
  let p ← parsed 1
    ⟨"0a:E:e::i::I:l::L:n:prs:txP:d:",
      [("null", '0', .none), ("max-args", 'n', .required), ("no-run-if-empty", 'r', .none),
        ("replace", 'i', .optional), ("verbose", 't', .none), ("delimiter", 'd', .required),
        ("max-lines", 'l', .optional), ("max-procs", 'P', .required), ("exit", 'x', .none),
        ("arg-file", 'a', .required), ("eof", 'e', .optional), ("max-chars", 's', .required),
        ("interactive", 'p', .none)], true⟩
  let batch ← batchOf .fitting p.options
  let longest ← match p.value? 's' with
    | some text => atLeast 1 's' text
    | none => pure 131072
  match p.value? 'P' with
  | some text => let _ ← atLeast 0 'P' text
  | none => pure ()
  let fd ← match p.value? 'a' with
    | none => pure 0
    | some file =>
      if file = "-" then pure 0
      else match ← openPath fileStream file .read with
        | .ok () => pure fileStream
        | .error e => fail 1 ("Cannot open input file " ++ quoted file ++ ": " ++ reason e)
  let separator : Option UInt8 :=
    match (p.options.filter fun o => o.1 = '0' || o.1 = 'd').getLast? with
    | some ('d', some "\\n") => some 10
    | some ('d', some "\\0") => some 0
    | some ('d', some "\\t") => some 9
    | some ('d', text) => some ((Text.unraw (text.getD "")).head?.getD 0)
    | some _ => some 0
    | none => none
  let g : Gatherer :=
    { command := if p.operands.isEmpty then ["echo"] else p.operands
      batch := batch
      longest := longest
      traced := p.has 't'
      final := if separator.isSome then none
        else (p.options.filter fun o => o.1 = 'E' || o.1 = 'e').getLast?.bind (·.2) }
  let start : Gathered := ⟨[], 0, 0, 0, false, [], false⟩
  let h ← match separator with
    | some b => do
      let bytes ← contentsOf fd fun e => warn ("read error: " ++ reason e)
      let pieces := bytes.splitOn b
      let pieces := if pieces.getLast? = some [] then pieces.dropLast else pieces
      g.addAll self start (pieces.map Text.raw)
    | none => do
      match ← foldLines fd (g.addLines self) manyRounds [] start with
      | .ok h => pure h
      | .error e => fail 1 ("read error: " ++ reason e)
  g.finish self (!p.has 'r') h

end CrateGraph.Tool
