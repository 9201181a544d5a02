import CrateGraph.Text.Regex
import CrateGraph.Tool.Lines

/-!
# Searching

`grep`, which writes the lines of files that have a part which is like one of some
patterns.
-/

namespace CrateGraph.Tool

open Shell (Work Session Opening complain setStatus openPath)
open Text (Regex)

/-- What lines are searched for. -/
structure Search where
  dialect : Regex.Dialect
  patterns : List Regex
  /-- Whether the part must be a whole word, or the whole line. -/
  wholeWord : Bool
  wholeLine : Bool

namespace Search

/-- A part of a line from some place on that is like a pattern and is as it must be. The
first argument bounds the places that are tried. -/
def findOne (s : Search) (r : Regex) (line : Array Char) : Nat → Nat → Option Regex.Match
  | 0, _ => none
  | tries + 1, i =>
    match Regex.find? s.dialect r line i with
    | none => none
    | some m =>
      if s.wholeLine then
        if i = 0 then
          (Regex.run s.dialect line Regex.manySteps [.part .start, .part r, .part .stop] 0 []).map
            fun e => ⟨0, e.1, e.2⟩
        else none
      else if s.wholeWord then
        let fine := !(m.start > 0 && Regex.wordAt line (m.start - 1)) && !Regex.wordAt line m.stop
        if fine then some m else findOne s r line tries (m.start + 1)
      else some m

/-- The first part of a line from some place on that is searched for. -/
def find? (s : Search) (line : Array Char) (i : Nat) : Option Regex.Match :=
  (s.patterns.filterMap fun r => s.findOne r line (line.size + 2) i).foldl (fun best m =>
    match best with
    | none => some m
    | some b => if m.start < b.start || (m.start = b.start && m.stop > b.stop) then some m else best)
    none

/-- The parts of a line that are searched for. -/
def findAll (s : Search) (line : Array Char) : Nat → Nat → List Regex.Match
  | 0, _ => []
  | tries + 1, i =>
    match s.find? line i with
    | none => []
    | some m => m :: findAll s line tries (if m.stop > m.start then m.stop else m.stop + 1)

end Search

/-- A pattern in which no character has a meaning. -/
def plainPattern (d : Regex.Dialect) (text : String) : Regex :=
  .all (text.toList.map fun c => .char (Regex.testFor d c))

/-- A line that is found or stands near one: its number, whether it was found, and the
line. -/
structure Found where
  number : Nat
  hit : Bool
  line : Bytes

/-- The lines that are shown: those that were found, and those before and after them. -/
def withContext (before after : Nat) (lines : List (Bytes × Bool)) : List Found :=
  let hits := lines.map (·.2)
  let near := fun (i : Nat) =>
    ((hits.drop (i - after)).take (min i after)).any id || ((hits.drop i).take (before + 1)).any id
  lines.zipIdx.filterMap fun (l, i) =>
    if l.2 || (before + after > 0 && near i) then some ⟨i + 1, l.2, l.1⟩ else none

/-- The files below a directory, in the order of their names. -/
def filesBelow (t : FileTree) : Nat → String → Location → List String
  | 0, _, _ => []
  | deep + 1, path, l =>
    (((t.namesIn l).map Text.raw).mergeSort fun a b => decide (a ≤ b)).flatMap fun n =>
      let here := l ++ [Text.unraw n]
      let name := if path = "" then n
        else path ++ (if path.toList.getLast? = some '/' then "" else "/") ++ n
      match t.node? here with
      | some .dir => filesBelow t deep name here
      | some (.file _ _) => [name]
      | _ => []

/-- What is known of a file of which a part has been searched. -/
structure Seen where
  lines : Nat
  hits : Nat
  /-- Whether the rest does not matter. -/
  ended : Bool
  binary : Bool
  /-- Whether it has been said that something was found in it. -/
  told : Bool

/-- The lines up to the one after which enough have been found, if there is a limit, and how
many have been found then. -/
def takeHits (most : Option Nat) : Nat → List (Bytes × Bool) → List (Bytes × Bool) × Nat
  | hits, [] => ([], hits)
  | hits, l :: ls =>
    if most.any (hits ≥ ·) then ([], hits)
    else
      let (taken, hits) := takeHits most (if l.2 then hits + 1 else hits) ls
      (l :: taken, hits)

/-- Searches the lines of a stream, as many at a time as there are, until the rest does not
matter. -/
def searchStream (fd : Nat) (f : Seen → List Bytes → Bool → Work Seen) :
    Nat → Bytes → Seen → Work (Except FileError Seen)
  | 0, _, seen => return .ok seen
  | rounds + 1, carry, seen => do
    if seen.ended then return .ok seen
    else match ← System.read fd 32768 none with
      | .error e => return .error e
      | .ok [] => if carry.isEmpty then return .ok seen else return .ok (← f seen [carry] false)
      | .ok bytes =>
        let (lines, ended) := linesOf (carry ++ bytes)
        let whole := if ended then lines else lines.dropLast
        System.labor (8 * whole.length)
        let seen ← if whole.isEmpty then pure seen else f seen whole true
        if (lines.getLast?.getD []).length > Shell.mostRead then Shell.stall
        searchStream fd f rounds (if ended then [] else lines.getLast?.getD []) seen

/-- Searches files. -/
def grep (usual : Char) : Work Unit := do
  let args := (← get).args.flatMap fun a => match a.toList with
    | '-' :: d :: rest =>
      if (d :: rest).all Char.isDigit then ["-C" ++ String.ofList (d :: rest)] else [a]
    | _ => [a]
  modify fun s => { s with args := args }
  let usage := fun (_ : Unit) => do
    complain "Usage: grep [OPTION]... PATTERNS [FILE]...\nTry 'grep --help' for more information.\n"
    (quit 2 : Work Unit)
  let o : Options :=
    ⟨"EFGPe:f:iyvwxcLlqsm:onHhbaIrRA:B:C:zUT",
      [("extended-regexp", 'E', .none), ("fixed-strings", 'F', .none), ("basic-regexp", 'G', .none),
        ("regexp", 'e', .required), ("file", 'f', .required), ("ignore-case", 'i', .none),
        ("invert-match", 'v', .none), ("word-regexp", 'w', .none), ("line-regexp", 'x', .none),
        ("count", 'c', .none), ("files-without-match", 'L', .none),
        ("files-with-matches", 'l', .none), ("quiet", 'q', .none), ("silent", 'q', .none),
        ("no-messages", 's', .none), ("max-count", 'm', .required), ("only-matching", 'o', .none),
        ("line-number", 'n', .none), ("with-filename", 'H', .none), ("no-filename", 'h', .none),
        ("text", 'a', .none), ("recursive", 'r', .none), ("after-context", 'A', .required),
        ("before-context", 'B', .required), ("context", 'C', .required), ("color", 'k', .optional),
        ("null-data", 'z', .none)], false⟩
  let p ← match o.read args with
    | .ok (options, operands) => pure (⟨options, operands⟩ : Parsed)
    | .error message => do
      warn message
      usage ()
      quit 2
  let given := p.values 'e'
  let fromFiles ← (p.values 'f').mapM fun file => do
    match ← openPath fileStream file .read with
    | .ok () => do
      let bytes ← contentsOf fileStream fun _ => pure ()
      System.detach fileStream
      return (linesOf bytes).1.map Text.raw
    | .error e => fail 2 (named file ++ ": " ++ reason e)
  let (texts, files) := if p.has 'e' || p.has 'f' then (given ++ fromFiles.flatten, p.operands)
    else (p.operands.take 1, p.operands.drop 1)
  if !p.has 'e' && !p.has 'f' && p.operands.isEmpty then usage ()
  let texts := texts.flatMap fun text => (text.toList.splitOn '\n').map String.ofList
  let kind := (p.last? ['E', 'F', 'G', 'P']).getD usual
  let dialect : Regex.Dialect := ⟨kind = 'E' || kind = 'P', p.has 'i' || p.has 'y'⟩
  let patterns ← texts.mapM fun text => do
    if kind = 'F' then return plainPattern dialect text
    else match Regex.read dialect text with
      | .ok (r, _) => return r
      | .error e => fail 2 e.message
  let search : Search := ⟨dialect, patterns, p.has 'w', p.has 'x'⟩
  let s ← get
  let t ← System.tree
  let recursive := p.has 'r' || p.has 'R'
  let files := if recursive then
      if files.isEmpty then filesBelow t 1000 "" s.cwd
      else files.flatMap fun f => match t.locate s.cwd (Shell.pathOf f) with
        | .ok l => if t.isDirAt l then filesBelow t 1000 f l else [f]
        | .error _ => [f]
    else orInput files
  let headed := !p.has 'h' && (p.has 'H' || files.length > 1 || (recursive && !p.operands.isEmpty))
  let size := fun (c : Char) =>
    (((p.value? c).bind Shell.countOf?).orElse fun _ => (p.value? 'C').bind Shell.countOf?).getD 0
  let most := (p.value? 'm').bind Shell.countOf?
  let gaps := size 'A' + size 'B' > 0
  let rec go : List String → Bool → Bool → Work (Bool × Bool)
    | [], any, bad => return (any, bad)
    | file :: rest, any, bad => do
      let tell := fun (e : FileError) => if p.has 's' then pure () else warn (file ++ ": " ++ reason e)
      let name := if file = "-" then "(standard input)" else file
      let opened ← if file = "-" then pure (.ok ()) else openPath fileStream file .read
      match opened with
      | .error e => do
        tell e
        go rest any true
      | .ok () => do
        let fd := if file = "-" then 0 else fileStream
        let start := fun (mark : String) (number : Nat) =>
          (if headed then name ++ mark else "") ++ if p.has 'n' then toString number ++ mark else ""
        let silent := p.has 'q' || p.has 'l' || p.has 'L' || p.has 'c'
        let parts := fun (f : Found) =>
          if p.has 'o' then
            if p.has 'v' then []
            else
              let cs := (Text.raw f.line).toList.toArray
              (search.findAll cs (cs.size + 2) 0).filterMap fun m =>
                if m.stop > m.start then
                  some (Text.unraw (start ":" f.number
                    ++ String.ofList (cs.extract m.start m.stop).toList ++ "\n"))
                else none
          else [Text.unraw (start (if f.hit then ":" else "-") f.number) ++ f.line ++ [10]]
        let showAll := fun (found : List Found) (last : Option Nat) =>
          (found.foldl (fun (acc : List Bytes × Option Nat) f =>
            let gap := match acc.2 with
              | some n => if gaps && f.number > n + 1 then [Text.toBytes "--\n"] else []
              | none => []
            ((parts f).reverse ++ gap ++ acc.1, some f.number)) ([], last)).1.reverse.flatten
        let block := fun (seen : Seen) (lines : List Bytes) (_ : Bool) => do
          if seen.ended then return seen
          else
            let tested := lines.map fun l =>
              (l, (search.find? (Text.raw l).toList.toArray 0).isSome != p.has 'v')
            let (taken, hits) := takeHits most seen.hits tested
            let ended := most.any (hits ≥ ·) || ((p.has 'q' || p.has 'l') && hits > 0)
            let binary := seen.binary || (lines.any (·.contains 0) && !p.has 'a' && !p.has 'z')
            let found := (withContext (size 'B') (size 'A') taken).map fun f =>
              { f with number := f.number + seen.lines }
            if !silent && !found.isEmpty then
              if binary then
                if !seen.told then print ((← get).name ++ ": " ++ name ++ ": binary file matches\n")
              else emit (showAll found none)
            if p.has 'q' && hits > 0 then quit 0
            return ⟨seen.lines + lines.length, hits, ended, binary, seen.told || (binary && hits > 0)⟩
        let first : Seen := ⟨0, 0, most = some 0, false, false⟩
        let result ← if gaps || p.has 'z' then do
            match ← Shell.readAll fd with
            | .error e => pure (.error e)
            | .ok bytes => do
              let pieces := bytes.splitOn (if p.has 'z' then 0 else 10)
              let lines := if pieces.getLast? = some [] then pieces.dropLast else pieces
              pure (.ok (← block first lines true))
          else searchStream fd block Shell.manyRounds [] first
        if file ≠ "-" then System.detach fileStream
        match result with
        | .error e => do
          tell e
          go rest any true
        | .ok seen => do
          if p.has 'l' then
            if seen.hits > 0 then print (name ++ "\n")
          else if p.has 'L' then
            if seen.hits = 0 then print (name ++ "\n")
          else if p.has 'c' then
            print ((if headed then name ++ ":" else "") ++ toString seen.hits ++ "\n")
          go rest (any || seen.hits > 0) bad
  let (any, bad) ← go files false false
  setStatus (if bad && !(p.has 'q' && any) then 2 else if any != p.has 'L' then 0 else 1)

end CrateGraph.Tool
