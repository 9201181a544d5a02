import CrateGraph.Shell.Builtin.Variables

/-!
# Commands about places

The commands of the shell about the directory that it works in, and about what it leaves to
the programs that it starts. Each is given its arguments, and its result is its status.
-/

namespace CrateGraph.Shell

/-! ## The working directory -/

/-- The names of a path with those of another one after them, the last one first. Two points
drop the name before. -/
def walkNames (before : List (List Char)) : List (List Char) → List (List Char)
  | [] => before
  | name :: names =>
    if name.isEmpty || name = ['.'] then walkNames before names
    else if name = ['.', '.'] then walkNames before.tail names
    else walkNames (name :: before) names

/-- The path that another path leads to from a working directory, by their names alone. A
path may begin with two slashes. -/
def logicalPath (cwd path : String) : String :=
  let segments := fun (s : String) => s.toList.splitOn '/'
  let isDouble := fun (s : String) => match s.toList with
    | '/' :: '/' :: '/' :: _ => false
    | '/' :: '/' :: _ => true
    | _ => false
  let absolute := path.toList.head? = some '/'
  let before := if absolute then [] else walkNames [] (segments cwd)
  let names := walkNames before (segments path)
  let start := if isDouble (if absolute then path else cwd) then "//" else "/"
  start ++ String.intercalate "/" (names.reverse.map String.ofList)

/-- Enters a directory. By its names, the way there decides what the directory is called;
otherwise links do not matter. -/
def enter (byNames : Bool) (path : String) : Work Bool := do
  let s ← get
  let t ← System.tree
  let target := if byNames then logicalPath s.cwdText path else path
  match t.locate s.cwd (pathOf target) with
  | .error _ => return false
  | .ok l =>
    if !t.isDirAt l then return false
    else
      let text := if byNames then target else Text.raw (FileTree.pathOf l).bytes
      setVar "OLDPWD" s.cwdText
      changeVar "OLDPWD" fun v => { v with exported := true }
      modify fun s => { s with cwd := l, cwdText := text }
      setVar "PWD" text
      changeVar "PWD" fun v => { v with exported := true }
      return true

/-- Whether the last of the options `-L` and `-P` says that names count. -/
def byNames (options : List GivenOption) : Bool := !(options.getLast?.any fun o => o.1 = 'P')

/-- Whether a directory is looked for in those of `CDPATH`. -/
def isSought (dir : String) : Bool :=
  match (dir.toList.splitOn '/').head? with
  | some [] => dir = ""
  | some name => name ≠ ['.'] && name ≠ ['.', '.']
  | none => true

/-- Changes the working directory. -/
def changeDir (args : List String) : Work Nat := do
  let (options, args) ← optionsOf "LP" args
  let s ← get
  let t ← System.tree
  let back := args.head? = some "-"
  let dest := (match args with
    | [] => s.value? "HOME"
    | "-" :: _ => s.value? "OLDPWD"
    | dir :: _ => some dir).getD ""
  let isDir := fun (path : String) => t.isDir s.cwd (pathOf path)
  let sought := if isSought dest then
      let dir := if dest = "" then "." else dest
      (((s.value? "CDPATH").getD "").toList.splitOn ':').findSome? fun start =>
        let path := if start.isEmpty then dir else String.ofList start ++ "/" ++ dir
        if isDir path then some (path, !start.isEmpty) else none
    else none
  let (path, told) := sought.getD (dest, false)
  if ← enter (byNames options) path then
    if told || back then say ((← get).cwdText ++ "\n")
    return 0
  else refuse ("can't cd to " ++ dest)

/-- Names the working directory. -/
def tellDir (args : List String) : Work Nat := do
  let (options, _) ← optionsOf "LP" args
  let s ← get
  say ((if byNames options then s.cwdText else Text.raw (FileTree.pathOf s.cwd).bytes) ++ "\n")
  return 0

/-! ## Rights and limits -/

/-- Three bits of rights as letters. -/
def rightsText (bits : Nat) : String :=
  (if bits / 4 % 2 = 1 then "r" else "") ++ (if bits / 2 % 2 = 1 then "w" else "")
    ++ if bits % 2 = 1 then "x" else ""

/-- The rights that files may get, for their owner, a group and all others. -/
def rightsLine (mask : Nat) : String :=
  "u=" ++ rightsText (7 - mask / 64 % 8) ++ ",g=" ++ rightsText (7 - mask / 8 % 8)
    ++ ",o=" ++ rightsText (7 - mask % 8) ++ "\n"

/-- The bits that letters of rights stand for. -/
def rightsBits? (letters : List Char) : Option Nat :=
  letters.foldl (fun bits c => bits.bind fun n => match c with
    | 'r' => some (n ||| 4)
    | 'w' => some (n ||| 2)
    | 'x' => some (n ||| 1)
    | _ => none) (some 0)

/-- The rights after a change of them that a text describes: for whom, in which way, and
which ones. -/
def changeRights (rights : Nat) (text : List Char) : Option Nat :=
  let whom := text.takeWhile fun c => ['u', 'g', 'o', 'a'].contains c
  let units := if whom.isEmpty || whom.contains 'a' then [64, 8, 1]
    else [('u', 64), ('g', 8), ('o', 1)].filterMap fun e =>
      if whom.contains e.1 then some e.2 else none
  match text.drop whom.length with
  | op :: letters =>
    (rightsBits? letters).bind fun bits =>
      let change : Option (Nat → Nat) := match op with
        | '=' => some fun _ => bits
        | '+' => some fun old => old ||| bits
        | '-' => some fun old => old - (old &&& bits)
        | _ => none
      change.map fun f =>
        units.foldl (fun r unit => r - r / unit % 8 * unit + f (r / unit % 8) * unit) rights
  | [] => none

/-- Shows or changes the rights that new files do not get. -/
def changeMask (args : List String) : Work Nat := do
  let (options, args) ← optionsOf "S" args
  let mask := (← get).umask
  match args with
  | [] =>
    if !options.isEmpty then say (rightsLine mask)
    else
      let digits := (Nat.toDigits 8 mask).map Char.toNat
      say (String.ofList ((List.replicate (4 - digits.length) '0') ++ digits.map Char.ofNat) ++ "\n")
    return 0
  | text :: _ =>
    let cs := text.toList
    if cs.head?.any Char.isDigit then
      if cs.all isOctal then
        modify fun s => { s with umask := numberOf 8 cs % 512 }
        return 0
      else refuse ("Illegal number: " ++ text)
    else
      let change := fun (r : Option Nat) (c : List Char) => r.bind fun n => changeRights n c
      match (cs.splitOn ',').foldl change (some (511 - mask)) with
      | some rights =>
        modify fun s => { s with umask := 511 - rights }
        return 0
      | none => refuse ("Illegal mode: " ++ text)

/-- The limits of programs, by letter. -/
def programLimits : List (Char × String × String) :=
  [('t', "time(seconds)", "unlimited"), ('f', "file(blocks)", "unlimited"),
    ('d', "data(kbytes)", "unlimited"), ('s', "stack(kbytes)", "8192"),
    ('c', "coredump(blocks)", "0"), ('m', "memory(kbytes)", "unlimited"),
    ('l', "locked memory(kbytes)", "8192"), ('p', "process", "unlimited"),
    ('n', "nofiles", "1048576"), ('v', "vmemory(kbytes)", "unlimited"),
    ('w', "locks", "unlimited"), ('r', "rtprio", "0")]

/-- Shows limits of programs, or is asked to change one. -/
def limit (args : List String) : Work Nat := do
  let (options, args) ← optionsOf "HSatfdscmlpnvwr" args
  let letters := (options.map (·.1)).filter fun c => c ≠ 'H' && c ≠ 'S'
  let letter := letters.getLast?.getD 'f'
  match args with
  | [] =>
    if letters.contains 'a' then
      say <| String.join <| programLimits.map fun l =>
        let padding := String.ofList (List.replicate (20 - l.2.1.length) ' ')
        l.2.1 ++ padding ++ " " ++ l.2.2 ++ "\n"
    else say ((((programLimits.lookup letter).map (·.2)).getD "unlimited") ++ "\n")
    return 0
  | [value] =>
    if value = "unlimited" || value.toList.all Char.isDigit then return 0
    else refuse "bad number"
  | _ => refuse "too many arguments"

end CrateGraph.Shell
