import CrateGraph.Tool.Copying

/-!
# Programs for files

Programs that make, copy, move and remove files and directories, and that tell what there
is.
-/

namespace CrateGraph.Tool

open Shell (Work Session Opening complain setStatus openPath numberOf isOctal)

/-! ## Looking -/

/-- What a path leads to, or the link there itself. -/
def entryAt (path : String) (follow : Bool) : Work (Except FileError (Location × FileNode)) := do
  let s ← get
  let t ← System.tree
  return match t.place (if follow then .look else .lookAtLink) s.cwd (Shell.pathOf path) with
    | .error e => .error e
    | .ok (.missing _) => .error .notFound
    | .ok (.present l) =>
      match t.node? l with
      | some n => .ok (l, n)
      | none => .error .notFound

/-- Whether a path leads to a directory. -/
def isDirPath (path : String) : Work Bool := do
  return (← System.tree).isDir (← get).cwd (Shell.pathOf path)

/-- A path without the slashes at its end. -/
def withoutSlashes (s : String) : String :=
  let cs := (s.toList.reverse.dropWhile (· = '/')).reverse
  if cs.isEmpty && s ≠ "" then "/" else String.ofList cs

/-- The last name of a path. -/
def lastNameOf (s : String) : String :=
  let s := withoutSlashes s
  if s = "/" then s else String.ofList (s.toList.reverse.takeWhile (· ≠ '/')).reverse

/-- A path with a name after it. -/
def inside (dir name : String) : String :=
  if dir.toList.getLast? = some '/' then dir ++ name else dir ++ "/" ++ name

/-- The names in a directory in their order, as raw texts. -/
def sortedNames (t : FileTree) (l : Location) : List String :=
  ((t.namesIn l).map Text.raw).mergeSort fun a b => decide (a ≤ b)

/-- Where a new entry would be, or what is there already. -/
def placeFor (path : String) : Work (Except FileError Place) := do
  return (← System.tree).place .make (← get).cwd (Shell.pathOf path)

/-- Tells of a failure, and remembers it. -/
def failed (message : String) : Work Unit := do
  setStatus 1
  warn message

/-! ## Removing -/

/-- Removes what is at a path, and tells of it if that is asked for. -/
def removeAt (verbose recursive dirs force : Bool) (path : String) : Work Unit := do
  let last := lastNameOf path
  if (last = "." || last = "..") && recursive then
    failed ("refusing to remove '.' or '..' directory: skipping " ++ quoted path)
  else match ← entryAt path false with
    | .error e =>
      if force && (e = .notFound || e = .notDirectory) then return ()
      else failed ("cannot remove " ++ quoted path ++ ": " ++ reason e)
    | .ok (l, node) => do
      let t ← System.tree
      if node = .dir then
        let empty := (t.namesIn l).isEmpty
        if l = [] && recursive then
          failed "it is dangerous to operate recursively on '/'"
          warn "use --no-preserve-root to override this failsafe"
        else if recursive || (dirs && empty) then
          System.setTree (t.without l)
          if verbose then print ("removed directory " ++ quoted path ++ "\n")
        else failed ("cannot remove " ++ quoted path ++ ": "
          ++ if dirs then "Directory not empty" else "Is a directory")
      else
        System.setTree (t.without l)
        if verbose then print ("removed " ++ quoted path ++ "\n")

/-- Removes files. -/
def rm : Work Unit := do
  let p ← parsed 1
    ⟨"dfiIrRv",
      [("recursive", 'r', .none), ("force", 'f', .none), ("verbose", 'v', .none),
        ("dir", 'd', .none)], false⟩
  if p.operands.isEmpty then
    if p.has 'f' then quit 0 else misuse 1 "missing operand"
  for path in p.operands do
    removeAt (p.has 'v') (p.has 'r' || p.has 'R') (p.has 'd') (p.has 'f') path

/-- Removes an empty directory; the result is why that was not possible. -/
def removeDir (path : String) : Work (Option FileError) := do
  match ← entryAt path false with
  | .error e => return some e
  | .ok (l, node) =>
    let t ← System.tree
    if node ≠ .dir then return some .notDirectory
    else if lastNameOf path = "." then return some .invalid
    else if !(t.namesIn l).isEmpty then return some .notEmpty
    else
      System.setTree (t.without l)
      return none

/-- Removes empty directories. -/
def rmdir : Work Unit := do
  let p ← parsed 1
    ⟨"pv", [("parents", 'p', .none), ("verbose", 'v', .none),
      ("ignore-fail-on-non-empty", 'i', .none)], false⟩
  if p.operands.isEmpty then misuse 1 "missing operand"
  for path in p.operands do
    let segments := (withoutSlashes path).toList.splitOn '/'
    let all := if p.has 'p' then
        ((List.range segments.length).reverse.map fun n =>
          String.ofList (List.intercalate ['/'] (segments.take (n + 1)))).filter (· ≠ "")
      else [path]
    let rec go : List String → Work Unit
      | [] => return ()
      | dir :: rest => do
        if p.has 'v' then print (((← get).name) ++ ": removing directory, " ++ quoted dir ++ "\n")
        match ← removeDir dir with
        | none => go rest
        | some e =>
          if e = .notEmpty && p.has 'i' then return ()
          else failed ("failed to remove " ++ quoted dir ++ ": " ++ reason e)
    go all

/-! ## Making -/

/-- Makes directories. -/
def mkdir : Work Unit := do
  let p ← parsed 1
    ⟨"m:pv", [("mode", 'm', .required), ("parents", 'p', .none), ("verbose", 'v', .none)], false⟩
  if p.operands.isEmpty then misuse 1 "missing operand"
  for path in p.operands do
    let cwd := (← get).cwd
    let change := if p.has 'p' then FileTree.makeDirs else FileTree.makeDir
    match ← System.change (change cwd (Shell.pathOf (if p.has 'p' then withoutSlashes path else path))) with
    | .ok () => if p.has 'v' then print (((← get).name) ++ ": created directory " ++ quoted path ++ "\n")
    | .error e => failed ("cannot create directory " ++ quoted path ++ ": " ++ reason e)

/-- Makes files that are not there. -/
def touch : Work Unit := do
  let p ← parsed 1
    ⟨"acd:fhmr:t:", [("no-create", 'c', .none), ("date", 'd', .required),
      ("reference", 'r', .required), ("time", 'T', .required)], false⟩
  if p.operands.isEmpty then misuse 1 "missing file operand"
  for path in p.operands do
    match ← entryAt path true with
    | .ok _ => pure ()
    | .error e =>
      if p.has 'c' && e = .notFound then pure ()
      else match ← openPath fileStream path .append with
        | .ok () => System.detach fileStream
        | .error e => failed ("cannot touch " ++ quoted path ++ ": " ++ reason e)

/-! ## Copying, moving and linking -/

/-- The paths that something is to be copied or moved from and to, or linked. -/
def destinations (p : Parsed) (what : String) : Work (List (String × String)) := do
  let into := fun (dir : String) (files : List String) =>
    files.map fun f => (f, inside dir (lastNameOf f))
  match p.value? 't', p.operands with
  | some dir, files => return into dir files
  | none, [] => misuse 1 ("missing " ++ what ++ " operand")
  | none, [one] => misuse 1 ("missing destination " ++ what ++ " operand after " ++ quoted one)
  | none, [a, b] =>
    if !p.has 'T' && (← isDirPath b) then return into b [a] else return [(a, b)]
  | none, files =>
    let dir := files.getLast?.getD ""
    if ← isDirPath dir then return into dir files.dropLast
    else
      let known ← entryAt dir true
      match known with
      | .ok _ => fail 1 ("target " ++ quoted dir ++ ": Not a directory")
      | .error e => fail 1 ("target " ++ quoted dir ++ ": " ++ reason e)

/-- The entries at and below a location, each with its names from there on. -/
def below (t : FileTree) (l : Location) : List (Location × FileNode) :=
  let own := (t.node? l).toList.map fun n => ([], n)
  own ++ t.nodes.reverse.filterMap fun e =>
    if l.isPrefixOf e.1 && e.1 ≠ l then some (e.1.drop l.length, e.2) else none

/-- The tree with entries at and below a location. -/
def graft (t : FileTree) (l : Location) (entries : List (Location × FileNode)) : FileTree :=
  entries.foldl (fun t e =>
    match e.2, t.node? (l ++ e.1) with
    | .dir, some .dir => t
    | n, _ => t.put (l ++ e.1) n) t

/-- Copies what is at a path to another one. -/
def copyTo (p : Parsed) (source target : String) : Work Unit := do
  let recursive := p.has 'r' || p.has 'R' || p.has 'a'
  match ← entryAt source (!(recursive || p.has 'd' || p.has 'P')) with
  | .error e => failed ("cannot stat " ++ quoted source ++ ": " ++ reason e)
  | .ok (from?, node) => do
    let t ← System.tree
    let told : Work Unit := if p.has 'v' then
        print (quoted source ++ " -> " ++ quoted target ++ "\n") else pure ()
    if node = .dir && !recursive then
      failed ("-r not specified; omitting directory " ++ quoted source)
    else match ← entryAt target true with
      | .ok (to?, there) =>
        if to? = from? then failed (quoted source ++ " and " ++ quoted target ++ " are the same file")
        else if p.has 'n' then return ()
        else if node = .dir && there ≠ .dir then
          failed ("cannot overwrite non-directory " ++ quoted target ++ " with directory " ++ quoted source)
        else if node ≠ .dir && there = .dir then
          failed ("cannot overwrite directory " ++ quoted target ++ " with non-directory")
        else if node = .dir && from?.isPrefixOf to? then
          failed ("cannot copy a directory, " ++ quoted source ++ ", into itself, " ++ quoted target)
        else match node, there with
          | .file contents mode, .file _ oldMode => do
            told
            if !mode.readable then
              failed ("cannot open " ++ quoted source ++ " for reading: " ++ reason .denied)
            else if !oldMode.writable then
              failed ("cannot create regular file " ++ quoted target ++ ": " ++ reason .denied)
            else System.setTree (t.put to? (.file contents oldMode))
          | .file contents mode, _ => do
            told
            if !mode.readable then
              failed ("cannot open " ++ quoted source ++ " for reading: " ++ reason .denied)
            else match ← openPath fileStream target .write with
            | .ok () => do
              let _ ← System.write fileStream contents
              System.detach fileStream
            | .error e => failed ("cannot create regular file " ++ quoted target ++ ": " ++ reason e)
          | _, _ => do
            told
            System.setTree (graft t to? (below t from?))
      | .error _ =>
        match ← placeFor target with
        | .ok (.missing to?) => do
          told
          if node = .dir && from?.isPrefixOf to? then
            failed ("cannot copy a directory, " ++ quoted source ++ ", into itself, " ++ quoted target)
          else System.setTree (graft t to? (below t from?))
        | .ok (.present to?) => do
          told
          System.setTree (t.put to? node)
        | .error e =>
          failed ("cannot create " ++ (if node = .dir then "directory " else "regular file ")
            ++ quoted target ++ ": " ++ reason e)

/-- Copies files. -/
def cp : Work Unit := do
  let p ← parsed 1
    ⟨"abdfiHlLnprPRst:Tuv",
      [("recursive", 'r', .none), ("force", 'f', .none), ("verbose", 'v', .none),
        ("archive", 'a', .none), ("no-clobber", 'n', .none), ("target-directory", 't', .required),
        ("no-target-directory", 'T', .none), ("preserve", 'p', .optional)], false⟩
  for (source, target) in ← destinations p "file" do
    copyTo p source target

/-- Moves what is at a path to another one. -/
def moveTo (p : Parsed) (source target : String) : Work Unit := do
  match ← entryAt source false with
  | .error e => failed ("cannot stat " ++ quoted source ++ ": " ++ reason e)
  | .ok (from?, node) => do
    let t ← System.tree
    let move := fun (to? : Location) => do
      if p.has 'v' then print ("renamed " ++ quoted source ++ " -> " ++ quoted target ++ "\n")
      System.setTree (graft ((t.without to?).without from?) to? (below t from?))
    match ← entryAt target false with
    | .ok (to?, there) =>
      if to? = from? then failed (quoted source ++ " and " ++ quoted target ++ " are the same file")
      else if p.has 'n' then return ()
      else if node = .dir && there ≠ .dir then
        failed ("cannot overwrite non-directory " ++ quoted target ++ " with directory " ++ quoted source)
      else if node ≠ .dir && there = .dir then
        failed ("cannot overwrite directory " ++ quoted target ++ " with non-directory")
      else if node = .dir && from?.isPrefixOf to? then
        failed ("cannot move " ++ quoted source ++ " to a subdirectory of itself, " ++ quoted target)
      else if there = .dir && !(t.namesIn to?).isEmpty then
        failed ("cannot move " ++ quoted source ++ " to " ++ quoted target ++ ": Directory not empty")
      else move to?
    | .error _ =>
      match ← placeFor target with
      | .ok (.missing to?) | .ok (.present to?) =>
        if node = .dir && from?.isPrefixOf to? then
          failed ("cannot move " ++ quoted source ++ " to a subdirectory of itself, " ++ quoted target)
        else move to?
      | .error e =>
        failed ("cannot move " ++ quoted source ++ " to " ++ quoted target ++ ": " ++ reason e)

/-- Moves files. -/
def mv : Work Unit := do
  let p ← parsed 1
    ⟨"bfint:Tuv",
      [("force", 'f', .none), ("verbose", 'v', .none), ("no-clobber", 'n', .none),
        ("target-directory", 't', .required), ("no-target-directory", 'T', .none)], false⟩
  for (source, target) in ← destinations p "file" do
    moveTo p source target

/-- Makes a link. -/
def linkTo (p : Parsed) (source target : String) : Work Unit := do
  let symbolic := p.has 's'
  let kind := if symbolic then "symbolic link " else "hard link "
  let tell := fun (e : FileError) =>
    failed ("failed to create " ++ kind ++ quoted target
      ++ (if symbolic || e = .alreadyThere then "" else " => " ++ quoted source) ++ ": " ++ reason e)
  let node ← if symbolic then pure (.ok (.link (Shell.pathOf source)))
    else (← entryAt source false).map (fun e => e.2) |> pure
  match node with
  | .error e => failed ("failed to access " ++ quoted source ++ ": " ++ reason e)
  | .ok node =>
    if node = .dir then failed (source ++ ": hard link not allowed for directory")
    else
      let t ← System.tree
      match ← placeFor target with
      | .error e => tell e
      | .ok (.missing l) => do
        System.setTree (t.put l node)
        if p.has 'v' then print (quoted target ++ " -> " ++ quoted source ++ "\n")
      | .ok (.present l) =>
        if p.has 'f' && t.node? l ≠ some .dir then
          System.setTree (t.put l node)
          if p.has 'v' then print (quoted target ++ " -> " ++ quoted source ++ "\n")
        else tell .alreadyThere

/-- Makes links. -/
def ln : Work Unit := do
  let p ← parsed 1
    ⟨"bdfFinrst:TvLP",
      [("symbolic", 's', .none), ("force", 'f', .none), ("verbose", 'v', .none),
        ("no-dereference", 'n', .none), ("target-directory", 't', .required),
        ("no-target-directory", 'T', .none)], false⟩
  match p.operands, p.value? 't' with
  | [one], none => linkTo p one (lastNameOf one)
  | [a, b], none =>
    let isLink := match ← entryAt b false with
      | .ok (_, n) => n.isLink
      | .error _ => false
    if (← isDirPath b) && !p.has 'T' && !(p.has 'n' && isLink) then linkTo p a (inside b (lastNameOf a))
    else linkTo p a b
  | _, _ =>
    for (source, target) in ← destinations p "file" do
      linkTo p source target

/-! ## Rights -/

/-- The rights after a change that a text describes, of which there may be several. -/
def rightsAfter (rights : Nat) (text : String) : Option Nat :=
  let cs := text.toList
  if !cs.isEmpty && cs.all isOctal then
    let n := numberOf 8 cs
    if n ≤ 4095 then some n else none
  else
    let one := fun (rights : Nat) (cs : List Char) => do
      let whom := cs.takeWhile fun c => ['u', 'g', 'o', 'a'].contains c
      let units := if whom.isEmpty || whom.contains 'a' then [64, 8, 1]
        else [('u', 64), ('g', 8), ('o', 1)].filterMap fun e =>
          if whom.contains e.1 then some e.2 else none
      match cs.drop whom.length with
      | op :: letters =>
        let bits ← letters.foldl (fun bits c => bits.bind fun n => match c with
          | 'r' => some (n ||| 4)
          | 'w' => some (n ||| 2)
          | 'x' => some (n ||| 1)
          | 'X' => some (if rights % 2 + rights / 8 % 2 + rights / 64 % 2 > 0 then n ||| 1 else n)
          | 's' | 't' => some n
          | _ => none) (some 0)
        let f ← match op with
          | '+' => some fun old => old ||| bits
          | '-' => some fun (old : Nat) => old - (old &&& bits)
          | '=' => some fun _ => bits
          | _ => none
        return units.foldl (fun r unit => r - r / unit % 8 * unit + f (r / unit % 8) * unit) rights
      | [] => none
    (cs.splitOn ',').foldl (fun r c => r.bind fun n => one n c) (some rights)

/-- Changes who may run files. -/
def chmod : Work Unit := do
  let args := (← get).args
  let isMode := fun (a : String) => match a.toList with
    | '-' :: c :: _ => ['r', 'w', 'x', 'X', 's', 't'].contains c
    | _ => false
  let plain := args.filter (· ≠ "--")
  let before := plain.takeWhile fun a => !isMode a
  let marked := if args.any isMode then before ++ "--" :: plain.drop before.length else args
  modify fun s => { s with args := marked }
  let p ← parsed 1
    ⟨"Rcfv", [("recursive", 'R', .none), ("verbose", 'v', .none), ("quiet", 'f', .none),
      ("silent", 'f', .none), ("changes", 'c', .none), ("reference", 'r', .required)], false⟩
  match p.operands with
  | [] => misuse 1 "missing operand"
  | [mode] => misuse 1 ("missing operand after " ++ quoted mode)
  | mode :: files =>
    if (rightsAfter 420 mode).isNone then misuse 1 ("invalid mode: " ++ quoted mode)
    for file in files do
      match ← entryAt file true with
      | .error e =>
        if p.has 'f' then setStatus 1
        else failed ("cannot access " ++ quoted file ++ ": " ++ reason e)
      | .ok (l, node) => do
        let t ← System.tree
        let entries := if p.has 'R' then (below t l).map fun e => (l ++ e.1, e.2) else [(l, node)]
        System.setTree <| entries.foldl (fun t e => match e.2 with
          | .file contents old =>
            let rights := (rightsAfter (if old.executable then 493 else 420) mode).getD 0
            let isRunnable := rights % 2 + rights / 8 % 2 + rights / 64 % 2 > 0
            t.put e.1 (.file contents { old with executable := isRunnable })
          | _ => t) t

/-! ## Listing -/

/-- How an entry is shown. -/
def shownEntry (t : FileTree) (p : Parsed) (l : Location) (name : String) : String :=
  let mark := match t.node? l with
    | some .dir => if p.has 'F' || p.has 'p' then "/" else ""
    | some (.link _) => if p.has 'F' then "@" else ""
    | some (.program _) => if p.has 'F' then "*" else ""
    | some (.file _ mode) => if p.has 'F' && mode.executable then "*" else ""
    | _ => ""
  name ++ mark

/-- The rights that a file is shown with. The group and the others have those that they usually
have. -/
def rightsOf (mode : Mode) : String :=
  let mark := fun (isGiven : Bool) (s : String) => if isGiven then s else "-"
  let shared := mark mode.readable "r" ++ "-" ++ mark mode.executable "x"
  "-" ++ mark mode.readable "r" ++ mark mode.writable "w" ++ mark mode.executable "x" ++ shared
    ++ shared

/-- An entry with what is known of it. -/
def longLine (t : FileTree) (p : Parsed) (l : Location) (name : String) : String :=
  let (rights, size, target) := match t.node? l with
    | some .dir => ("drwxr-xr-x", 4096, "")
    | some (.link target) => ("lrwxrwxrwx", target.bytes.length, " -> " ++ Text.raw target.bytes)
    | some (.file contents mode) => (rightsOf mode, contents.length, "")
    | some (.program _) => ("-rwxr-xr-x", 0, "")
    | _ => ("crw-rw-rw-", 0, "")
  rights ++ " 1 root root " ++ toString size ++ " Jan  1 00:00 " ++ shownEntry t p l name ++ target

/-- Entries in a list. -/
def entryLines (t : FileTree) (p : Parsed) (entries : List (Location × String)) : String :=
  let entries := if p.has 'r' then entries.reverse else entries
  if p.has 'm' then
    String.intercalate ", " (entries.map fun e => shownEntry t p e.1 e.2)
      ++ if entries.isEmpty then "" else "\n"
  else String.join <| entries.map fun e =>
    (if p.has 'l' then longLine t p e.1 e.2 else shownEntry t p e.1 e.2) ++ "\n"

/-- What is in a directory, and in those in it if that is asked for. The first argument
bounds how deep they are nested. -/
def dirLines (t : FileTree) (p : Parsed) : Nat → Bool → String → Location → String
  | 0, _, _, _ => ""
  | deep + 1, headed, path, l =>
    let names := (sortedNames t l).filter fun n =>
      p.has 'a' || p.has 'A' || n.toList.head? ≠ some '.'
    let dots := if p.has 'a' then [(l, "."), (l.dropLast, "..")] else []
    let entry := fun (n : String) => (l ++ [Text.unraw n], n)
    let own := (if headed then path ++ ":\n" else "")
      ++ (if p.has 'l' then "total 0\n" else "") ++ entryLines t p (dots ++ names.map entry)
    if p.has 'R' then
      own ++ String.join (names.filterMap fun n =>
        if t.isDirAt (entry n).1 then
          some ("\n" ++ dirLines t p deep true (inside path n) (entry n).1)
        else none)
    else own

/-- Lists files. -/
def ls : Work Unit := do
  let p ← parsed 2
    ⟨"aAbBcCdfFgGhHiIklLmnNopqQrRsStTuUvwxXZ1",
      [("all", 'a', .none), ("almost-all", 'A', .none), ("directory", 'd', .none),
        ("recursive", 'R', .none), ("reverse", 'r', .none), ("classify", 'F', .optional),
        ("color", 'k', .optional)], false⟩
  let t ← System.tree
  let files := if p.operands.isEmpty then ["."] else p.operands
  let found ← files.filterMapM fun file => do
    match ← entryAt file (!p.has 'l' && !p.has 'd') with
    | .ok (l, n) => return some (file, l, n)
    | .error e =>
      match ← entryAt file false with
      | .ok (l, n) => return some (file, l, n)
      | .error _ => do
        setStatus 2
        warn ("cannot access " ++ quoted file ++ ": " ++ reason e)
        return none
  let found := found.mergeSort fun a b => decide (a.1 ≤ b.1)
  let found := if p.has 'r' then found.reverse else found
  let isDir := fun (e : String × Location × FileNode) => decide (e.2.2 = .dir) && !p.has 'd'
  let others := (found.filter fun e => !isDir e).map fun e => (e.2.1, e.1)
  let dirs := found.filter isDir
  let headed := files.length > 1 || p.has 'R'
  print (entryLines t p (if p.has 'r' then others.reverse else others))
  let texts := dirs.map fun e => dirLines t p 1000 headed e.1 e.2.1
  if !others.isEmpty && !dirs.isEmpty then print "\n"
  print (String.intercalate "\n" texts)

/-! ## Paths -/

/-- Writes the last names of paths. -/
def basename : Work Unit := do
  let p ← parsed 1
    ⟨"as:z", [("multiple", 'a', .none), ("suffix", 's', .required), ("zero", 'z', .none)], true⟩
  let several := p.has 'a' || p.has 's'
  let strip := fun (suffix name : String) =>
    let (cs, tail) := (name.toList, suffix.toList)
    if tail.isEmpty || cs = tail || !tail.isSuffixOf cs then name
    else String.ofList (cs.take (cs.length - tail.length))
  match p.operands with
  | [] => misuse 1 "missing operand"
  | names@(name :: rest) =>
    if several then
      print (String.join (names.map fun n => strip ((p.value? 's').getD "") (lastNameOf n) ++ "\n"))
    else match rest with
      | [] => print (lastNameOf name ++ "\n")
      | [suffix] => print (strip suffix (lastNameOf name) ++ "\n")
      | _ :: extra :: _ => misuse 1 ("extra operand " ++ quoted extra)

/-- A path without its last name. -/
def dirNameOf (s : String) : String :=
  let cs := (withoutSlashes s).toList
  match cs.reverse.dropWhile (· ≠ '/') with
  | [] => if s ≠ "" && cs = ['/'] then "/" else "."
  | rest =>
    match rest.dropWhile (· = '/') with
    | [] => "/"
    | kept => String.ofList kept.reverse

/-- Writes paths without their last names. -/
def dirname : Work Unit := do
  let p ← parsed 1 ⟨"z", [("zero", 'z', .none)], false⟩
  if p.operands.isEmpty then misuse 1 "missing operand"
  print (String.join (p.operands.map fun s => dirNameOf s ++ "\n"))

/-- The path of what a path leads to, of which the last name need not be there. -/
def canonicalPath (path : String) (allThere noneThere : Bool) : Work (Except FileError String) := do
  let s ← get
  let t ← System.tree
  match t.canonical s.cwd (Shell.pathOf path) with
  | .ok p => return .ok (Text.raw p.bytes)
  | .error e =>
    if allThere then return .error e
    else if noneThere then
      return .ok (Shell.pathOf path |> fun p =>
        if p.isAbsolute then path else inside (Text.raw (FileTree.pathOf s.cwd).bytes) path)
    else match t.place .open s.cwd (Shell.pathOf (withoutSlashes path)) with
      | .ok (.missing l) => return .ok (Text.raw (FileTree.pathOf l).bytes)
      | .ok (.present l) => return .ok (Text.raw (FileTree.pathOf l).bytes)
      | .error e => return .error e

/-- Writes where links lead. -/
def readlink : Work Unit := do
  let p ← parsed 1
    ⟨"efmnqsvz",
      [("canonicalize", 'f', .none), ("canonicalize-existing", 'e', .none),
        ("canonicalize-missing", 'm', .none), ("no-newline", 'n', .none)], false⟩
  if p.operands.isEmpty then misuse 1 "missing operand"
  for path in p.operands do
    let found ← if p.has 'f' || p.has 'e' || p.has 'm' then canonicalPath path (p.has 'e') (p.has 'm')
      else do
        match ← entryAt path false with
        | .ok (_, .link target) => pure (.ok (Text.raw target.bytes))
        | .ok _ => pure (.error .invalid)
        | .error e => pure (.error e)
    match found with
    | .ok text => print (text ++ if p.has 'n' && p.operands.length = 1 then "" else "\n")
    | .error e => do
      setStatus 1
      if p.has 'v' then warn (named path ++ ": " ++ reason e)

/-- Writes the paths of what paths lead to. -/
def realpath : Work Unit := do
  let p ← parsed 1
    ⟨"eLmPqsz",
      [("canonicalize-existing", 'e', .none), ("canonicalize-missing", 'm', .none),
        ("quiet", 'q', .none)], false⟩
  if p.operands.isEmpty then misuse 1 "missing operand"
  for path in p.operands do
    match ← canonicalPath path (p.has 'e') (p.has 'm') with
    | .ok text => print (text ++ "\n")
    | .error e => do
      setStatus 1
      if !p.has 'q' then warn (named path ++ ": " ++ reason e)

/-- Names the working directory. -/
def workingDirectory : Work Unit := do
  let p ← parsed 1 ⟨"LP", [("logical", 'L', .none), ("physical", 'P', .none)], false⟩
  let s ← get
  let t ← System.tree
  if !p.operands.isEmpty then warn "ignoring non-option arguments"
  let there := Text.raw (FileTree.pathOf s.cwd).bytes
  let text := match if p.last? ['L', 'P'] = some 'L' then s.value? "PWD" else none with
    | some path =>
      if path.toList.head? = some '/' && (t.locate s.cwd (Shell.pathOf path)).toOption = some s.cwd
      then path else there
    | none => there
  print (text ++ "\n")

/-! ## Comparing -/

/-- The number of the first byte in which two files are different, and its line. -/
def firstDifference : Nat → Nat → Bytes → Bytes → Option (Nat × Nat)
  | n, line, a :: as, b :: bs =>
    if a ≠ b then some (n, line) else firstDifference (n + 1) (if a = 10 then line + 1 else line) as bs
  | _, _, _, _ => none

/-- Compares two files. -/
def cmp : Work Unit := do
  let p ← parsed 2 ⟨"bi:ln:s", [("quiet", 's', .none), ("silent", 's', .none)], false⟩
  let read := fun (file : String) => (show Work Bytes from do
    if file = "-" then contentsOf 0 fun _ => pure ()
    else match ← openPath fileStream file .read with
      | .ok () => do
        let bytes ← contentsOf fileStream fun _ => pure ()
        System.detach fileStream
        return bytes
      | .error e =>
        if p.has 's' then quit 2 else fail 2 (file ++ ": " ++ reason e))
  match p.operands with
  | [] => misuse 2 "missing operand after 'cmp'"
  | a :: rest =>
    let b := rest.head?.getD "-"
    let x ← read a
    let y ← read b
    match firstDifference 1 1 x y with
    | some (n, line) => do
      if !p.has 's' then
        print (a ++ " " ++ b ++ " differ: byte " ++ toString n ++ ", line " ++ toString line ++ "\n")
      setStatus 1
    | none =>
      if x.length ≠ y.length then
        let (short, size, bytes) := if x.length < y.length then (a, x.length, x) else (b, y.length, y)
        if !p.has 's' then
          let lines := bytes.count 10
          let place := if size = 0 then " which is empty"
            else " after byte " ++ toString size ++
              if bytes.getLast? = some 10 then ", line " ++ toString lines
              else ", in line " ++ toString (lines + 1)
          warn ("EOF on " ++ short ++ place)
        setStatus 1

end CrateGraph.Tool
