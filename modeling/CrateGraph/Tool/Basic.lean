import CrateGraph.Shell.Session
import CrateGraph.Tool.Options

/-!
# Small programs

The programs of the system that scripts are made of read what they are given, write, and
end with a status. This module has what they have in common: how they tell of what is wrong,
and how they read and write.
-/

namespace CrateGraph.Tool

open Shell (Work Session Opening complain setStatus openPath readAll)

/-! ## Names in messages -/

/-- Whether a name is shown in quotes because of a character at some place. -/
def needsQuotes (first : Bool) (c : Char) : Bool :=
  [' ', '\t', '\n', '!', '"', '$', '&', '(', ')', '*', ';', '<', '=', '>', '[', '^', '`', '|',
    '\\', '?', '\''].contains c
    || (first && (c = '~' || c = '#')) || c.toNat < 32 || c.toNat ≥ 127

/-- The character for a byte after a backslash. -/
def escapeText (c : Char) : List Char :=
  match c with
  | '\n' => ['\\', 'n']
  | '\t' => ['\\', 't']
  | '\r' => ['\\', 'r']
  | '\x07' => ['\\', 'a']
  | '\x08' => ['\\', 'b']
  | '\x0b' => ['\\', 'v']
  | '\x0c' => ['\\', 'f']
  | c =>
    let digit := fun (n : Nat) => Char.ofNat ('0'.toNat + n % 8)
    ['\\', digit (c.toNat / 64), digit (c.toNat / 8), digit c.toNat]

/-- The parts of a name in quotes, in which some characters are shown as escapes. -/
def quoteParts : Bool → List Char → List Char
  | escaped, [] => if escaped then ['\''] else []
  | escaped, c :: cs =>
    if c.toNat < 32 || c.toNat ≥ 127 then
      (if escaped then [] else ['\'', '$', '\'']) ++ escapeText c ++ quoteParts true cs
    else
      let back := if escaped then ['\'', '\''] else []
      back ++ (if c = '\'' then ['\'', '\\', '\'', '\''] else [c]) ++ quoteParts false cs

/-- A name in quotes. -/
def quoted (s : String) : String :=
  let cs := s.toList
  let odd := cs.any fun c => c.toNat < 32 || c.toNat ≥ 127
  if cs.contains '\'' && !odd && !(cs.any fun c => ['"', '$', '`', '\\'].contains c) then
    "\"" ++ s ++ "\""
  else
    let inner := quoteParts false cs
    let ended := match cs.getLast? with
      | some c => c.toNat < 32 || c.toNat ≥ 127
      | none => false
    String.ofList ('\'' :: inner ++ if ended then [] else ['\''])

/-- A name, in quotes if it has unusual characters. -/
def named (s : String) : String :=
  let cs := s.toList
  let odd := cs.isEmpty || needsQuotes true (cs.head?.getD 'a') || cs.tail.any (needsQuotes false)
    || cs = ['\x7b'] || cs = ['\x7d']
  if odd then quoted s else s

/-! ## Messages -/

/-- Tells of something that is wrong, in the name of the program. -/
def warn (message : String) : Work Unit := do
  complain ((← get).name ++ ": " ++ message ++ "\n")

/-- Ends the program with a status. -/
def quit {α : Type} (status : Nat) : Work α :=
  let ending : System Empty := fun _ => .exit status
  ending >>= nofun

/-- Tells what is wrong, and ends the program. -/
def fail {α : Type} (status : Nat) (message : String) : Work α := do
  warn message
  quit status

/-- Names a program that tells more. -/
def hint : Work Unit := do
  complain ("Try '" ++ (← get).name ++ " --help' for more information.\n")

/-- Tells what is wrong with the arguments, and ends the program. -/
def misuse {α : Type} (status : Nat) (message : String) : Work α := do
  warn message
  hint
  quit status

/-- What was given to the program. -/
def parsed (status : Nat) (o : Options) : Work Parsed := do
  match o.read (← get).args with
  | .ok (options, operands) => return ⟨options, operands⟩
  | .error message => misuse status message

/-- An error in words. -/
def reason (e : FileError) : String := e.reason.1

/-! ## Writing -/

/-- Writes bytes, and ends the program if that is not possible. -/
def emit (bytes : Bytes) : Work Unit := do
  if !bytes.isEmpty then
    match ← System.write 1 bytes with
    | .ok () => return ()
    | .error e => fail 1 ("write error: " ++ reason e)

/-- Writes a raw text. -/
def print (s : String) : Work Unit := emit (Text.unraw s)

/-! ## Reading -/

/-- The number of the stream under which a program has a file open. -/
def fileStream : Nat := 3

/-- Goes through files, where a dash stands for what the program is given to read, and does
something with each that can be opened. The status is kept in the session. -/
def forFiles (whenClosed : String → FileError → Work Unit) (f : Nat → String → Work Unit) :
    List String → Work Unit
  | [] => return ()
  | file :: files => do
    if file = "-" then f 0 file
    else
      match ← openPath fileStream file .read with
      | .ok () => do
        f fileStream file
        System.detach fileStream
      | .error e => do
        setStatus 1
        whenClosed file e
    forFiles whenClosed f files

/-- The files that a program is given, or what it can read. -/
def orInput (files : List String) : List String := if files.isEmpty then ["-"] else files

/-- Tells that a file could not be read. -/
def warnFile (file : String) (e : FileError) : Work Unit := warn (named file ++ ": " ++ reason e)

/-- Goes through the blocks of a stream. -/
def forBlocks (fd : Nat) (f : Bytes → Work Unit) : Nat → Work (Except FileError Unit)
  | 0 => return .ok ()
  | rounds + 1 => do
    match ← System.read fd 131072 none with
    | .ok [] => return .ok ()
    | .ok bytes => do
      f bytes
      forBlocks fd f rounds
    | .error e => return .error e

/-- All that is left in a stream, or nothing if it cannot be read, which is told. -/
def contentsOf (fd : Nat) (whenFailed : FileError → Work Unit) : Work Bytes := do
  match ← readAll fd with
  | .ok bytes => return bytes
  | .error e => do
    setStatus 1
    whenFailed e
    return []

/-- The lines of bytes without their ends, and whether the last one had an end. -/
def linesOf (bytes : Bytes) : List Bytes × Bool :=
  let pieces := bytes.splitOn 10
  if pieces.getLast? = some [] then (pieces.dropLast, true) else (pieces, false)

/-- Goes through the lines of a stream, as many at a time as there are, with something that
is remembered; `carry` is the start of the next line. The last lines come with whether they
all have an end. -/
def foldLines {σ : Type} (fd : Nat) (f : σ → List Bytes → Bool → Work σ) :
    Nat → Bytes → σ → Work (Except FileError σ)
  | 0, _, st => return .ok st
  | rounds + 1, carry, st => do
    match ← System.read fd 65536 none with
    | .error e => return .error e
    | .ok [] =>
      if carry.isEmpty then return .ok st else return .ok (← f st [carry] false)
    | .ok bytes =>
      let (lines, ended) := linesOf (carry ++ bytes)
      let whole := if ended then lines else lines.dropLast
      System.labor (8 * whole.length)
      let st ← if whole.isEmpty then pure st else f st whole true
      if (lines.getLast?.getD []).length > Shell.mostRead then Shell.stall
      foldLines fd f rounds (if ended then [] else lines.getLast?.getD []) st

/-- Goes through the lines of a stream, and tells of it if that fails. -/
def forLines {σ : Type} (fd : Nat) (file : String) (f : σ → List Bytes → Bool → Work σ) (st : σ) :
    Work σ := do
  match ← foldLines fd f Shell.manyRounds [] st with
  | .ok st => return st
  | .error e => do
    setStatus 1
    warnFile file e
    return st

/-- Lines with an end after each. -/
def joinLines (lines : List Bytes) : Bytes := (lines.map (· ++ [10])).flatten

end CrateGraph.Tool
