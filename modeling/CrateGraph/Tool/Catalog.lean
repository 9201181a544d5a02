import CrateGraph.Shell.Condition
import CrateGraph.Shell.Printed
import CrateGraph.Tool.Characters
import CrateGraph.Tool.Files
import CrateGraph.Tool.Grep
import CrateGraph.Tool.Running
import CrateGraph.Tool.Sed
import CrateGraph.Tool.Xargs

/-!
# The programs of the system

All small programs by name, with those that only print something.
-/

namespace CrateGraph.Tool

open Shell (Work Session Perform setStatus complain Remark)

/-! ## Programs that print -/

/-- A remark about an argument of `printf`. -/
def remarkText : Remark → String
  | .noNumber arg => quoted arg ++ ": expected a numeric value"
  | .notWhole arg => quoted arg ++ ": value not completely converted"
  | .tooGreat arg => quoted arg ++ ": Numerical result out of range"

/-- Prints arguments with a format. -/
def printf : Work Unit := do
  let args := match (← get).args with
    | "--" :: rest => rest
    | rest => rest
  match args with
  | [] => misuse 1 "missing operand"
  | format :: args =>
    let r := Shell.formatted .programFormat .programText format args
    for remark in r.remarks do
      setStatus 1
      warn (remarkText remark)
    print (String.ofList r.printed.chars)
    match r.fault, r.rest with
    | some (text, _), _ => fail 1 (text ++ ": invalid conversion specification")
    | none, extra :: _ =>
      if !r.printed.last then
        warn ("warning: ignoring excess arguments, starting with " ++ quoted extra)
    | none, [] => pure ()

/-- What is wrong with the arguments of a condition. -/
def conditionFault : Shell.Condition.Fault → String
  | .argumentExpected op => "missing argument after " ++ quoted op
  | .unexpectedOperator arg => "extra argument " ++ quoted arg
  | .unclosed => "')' expected"
  | .badNumber arg => "invalid integer " ++ quoted arg

/-- Says whether a condition holds. -/
def condition (bracket : Bool) : Work Unit := do
  let args := (← get).args
  if bracket && args.getLast? ≠ some "]" then fail 2 "missing ']'"
  else match Shell.Condition.holds ⟨← System.tree, (← get).cwd⟩ (if bracket then args.dropLast else args) with
    | .ok true => return ()
    | .ok false => setStatus 1
    | .error e => fail 2 (conditionFault e)

/-- What is known of the machine. -/
def uname : Work Unit := do
  let p ← parsed 1
    ⟨"asnrvmpio", [("all", 'a', .none), ("kernel-name", 's', .none), ("machine", 'm', .none),
      ("operating-system", 'o', .none), ("nodename", 'n', .none)], false⟩
  let parts := [('s', "Linux"), ('n', "localhost"), ('r', "6.1.0"), ('v', "#1 SMP"), ('m', "x86_64"),
    ('o', "GNU/Linux")]
  let shown := parts.filter fun e => p.has e.1 || p.has 'a' || (p.options.isEmpty && e.1 = 's')
  print (String.intercalate " " (shown.map (·.2)) ++ "\n")

/-- The characters for six bits each. -/
def sixBitChars : List Char :=
  "ABCDEFGHIJKLMNOPQRSTUVWXYZabcdefghijklmnopqrstuvwxyz0123456789+/".toList

/-- Bytes with six bits a character. -/
def encodeSixBits : Bytes → List Char
  | a :: b :: c :: rest =>
    let n := a.toNat * 65536 + b.toNat * 256 + c.toNat
    ([n / 262144, n / 4096 % 64, n / 64 % 64, n % 64].map fun i => sixBitChars[i]?.getD '=')
      ++ encodeSixBits rest
  | [a, b] =>
    let n := a.toNat * 65536 + b.toNat * 256
    ([n / 262144, n / 4096 % 64, n / 64 % 64].map fun i => sixBitChars[i]?.getD '=') ++ ['=']
  | [a] =>
    let n := a.toNat * 65536
    ([n / 262144, n / 4096 % 64].map fun i => sixBitChars[i]?.getD '=') ++ ['=', '=']
  | [] => []

/-- The bytes that characters with six bits each stand for, if they are such characters. -/
def decodeSixBits : List Char → Option Bytes
  | a :: b :: c :: d :: rest => do
    let value := fun (x : Char) =>
      let i := sixBitChars.idxOf x
      if i < 64 then some i else none
    let n := (← value a) * 262144 + (← value b) * 4096
    let first := (n / 65536).toUInt8
    match c, d with
    | '=', '=' => return first :: (← decodeSixBits rest)
    | c, '=' =>
      let n := n + (← value c) * 64
      return first :: (n / 256).toUInt8 :: (← decodeSixBits rest)
    | c, d =>
      let n := n + (← value c) * 64 + (← value d)
      return first :: (n / 256).toUInt8 :: n.toUInt8 :: (← decodeSixBits rest)
  | [] => some []
  | _ => none

/-- Lists cut into parts of at most so many items. -/
def inParts {α : Type} (size : Nat) : Nat → List α → List (List α)
  | 0, _ => []
  | _, [] => []
  | steps + 1, xs => xs.take (max 1 size) :: inParts size steps (xs.drop (max 1 size))

/-- Writes bytes with six bits a character, or reads such characters. -/
def base64 : Work Unit := do
  let p ← parsed 1
    ⟨"diw:", [("decode", 'd', .none), ("ignore-garbage", 'i', .none), ("wrap", 'w', .required)],
      false⟩
  let bytes := (← allContents p.operands).flatten
  if (← get).status ≠ 0 then quit 1
  if p.has 'd' then
    let cs := (Text.raw bytes).toList.filter fun c =>
      c ≠ '\n' && (!p.has 'i' || sixBitChars.contains c || c = '=')
    match decodeSixBits cs with
    | some out => emit out
    | none => fail 1 "invalid input"
  else
    let cs := encodeSixBits bytes
    let width := ((p.value? 'w').bind Shell.countOf?).getD 76
    if width = 0 then print (String.ofList cs)
    else
      let lines := inParts width (cs.length + 1) cs
      print (String.join (lines.map fun l => String.ofList l ++ "\n"))

/-- Sends a signal to programs. -/
def kill : Work Unit := do
  let args := (← get).args
  let (signal, targets) : Option Nat × List String := match args with
    | "-s" :: name :: rest => (signalNumberOf? name, rest)
    | arg :: rest =>
      match arg.toList with
      | '-' :: c :: cs =>
        if c = '-' then (some 15, rest) else (signalNumberOf? (String.ofList (c :: cs)), rest)
      | _ => (some 15, args)
    | [] => (some 15, [])
  match signal with
  | none => fail 1 ("unknown signal name " ++ ((args.head?.map fun a => String.ofList a.toList.tail).getD ""))
  | some n =>
    for target in targets do
      match Shell.intOf? false target with
      | some pid =>
        if !(← System.signal pid n) then
          setStatus 1
          warn ("sending signal to " ++ target ++ " failed: No such process")
      | none => do
        setStatus 1
        warn ("failed to parse argument: '" ++ target ++ "'")

/-! ## All programs -/

/-- Runs a program of the system that is no shell. -/
def run? (self : Perform) (name : String) : Option (Work Unit) :=
  match name with
  | "true" | "sync" | ":" => some (pure ())
  | "false" => some (setStatus 1)
  | "echo" => some do print (Shell.echoedPlain none true (← get).args)
  | "printf" => some printf
  | "test" => some (condition false)
  | "[" => some (condition true)
  | "cat" => some cat
  | "head" => some head
  | "tail" => some tail
  | "tee" => some tee
  | "tac" => some tac
  | "yes" => some yes
  | "dd" => some dd
  | "wc" => some wc
  | "sort" => some sort
  | "uniq" => some uniq
  | "cut" => some cut
  | "paste" => some paste
  | "nl" => some nl
  | "fold" => some fold
  | "rev" => some rev
  | "tr" => some tr
  | "od" => some od
  | "sleep" => some sleep
  | "seq" => some seq
  | "expr" => some expr
  | "rm" => some rm
  | "rmdir" => some rmdir
  | "mkdir" => some mkdir
  | "touch" => some touch
  | "cp" => some cp
  | "mv" => some mv
  | "ln" => some ln
  | "chmod" => some chmod
  | "ls" | "dir" => some ls
  | "basename" => some basename
  | "dirname" => some dirname
  | "readlink" => some readlink
  | "realpath" => some realpath
  | "pwd" => some workingDirectory
  | "cmp" => some cmp
  | "grep" => some (grep 'G')
  | "egrep" => some (grep 'E')
  | "fgrep" => some (grep 'F')
  | "sed" => some sed
  | "base64" => some base64
  | "env" => some (env self)
  | "printenv" => some printenv
  | "timeout" => some (timeout self)
  | "nohup" => some (nohup self)
  | "nice" => some (nice self)
  | "setsid" => some (setsid self)
  | "xargs" => some (xargs self)
  | "kill" => some kill
  | "uname" => some uname
  | "whoami" => some (print "root\n")
  | _ => none

/-- The programs of the system that are no shells. -/
def names : List String :=
  ["true", "false", "echo", "printf", "test", "[", "cat", "head", "tail", "tee", "tac", "yes", "dd",
    "wc", "sort", "uniq", "cut", "paste", "nl", "fold", "rev", "tr", "od", "sleep", "seq", "expr",
    "rm", "rmdir", "mkdir", "touch", "cp", "mv", "ln", "chmod", "ls", "dir", "basename", "dirname",
    "readlink", "realpath", "pwd", "cmp", "grep", "egrep", "fgrep", "sed", "base64", "env",
    "printenv", "timeout", "nohup", "nice", "setsid", "xargs", "kill", "uname", "whoami", "sync"]

end CrateGraph.Tool
