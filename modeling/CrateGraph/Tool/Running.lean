import CrateGraph.Shell.Children
import CrateGraph.Shell.Launch
import CrateGraph.Tool.Numbers

/-!
# Programs that run others

Programs that start another program with other variables, or for a limited time: `env`,
`printenv`, `timeout`, `nohup`, `nice` and `setsid`.
-/

namespace CrateGraph.Tool

open Shell (Work Session Opening Perform Variable complain setStatus openPath fork numberOf
  manyRounds becomeNamed isAbsent searchDirs)

/-- Becomes another program, or tells why not and ends: with one status if there is no such
program, and with another one if it cannot be run. -/
def runOther {α : Type} (self : Perform) (message : String → String) (args : List String) :
    Work α := do
  let dirs := (searchDirs (← get)).getD "/bin:/usr/bin"
  let e ← becomeNamed self (some dirs) args
  fail (if isAbsent e then 127 else 126) (message (quoted (args.head?.getD "")) ++ ": " ++ reason e)

/-! ## `env` and `printenv` -/

/-- Variables as lines. -/
def environmentText (ending : String) (s : Session) : String :=
  String.join (s.environment.reverse.map fun v => v.name ++ "=" ++ v.value.getD "" ++ ending)

/-- The words of a text, which may be quoted. -/
def splitWords : Nat → List Char → List Char → Bool → List String → List String
  | 0, _, _, _, found => found.reverse
  | steps + 1, cs, word, inWord, found =>
    let done := if inWord then String.ofList word.reverse :: found else found
    match cs with
    | [] => done.reverse
    | '\'' :: rest =>
      let text := rest.takeWhile (· ≠ '\'')
      splitWords steps (rest.drop (text.length + 1)) (text.reverse ++ word) true found
    | '"' :: rest =>
      let text := rest.takeWhile (· ≠ '"')
      splitWords steps (rest.drop (text.length + 1)) (text.reverse ++ word) true found
    | '\\' :: c :: rest => splitWords steps rest (c :: word) true found
    | c :: rest =>
      if c = ' ' || c = '\t' || c = '\n' then splitWords steps rest [] false done
      else splitWords steps rest (c :: word) true found

/-- The arguments of `env`, in which a text may stand for several of them. -/
def splitArgs : List String → List String
  | [] => []
  | "-S" :: text :: rest => splitWords (text.length + 1) text.toList [] false [] ++ rest
  | arg :: rest =>
    let parts := fun (text : List Char) =>
      splitWords (text.length + 1) text [] false [] ++ rest
    match arg.toList with
    | '-' :: 'S' :: text => parts text
    | '-' :: 'v' :: 'S' :: text => parts text
    | '-' :: '-' :: 's' :: 'p' :: 'l' :: 'i' :: 't' :: '-' :: 's' :: 't' :: 'r' :: 'i' :: 'n' :: 'g'
        :: '=' :: text => parts text
    | '-' :: _ => arg :: splitArgs rest
    | _ => arg :: rest

/-- Shows the variables, or runs a program with others. -/
def env (self : Perform) : Work Unit := do
  modify fun s => { s with args := splitArgs s.args }
  let p ← parsed 125
    ⟨"C:iS:u:v0",
      [("ignore-environment", 'i', .none), ("unset", 'u', .required), ("null", '0', .none),
        ("chdir", 'C', .required), ("split-string", 'S', .required), ("debug", 'v', .none),
        ("ignore-signal", 'I', .optional), ("default-signal", 'D', .optional),
        ("block-signal", 'B', .optional)], true⟩
  let (dash, rest) := match p.operands with
    | "-" :: rest => (true, rest)
    | rest => (false, rest)
  if p.has 'i' || dash then modify fun s => { s with vars := [] }
  for name in p.values 'u' do
    modify (Session.dropVar name)
  let isAssignment := fun (a : String) => a.toList.contains '='
  for a in rest.takeWhile isAssignment do
    let name := String.ofList (a.toList.takeWhile (· ≠ '='))
    let value := String.ofList (a.toList.drop (name.length + 1))
    modify fun s =>
      if (s.var? name).isSome then
        { s with vars := s.vars.map fun v => if v.name = name then ⟨name, some value, true, false⟩ else v }
      else s.putVar ⟨name, some value, true, false⟩
  match p.value? 'C' with
  | none => pure ()
  | some dir =>
    let s ← get
    let t ← System.tree
    match t.locate s.cwd (Shell.pathOf dir) with
    | .ok l =>
      if t.isDirAt l then modify fun s => { s with cwd := l }
      else fail 125 ("cannot change directory to " ++ quoted dir ++ ": Not a directory")
    | .error e => fail 125 ("cannot change directory to " ++ quoted dir ++ ": " ++ reason e)
  match rest.dropWhile isAssignment with
  | [] => print (environmentText (if p.has '0' then "\x00" else "\n") (← get))
  | args => runOther self id args

/-- Shows variables. -/
def printenv : Work Unit := do
  let p ← parsed 2 ⟨"0", [("null", '0', .none)], true⟩
  let ending := if p.has '0' then "\x00" else "\n"
  let s ← get
  if p.operands.isEmpty then print (environmentText ending s)
  else
    for name in p.operands do
      match (s.var? name).bind (·.value) with
      | some value => print (value ++ ending)
      | none => setStatus 1

/-! ## Programs under conditions -/

/-- The number of a signal. -/
def signalNumberOf? (text : String) : Option Nat :=
  let cs := text.toList
  if !cs.isEmpty && cs.all Char.isDigit then
    let n := numberOf 10 cs
    if n ≤ 64 then some n else none
  else
    let name := String.ofList (cs.map Char.toUpper)
    let name := if Text.hasStart "SIG" name then name else "SIG" ++ name
    (signalNames.find? fun e => e.2 = name).map (·.1)

/-- Waits for a program, and sends it a signal each time that a timer ends, from now on one
that cannot be ignored. The result is how it ended, and which signal was sent first. -/
def awaitWithin (pid : Nat) (signal : Nat) (after : Option Nat) :
    Nat → Nat → Option Nat → Work (Status × Option Nat)
  | 0, _, sent => return (.exited 0, sent)
  | rounds + 1, timer, sent => do
    match ← System.wait false with
    | .ended p status =>
      if p = pid then
        if timer > 0 then
          let _ ← System.signal timer 9
        return (status, sent)
      else if p = timer then
        let n := if sent.isSome then 9 else signal
        let _ ← System.signal pid n
        if n = 9 then
          let _ ← System.signal 0 9
        else
          System.react n .ignore
          let _ ← System.signal 0 n
          let _ ← System.signal 0 18
        match after, sent with
        | some ms, none => do
          let timer ← fork do System.sleep ms
          awaitWithin pid signal after rounds timer (some signal)
        | _, _ => awaitWithin pid signal after rounds 0 (sent <|> some n)
      else awaitWithin pid signal after rounds timer sent
    | .nobody => return (.exited 0, sent)
    | .interrupted => awaitWithin pid signal after rounds timer sent

/-- Runs a program for a limited time. -/
def timeout (self : Perform) : Work Unit := do
  let p ← parsed 125
    ⟨"k:s:vfp",
      [("kill-after", 'k', .required), ("signal", 's', .required), ("verbose", 'v', .none),
        ("foreground", 'f', .none), ("preserve-status", 'p', .none)], true⟩
  let time := fun (text : String) => (show Work Nat from do
    if isEndless text then return 0
    else match millisecondsOf text with
      | some ms => return ms
      | none => misuse 125 ("invalid time interval " ++ quoted text))
  let after ← match p.value? 'k' with
    | none => pure none
    | some text => do pure (some (← time text))
  let signal ← match p.value? 's' with
    | none => pure 15
    | some text =>
      match signalNumberOf? text with
      | some n => pure n
      | none => misuse 125 (quoted text ++ ": invalid signal")
  match p.operands with
  | [] | [_] => do
    hint
    quit 125
  | duration :: args => do
    let ms ← time duration
    if !p.has 'f' then System.newGroup
    let pid ← fork (runOther self (fun name => "failed to run command " ++ name) args)
    let timer ← if ms = 0 then pure 0 else fork do System.sleep ms
    let (status, sent) ← awaitWithin pid signal after manyRounds timer none
    match sent, status with
    | none, .exited n => quit n
    | none, .signaled n => do
      System.react n .default
      let _ ← System.signal (← get).pid n
      quit (128 + n)
    | some _, status =>
      let killed := decide (status = .signaled 9)
      quit (if p.has 'p' || killed then Shell.statusNumber status else 124)

/-- Runs a program that does not end when its user leaves. -/
def nohup (self : Perform) : Work Unit := do
  let p ← parsed 125 ⟨"", [], true⟩
  if p.operands.isEmpty then misuse 125 "missing operand"
  System.react 1 .ignore
  runOther self (fun name => "failed to run command " ++ name) p.operands

/-- Runs a program that is to be nice to others. -/
def nice (self : Perform) : Work Unit := do
  modify fun s => { s with args := match s.args with
    | arg :: rest => match arg.toList with
      | '-' :: d :: _ => if d.isDigit then ("-n" ++ String.ofList arg.toList.tail) :: rest else arg :: rest
      | _ => arg :: rest
    | [] => [] }
  let p ← parsed 125 ⟨"n:", [("adjustment", 'n', .required)], true⟩
  match p.value? 'n' with
  | some text =>
    if (Shell.intOf? false text).isNone then fail 125 ("invalid adjustment " ++ quoted text)
  | none => pure ()
  if p.operands.isEmpty then
    if p.has 'n' then misuse 125 "a command must be given with an adjustment" else print "0\n"
  else runOther self id p.operands

/-- Runs a program in a session of its own. -/
def setsid (self : Perform) : Work Unit := do
  let p ← parsed 1
    ⟨"cfw", [("wait", 'w', .none), ("fork", 'f', .none), ("ctty", 'c', .none)], true⟩
  if p.operands.isEmpty then
    warn "no command specified"
    quit 1
  System.newGroup
  runOther self (fun name => "failed to execute " ++ String.ofList (name.toList.drop 1).dropLast)
    p.operands

end CrateGraph.Tool
