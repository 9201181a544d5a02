import CrateGraph.Text.Regex
import CrateGraph.Tool.Lines

/-!
# Editing lines

`sed`, which runs a script of its own for each line that it reads. A script is a list of
commands, each for the lines that its addresses say, and what is between braces is skipped
as a whole.
-/

namespace CrateGraph.Tool

open Shell (Work Session Opening complain setStatus openPath manyRounds numberOf)
open Text (Regex)

/-- Lines that a command is for. -/
inductive Address where
  | line (n : Nat)
  | step (first step : Nat)
  | last
  /-- A pattern; without one, the last one that was used. -/
  | regex (r : Option Regex)
  /-- So many lines after the first one, or up to a multiple. -/
  | plus (n : Nat)
  | multiple (n : Nat)

/-- What is put in the place of a part of a line. -/
inductive Replacement where
  | char (c : Char)
  | group (n : Nat)
  /-- How the case of what follows is changed: of all of it, or of its first character. -/
  | case (upper : Option Bool) (one : Bool)

/-- How a part of a line is replaced. -/
structure Substitution where
  regex : Option Regex
  anyCase : Bool
  replacement : List Replacement
  all : Bool
  number : Nat
  print : Bool
  file : Option String

/-- What a command does. -/
inductive Edit where
  | open (stop : Nat)
  | close
  | substitute (s : Substitution)
  | translate (pairs : List (Char × Char))
  | append (text : String)
  | insert (text : String)
  | change (text : String)
  | label (name : String)
  | branch (kind : Char) (name : String)
  | read (file : String)
  | write (file : String)
  | quit (now : Bool) (status : Nat)
  /-- A command that is its letter alone. -/
  | plain (c : Char)

/-- A command of a script. -/
structure EditCommand where
  first : Option Address
  second : Option Address
  negated : Bool
  edit : Edit

/-! ## Reading scripts -/

/-- The text up to a delimiter, in which one after a backslash stands for itself, and the
rest. -/
def readDelimited (delimiter : Char) (regex : Bool) :
    Nat → Bool → List Char → List Char → Option (List Char × List Char)
  | 0, _, _, _ => none
  | steps + 1, bracket, acc, cs =>
    match cs with
    | [] => none
    | '\\' :: c :: rest =>
      if bracket then readDelimited delimiter regex steps bracket ('\\' :: acc) (c :: rest)
      else if c = delimiter then
        let kept := if regex && ['*', '.', '[', ']', '^', '$', '+', '?', '(', ')', '|'].contains c
          then [c, '\\'] else [c]
        readDelimited delimiter regex steps bracket (kept ++ acc) rest
      else if c = '\n' && regex then readDelimited delimiter regex steps bracket (c :: acc) rest
      else readDelimited delimiter regex steps bracket (c :: '\\' :: acc) rest
    | c :: rest =>
      if c = delimiter && !bracket then some (acc.reverse, rest)
      else if regex && c = '[' && !bracket then
        let start := match rest with
          | '^' :: ']' :: _ => 2
          | ']' :: _ => 1
          | '^' :: _ => 1
          | _ => 0
        readDelimited delimiter regex steps true ((rest.take start).reverse ++ c :: acc)
          (rest.drop start)
      else readDelimited delimiter regex steps (bracket && c ≠ ']') (c :: acc) rest

/-- The parts of a replacement. -/
def readReplacement : List Char → List Replacement
  | [] => []
  | '&' :: cs => .group 0 :: readReplacement cs
  | '\\' :: c :: cs =>
    if c.isDigit then .group (c.toNat - '0'.toNat) :: readReplacement cs
    else (match c with
      | 'n' => .char '\n'
      | 't' => .char '\t'
      | 'U' => .case (some true) false
      | 'L' => .case (some false) false
      | 'E' => .case none false
      | 'u' => .case (some true) true
      | 'l' => .case (some false) true
      | c => .char c) :: readReplacement cs
  | c :: cs => .char c :: readReplacement cs

/-- What is wrong with a script, and at which of its characters. -/
structure ScriptFault where
  message : String
  rest : Nat

/-- What is read of a script. -/
abbrev ScriptReading (α : Type) := List Char → Except ScriptFault (α × List Char)

/-- A pattern of a script. -/
def patternOf (extended anyCase : Bool) (text : List Char) (rest : Nat) :
    Except ScriptFault (Option Regex) :=
  if text.isEmpty then .ok none
  else match Regex.read ⟨extended, anyCase⟩ (String.ofList text) with
    | .ok (r, _) => .ok (some r)
    | .error e => .error ⟨e.message, rest⟩

/-- The address at the start of a script, if there is one. -/
def readAddress (extended : Bool) : ScriptReading (Option Address) := fun cs =>
  match cs with
  | '$' :: rest => .ok (some .last, rest)
  | '+' :: rest =>
    let digits := rest.takeWhile Char.isDigit
    .ok (some (.plus (numberOf 10 digits)), rest.drop digits.length)
  | '~' :: rest =>
    let digits := rest.takeWhile Char.isDigit
    .ok (some (.multiple (numberOf 10 digits)), rest.drop digits.length)
  | c :: rest =>
    if c.isDigit then
      let digits := cs.takeWhile Char.isDigit
      match cs.drop digits.length with
      | '~' :: more =>
        let step := more.takeWhile Char.isDigit
        .ok (some (.step (numberOf 10 digits) (numberOf 10 step)), more.drop step.length)
      | after => .ok (some (.line (numberOf 10 digits)), after)
    else if c = '/' || c = '\\' then do
      let (delimiter, body) := if c = '/' then ('/', rest)
        else (rest.head?.getD '/', rest.tail)
      match readDelimited delimiter true (body.length + 1) false [] body with
      | none => throw ⟨"unterminated address regex", 0⟩
      | some (text, after) =>
        let anyCase := after.head? = some 'I'
        let r ← patternOf extended anyCase text after.length
        return (some (.regex r), if anyCase then after.tail else after)
    else .ok (none, cs)
  | [] => .ok (none, [])

/-- A text without the blanks at its start. -/
def dropSpaces (cs : List Char) : List Char := cs.dropWhile fun c => c = ' ' || c = '\t'

/-- The text of a command that has one, and the rest. Lines are joined by a backslash. -/
def readText : Nat → List Char → List Char → String × List Char
  | 0, acc, cs => (String.ofList acc.reverse, cs)
  | steps + 1, acc, cs =>
    match cs with
    | [] => (String.ofList acc.reverse, [])
    | '\\' :: c :: rest => readText steps (c :: acc) rest
    | '\n' :: rest => (String.ofList acc.reverse, rest)
    | c :: rest => readText steps (c :: acc) rest

/-- The options of a substitution, and the rest. -/
def readFlags : Nat → Substitution → ScriptReading Substitution
  | 0, s => fun cs => .ok (s, cs)
  | steps + 1, s => fun cs =>
    match cs with
    | 'g' :: rest => readFlags steps { s with all := true } rest
    | 'p' :: rest => readFlags steps { s with print := true } rest
    | 'i' :: rest | 'I' :: rest => readFlags steps { s with anyCase := true } rest
    | 'm' :: rest | 'M' :: rest => readFlags steps s rest
    | 'w' :: rest =>
      let name := (dropSpaces rest).takeWhile (· ≠ '\n')
      .ok ({ s with file := some (String.ofList name) }, (dropSpaces rest).drop name.length)
    | c :: rest =>
      if c.isDigit then
        let digits := cs.takeWhile Char.isDigit
        if numberOf 10 digits = 0 then
          .error ⟨"number option to `s' command may not be zero", (cs.drop digits.length).length⟩
        else readFlags steps { s with number := numberOf 10 digits } (cs.drop digits.length)
      else if [' ', '\t', '\n', ';', '\x7d', '#'].contains c then .ok (s, cs)
      else .error ⟨"unknown option to `s'", rest.length⟩
    | [] => .ok (s, [])

/-- A command without its addresses, and the rest. -/
def readEdit (extended : Bool) : ScriptReading Edit := fun cs =>
  match cs with
  | [] => .error ⟨"missing command", 0⟩
  | c :: rest =>
    let word := fun (rest : List Char) =>
      let text := (dropSpaces rest).takeWhile fun x => x ≠ '\n' && x ≠ ';'
      let name := (text.reverse.dropWhile fun x => x = ' ' || x = '\t').reverse
      (String.ofList name, (dropSpaces rest).drop text.length)
    let file := fun (rest : List Char) =>
      let text := (dropSpaces rest).takeWhile (· ≠ '\n')
      (String.ofList text, (dropSpaces rest).drop text.length)
    match c with
    | '\x7b' => .ok (.open 0, rest)
    | '\x7d' => .ok (.close, rest)
    | 's' =>
      match rest with
      | [] => .error ⟨"unterminated `s' command", 0⟩
      | d :: body =>
        match readDelimited d true (body.length + 1) false [] body with
        | none => .error ⟨"unterminated `s' command", 0⟩
        | some (pattern, body) =>
          match readDelimited d false (body.length + 1) false [] body with
          | none => .error ⟨"unterminated `s' command", 0⟩
          | some (replacement, after) => do
            let start : Substitution :=
              ⟨none, false, readReplacement replacement, false, 1, false, none⟩
            let (s, after) ← readFlags (after.length + 1) start after
            let r ← patternOf extended s.anyCase pattern after.length
            return (.substitute { s with regex := r }, after)
    | 'y' =>
      match rest with
      | [] => .error ⟨"unterminated `y' command", 0⟩
      | d :: body =>
        let plain := fun (cs : List Char) => (readReplacement (cs.map fun c => c)).filterMap fun r =>
          match r with
          | .char c => some c
          | .group 0 => some '&'
          | _ => none
        match readDelimited d false (body.length + 1) false [] body with
        | none => .error ⟨"unterminated `y' command", 0⟩
        | some (a, body) =>
          match readDelimited d false (body.length + 1) false [] body with
          | none => .error ⟨"unterminated `y' command", 0⟩
          | some (b, after) =>
            let (a, b) := (plain a, plain b)
            if a.length ≠ b.length then
              .error ⟨"strings for `y' command are different lengths", after.length⟩
            else .ok (.translate (a.zip b), after)
    | 'a' | 'i' | 'c' =>
      let make := fun (text : String) => match c with
        | 'a' => Edit.append text
        | 'i' => .insert text
        | _ => .change text
      let body := dropSpaces rest
      let body := match body with
        | '\\' :: more =>
          match dropSpaces more with
          | '\n' :: text => text
          | _ => dropSpaces more
        | _ => body
      if body.isEmpty then .error ⟨"expected \\ after `a', `c' or `i'", 0⟩
      else
        let (text, after) := readText (body.length + 1) [] body
        .ok (make text, after)
    | ':' =>
      let (name, after) := word rest
      if name = "" then .error ⟨"\":\" lacks a label", after.length⟩ else .ok (.label name, after)
    | 'b' | 't' | 'T' =>
      let text := (dropSpaces rest).takeWhile fun x => x ≠ '\n' && x ≠ ';' && x ≠ '\x7d'
      let name := (text.reverse.dropWhile fun x => x = ' ').reverse
      .ok (.branch c (String.ofList name), (dropSpaces rest).drop text.length)
    | 'r' =>
      let (name, after) := file rest
      .ok (.read name, after)
    | 'w' =>
      let (name, after) := file rest
      .ok (.write name, after)
    | 'q' | 'Q' =>
      let digits := (dropSpaces rest).takeWhile Char.isDigit
      .ok (.quit (c = 'Q') (numberOf 10 digits), (dropSpaces rest).drop digits.length)
    | c =>
      if ['d', 'D', 'g', 'G', 'h', 'H', 'l', 'n', 'N', 'p', 'P', 'x', '=', 'z', 'F'].contains c then
        .ok (.plain c, rest)
      else .error ⟨"unknown command: `" ++ c.toString ++ "'", rest.length⟩

/-- The commands of a script. `steps` bounds its characters. -/
def readScript (extended : Bool) : Nat → List Char → Except ScriptFault (List EditCommand)
  | 0, _ => .ok []
  | steps + 1, cs => do
    match cs.dropWhile fun c => c = ' ' || c = '\t' || c = '\n' || c = ';' with
    | [] => return []
    | '#' :: rest => readScript extended steps (rest.dropWhile (· ≠ '\n'))
    | cs =>
      let (first, cs) ← readAddress extended cs
      let (second, cs) ← match first, dropSpaces cs with
        | some _, ',' :: more => do
          let (second, after) ← readAddress extended (dropSpaces more)
          if second.isNone then throw ⟨"unexpected `,'", more.length⟩
          pure (second, after)
        | _, cs => pure (none, cs)
      let (negated, cs) := match dropSpaces cs with
        | '!' :: more => (true, dropSpaces (more.dropWhile (· = '!')))
        | cs => (false, cs)
      let (edit, rest) ← readEdit extended cs
      let after := dropSpaces rest
      let joined := match edit with
        | .open _ | .close => true
        | _ => false
      match after.head? with
      | none | some '\n' | some ';' | some '#' | some '\x7d' => pure ()
      | some _ =>
        let hasText := match edit with
          | .append _ | .insert _ | .change _ | .label _ | .read _ | .write _ => true
          | _ => false
        if !joined && !hasText then throw ⟨"extra characters after command", after.length - 1⟩
      return ⟨first, second, negated, edit⟩ :: (← readScript extended steps rest)

/-- The commands in which each opening brace knows where its closing one is. -/
def matchBraces : Nat → List Nat → List EditCommand → Except ScriptFault (List (Nat × Nat))
  | _, [], [] => .ok []
  | _, _ :: _, [] => .error ⟨"unmatched `\x7b'", 0⟩
  | i, stack, c :: cs =>
    match c.edit, stack with
    | .open _, _ => matchBraces (i + 1) (i :: stack) cs
    | .close, j :: stack => (matchBraces (i + 1) stack cs).map ((j, i) :: ·)
    | .close, [] => .error ⟨"unexpected `\x7d'", 0⟩
    | _, _ => matchBraces (i + 1) stack cs

/-! ## Running scripts -/

/-- What `sed` knows while it runs. -/
structure Editor where
  /-- The lines that have not been read yet, and whether the last one has an end. -/
  rest : List Bytes
  ended : Bool
  number : Nat
  pattern : String
  hold : String
  /-- What is written after the line. -/
  queue : List Bytes
  substituted : Bool
  lastRegex : Option (Regex × Bool)
  /-- The commands whose ranges are being read, with the line that ends each if it is
  known. -/
  ranges : List (Nat × Option Nat)
  output : List Bytes
  files : List (String × List Bytes)
  finished : Bool
  status : Nat

/-- What happens after a command. -/
inductive Then where
  | next
  | jump (i : Nat)
  /-- The script is over, and the line is printed if that is usual. -/
  | done
  /-- The script is over, and nothing is printed. -/
  | drop
  /-- The script begins again without reading a line. -/
  | again

/-- How `sed` was asked to work. -/
structure EditSettings where
  extended : Bool
  quiet : Bool
  commands : Array EditCommand
  braces : List (Nat × Nat)

/-- A state of the editor. -/
abbrev Editing := StateM Editor

/-- Writes a line. -/
def putLine (line : String) : Editing Unit :=
  modify fun e =>
    let isLast := e.rest.isEmpty && !e.ended
    { e with output := (Text.unraw line ++ if isLast then [] else [10]) :: e.output }

/-- Writes a text. -/
def putText (text : Bytes) : Editing Unit := modify fun e => { e with output := text :: e.output }

/-- Whether a line is the last one. -/
def atLast (e : Editor) : Bool := e.rest.isEmpty

/-- Whether an expression is like a part of a text; it is remembered. -/
def isLike (x : EditSettings) (r : Option Regex) : Editing Bool := do
  let e ← get
  let (regex, anyCase) := match r with
    | some r => (some r, false)
    | none => (e.lastRegex.map (·.1), (e.lastRegex.map (·.2)).getD false)
  match regex with
  | none => return false
  | some regex =>
    set { e with lastRegex := some (regex, anyCase) }
    return (Regex.find? ⟨x.extended, anyCase⟩ regex e.pattern.toList.toArray 0).isSome

/-- The files that are written, with a line added to one of them. -/
def addTo (file : String) (line : Bytes) (files : List (String × List Bytes)) :
    List (String × List Bytes) :=
  files.map fun f => if f.1 = file then (file, line :: f.2) else f

/-- Whether a single address is that of the line. -/
def isAt (x : EditSettings) : Address → Editing Bool
  | .line n => return (← get).number = n
  | .step first step => do
    let n := (← get).number
    return if step = 0 then n = first else n ≥ first && (n - first) % step = 0
  | .last => return atLast (← get)
  | .regex r => isLike x r
  | .plus _ | .multiple _ => return false

/-- Whether a command is for the line. -/
def applies (x : EditSettings) (i : Nat) (c : EditCommand) : Editing Bool := do
  let inRange ← match c.first, c.second with
    | none, _ => pure true
    | some a, none => isAt x a
    | some a, some b => do
      let e ← get
      let leave : Editing Unit := modify fun e => { e with ranges := e.ranges.filter (·.1 ≠ i) }
      match e.ranges.lookup i with
      | some stop => do
        match b, stop with
        | .regex r, _ => if ← isLike x r then leave
        | .last, _ => if atLast e then leave
        | _, some n => if e.number ≥ n then leave
        | _, none => leave
        match stop with
        | some n =>
          if e.number > n then
            isAt x a
          else pure true
        | none => pure true
      | none =>
        if ← isAt x a then
          let n := e.number
          let stop : Option (Option Nat) := match b with
            | .line m => if m > n then some (some m) else none
            | .plus k => if k = 0 then none else some (some (n + k))
            | .multiple k => if k = 0 || n % k = 0 then none else some (some (n + (k - n % k)))
            | .last => if atLast e then none else some none
            | _ => some none
          match stop with
          | some s => modify fun e => { e with ranges := (i, s) :: e.ranges }
          | none => pure ()
          pure true
        else
          match a, b with
          | .line 0, .regex r => do
            if e.number = 1 && !(← isLike x r) then
              modify fun e => { e with ranges := (i, none) :: e.ranges }
            pure (e.number = 1)
          | _, _ => pure false
  return inRange != c.negated

/-- A text as a replacement changes its case. -/
def changeCase (mode : Option Bool) (cs : List Char) : List Char :=
  match mode with
  | some true => cs.map Char.toUpper
  | some false => cs.map Char.toLower
  | none => cs

/-- What is put in the place of a part. -/
def replacementText (text : Array Char) (m : Regex.Match) :
    Option Bool → Option Bool → List Replacement → List Char
  | _, _, [] => []
  | all, one, r :: rs =>
    let put := fun (cs : List Char) =>
      match changeCase all cs, one with
      | c :: cs, some _ => changeCase one [c] ++ cs ++ replacementText text m all none rs
      | [], _ => replacementText text m all one rs
      | cs, none => cs ++ replacementText text m all none rs
    match r with
    | .char c => put [c]
    | .group 0 => put (text.extract m.start m.stop).toList
    | .group n =>
      match m.groups.lookup n with
      | some (a, b) => put (text.extract a b).toList
      | none => put []
    | .case mode true => replacementText text m all mode rs
    | .case mode false => replacementText text m mode none rs

/-- A text in which parts are replaced, after what is done already, the last character
first; and whether any was. -/
def replaceFrom (d : Regex.Dialect) (r : Regex) (s : Substitution) (text : Array Char) :
    Nat → Nat → Nat → Bool → List Char → List Char × Bool
  | 0, _, i, any, acc => (acc.reverse ++ (text.extract i text.size).toList, any)
  | steps + 1, count, i, any, acc =>
    match if i > text.size then none else Regex.find? d r text i with
    | none => (acc.reverse ++ (text.extract i text.size).toList, any)
    | some m =>
      let before := (text.extract i m.start).toList.reverse ++ acc
      let chosen := count + 1 ≥ s.number && (s.all || count + 1 = s.number)
      let shown := if chosen then replacementText text m none none s.replacement
        else (text.extract m.start m.stop).toList
      let acc := shown.reverse ++ before
      let (next, acc) := if m.stop > m.start then (m.stop, acc)
        else (m.stop + 1, (text.extract m.stop (m.stop + 1)).toList.reverse ++ acc)
      if chosen && !s.all then
        (acc.reverse ++ (text.extract next text.size).toList, true)
      else replaceFrom d r s text steps (count + 1) next (any || chosen) acc

/-- A line in a form in which everything can be seen. -/
def visible (width : Nat) (s : String) : String :=
  let pieces := s.toList.map fun c => match c with
    | '\\' => ['\\', '\\']
    | c => if c.toNat < 32 || c.toNat ≥ 127 then escapeText c else [c]
  let step := fun (acc : List Char × Nat) (p : List Char) =>
    if width > 1 && acc.2 + p.length > width - 1 then
      (p.reverse ++ '\n' :: '\\' :: acc.1, p.length)
    else (p.reverse ++ acc.1, acc.2 + p.length)
  String.ofList (pieces.foldl step ([], 0)).1.reverse ++ "$"

/-- Writes what is written after the line. -/
def flushQueue : Editing Unit :=
  modify fun e =>
    let needsEnd := e.rest.isEmpty && !e.ended && !e.queue.isEmpty && !e.output.isEmpty
    { e with
      output := e.queue.reverse.reverse.reverse ++ (if needsEnd then [10] :: e.output else e.output)
      queue := [] }

/-- Reads the next line, if there is one. -/
def nextLine : Editing (Option String) := do
  let e ← get
  match e.rest with
  | [] => return none
  | l :: rest => do
    set { e with rest := rest, number := e.number + 1 }
    return some (Text.raw l)

/-- Prints the line if that is usual. -/
def autoPrint (x : EditSettings) : Editing Unit := do
  if !x.quiet then putLine (← get).pattern

/-- Runs a command for the line. -/
def runEdit (x : EditSettings) (c : EditCommand) (inRange : Bool) (contents : String → Option Bytes) :
    Editing Then := do
  let e ← get
  match c.edit with
  | .open _ | .close | .label _ => return .next
  | .substitute s => do
    let (regex, anyCase) : Option Regex × Bool := match s.regex with
      | some r => (some r, s.anyCase)
      | none => (e.lastRegex.map Prod.fst, (e.lastRegex.map Prod.snd).getD false)
    match regex with
    | none => return .next
    | some r =>
      let text := e.pattern.toList.toArray
      let (cs, any) := replaceFrom ⟨x.extended, anyCase⟩ r s text (text.size + 2) 0 0 false []
      set { e with
        lastRegex := some (r, anyCase)
        pattern := if any then String.ofList cs else e.pattern
        substituted := e.substituted || any }
      if any then
        if s.print then putLine (← get).pattern
        match s.file with
        | some file =>
          let line := Text.unraw ((← get).pattern ++ "\n")
          if file = "/dev/stdout" then putText line
          else modify fun e => { e with files := addTo file line e.files }
        | none => pure ()
      return .next
  | .translate pairs =>
    let text := e.pattern.toList.map fun c => (pairs.lookup c).getD c
    set { e with pattern := String.ofList text }
    return .next
  | .append text =>
    set { e with queue := e.queue ++ [Text.unraw (text ++ "\n")] }
    return .next
  | .insert text => do
    putText (Text.unraw (text ++ "\n"))
    return .next
  | .change text => do
    if !inRange then putText (Text.unraw (text ++ "\n"))
    return .drop
  | .branch kind name => do
    let jumps := match kind with
      | 'b' => true
      | 't' => e.substituted
      | _ => !e.substituted
    if kind ≠ 'b' then set { e with substituted := false }
    if jumps then
      if name = "" then return .done
      else
        let place := x.commands.findIdx? fun c => match c.edit with
          | .label l => l = name
          | _ => false
        return match place with
          | some i => .jump i
          | none => .done
    else return .next
  | .read file =>
    match contents file with
    | some bytes => set ({ e with queue := e.queue ++ [bytes] } : Editor)
    | none => pure ()
    return .next
  | .write file => do
    let line := Text.unraw (e.pattern ++ "\n")
    if file = "/dev/stdout" then putText line
    else set { e with files := addTo file line e.files }
    return .next
  | .quit now status => do
    if !now then
      autoPrint x
      flushQueue
    modify fun e => { e with finished := true, status := status }
    return .drop
  | .plain c => do
    match c with
    | 'd' => return .drop
    | 'D' =>
      match e.pattern.toList.dropWhile (· ≠ '\n') with
      | _ :: rest => do
        set { e with pattern := String.ofList rest }
        return .again
      | [] => return .drop
    | 'g' => set { e with pattern := e.hold }
    | 'G' => set { e with pattern := e.pattern ++ "\n" ++ e.hold }
    | 'h' => set { e with hold := e.pattern }
    | 'H' => set { e with hold := e.hold ++ "\n" ++ e.pattern }
    | 'x' => set { e with pattern := e.hold, hold := e.pattern }
    | 'z' => set { e with pattern := "" }
    | '=' => putText (Text.toBytes (toString e.number ++ "\n"))
    | 'l' => putText (Text.unraw (visible 70 e.pattern ++ "\n"))
    | 'F' => putText (Text.toBytes "-\n")
    | 'p' => putLine e.pattern
    | 'P' => putText (Text.unraw (String.ofList (e.pattern.toList.takeWhile (· ≠ '\n')) ++ "\n"))
    | 'n' =>
      if e.rest.isEmpty then
        autoPrint x
        modify fun e => { e with finished := true }
        return .drop
      else
        autoPrint x
        flushQueue
        match ← nextLine with
        | some l => modify fun e => { e with pattern := l }
        | none => pure ()
    | 'N' =>
      if e.rest.isEmpty then
        autoPrint x
        modify fun e => { e with finished := true }
        return .drop
      else
        flushQueue
        match ← nextLine with
        | some l => modify fun e => { e with pattern := e.pattern ++ "\n" ++ l }
        | none => pure ()
    | _ => pure ()
    return .next

/-- Runs the commands of a script from one on. `steps` bounds them. -/
def runEdits (x : EditSettings) (contents : String → Option Bytes) : Nat → Nat → Editing Then
  | 0, _ => return .done
  | steps + 1, i => do
    match x.commands[i]? with
    | none => return .done
    | some c =>
      if ← applies x i c then
        let inside := c.second.isSome && !c.negated && ((← get).ranges.lookup i).isSome
        match ← runEdit x c inside contents with
        | .next => runEdits x contents steps (i + 1)
        | .jump j => runEdits x contents steps j
        | other => return other
      else
        let next := match c.edit with
          | .open _ => ((x.braces.lookup i).getD i) + 1
          | _ => i + 1
        runEdits x contents steps next

/-- Runs the script for each line. `steps` bounds the lines. -/
def runLines (x : EditSettings) (contents : String → Option Bytes) : Nat → Bool → Editing Unit
  | 0, _ => return ()
  | steps + 1, again => do
    let line ← if again then do pure (some (← get).pattern) else nextLine
    match line with
    | none => return ()
    | some l => do
      modify fun e => { e with pattern := l, substituted := false }
      let result ← runEdits x contents 1000000 0
      match result with
      | .done | .next | .jump _ => autoPrint x
      | _ => pure ()
      flushQueue
      if (← get).finished then return ()
      else
        runLines x contents steps (match result with
          | .again => true
          | _ => false)

/-- What comes of a script for bytes that may not be all there is; nothing if it wants more
lines. -/
def editSome (x : EditSettings) (contents : String → Option Bytes) (start : Editor)
    (bytes : Bytes) (all : Bool) : Option Editor :=
  let (lines, ended) := linesOf bytes
  let lines := if all || ended then lines else lines.dropLast
  let (_, e) := (runLines x contents (lines.length * 2 + 2) false).run
    { start with rest := lines, ended := ended || !all }
  if all || (e.finished && !e.rest.isEmpty) then some e else none

/-- Reads until the script has no use for more, in steps of which each reads more than the
one before. -/
def editStream (x : EditSettings) (contents : String → Option Bytes) (start : Editor)
    (fd : Nat) : Nat → Nat → Bytes → Work (Except FileError (Bytes × Option Editor))
  | 0, _, bytes => return .ok (bytes, none)
  | rounds + 1, size, bytes => do
    match ← Shell.readUpTo fd size manyRounds 0 [] with
    | .error e => return .error e
    | .ok (more, atEnd) =>
      let bytes := bytes ++ more
      if atEnd then return .ok (bytes, none)
      else if bytes.length > Shell.mostRead then Shell.stall
      else match editSome x contents start bytes false with
        | some e => return .ok (bytes, some e)
        | none => editStream x contents start fd rounds (size * 4) bytes

/-- Runs the script for the lines of files. It may come to an end before they have all been
read, if it `quits`. -/
def editFiles (x : EditSettings) (contents : String → Option Bytes) (start : Editor)
    (quits : Bool) (closed : String → FileError → Work Unit) (files : List String) :
    Work Editor := do
  let rec go : List String → Bytes → Work Editor
    | [], bytes => return (editSome x contents start bytes true).getD start
    | file :: files, bytes => do
      let opened ← if file = "-" then pure (.ok ()) else openPath fileStream file .read
      match opened with
      | .error e => do
        closed file e
        go files bytes
      | .ok () => do
        let before := if bytes.isEmpty || bytes.getLast? = some 10 then bytes else bytes ++ [10]
        let fd := if file = "-" then 0 else fileStream
        let result ← if quits then editStream x contents start fd 40 8192 before
          else do
            match ← Shell.readAll fd with
            | .ok more => pure (.ok (before ++ more, none))
            | .error e => pure (.error e)
        if file ≠ "-" then System.detach fileStream
        match result with
        | .ok (_, some e) => return e
        | .ok (bytes, none) => go files bytes
        | .error e => do
          setStatus 2
          if e = .isDirectory then warn ("couldn't read " ++ file ++ ": " ++ reason e)
          else warn ("read error on " ++ file ++ ": " ++ reason e)
          go files before
  go files []

/-- Edits lines. -/
def sed : Work Unit := do
  let p ← parsed 1
    ⟨"bsnrzuEe:f:l:i::V:",
      [("quiet", 'n', .none), ("silent", 'n', .none), ("expression", 'e', .required),
        ("file", 'f', .required), ("regexp-extended", 'E', .none), ("in-place", 'i', .optional),
        ("separate", 's', .none), ("null-data", 'z', .none), ("unbuffered", 'u', .none)], false⟩
  let fromFiles ← (p.values 'f').mapM fun file => do
    match ← openPath fileStream file .read with
    | .ok () => do
      let bytes ← contentsOf fileStream fun _ => pure ()
      System.detach fileStream
      return Text.raw bytes
    | .error e => fail 1 ("couldn't open file " ++ file ++ ": " ++ reason e)
  let given := p.values 'e' ++ fromFiles
  let (texts, files) := if given.isEmpty then (p.operands.take 1, p.operands.drop 1)
    else (given, p.operands)
  if texts.isEmpty then
    complain "Usage: sed [OPTION]... \x7bscript-only-if-no-other-script\x7d [input-file]...\n"
    quit 1
  let script := String.intercalate "\n" texts
  let extended := p.has 'E' || p.has 'r'
  let refuse := fun (e : ScriptFault) => (show Work (Array EditCommand × List (Nat × Nat)) from do
    warn ("-e expression #1, char " ++ toString (script.length - e.rest) ++ ": " ++ e.message)
    quit 1)
  let (commands, braces) ← match readScript extended (script.length + 1) script.toList with
    | .error e => refuse e
    | .ok cs =>
      match matchBraces 0 [] cs with
      | .error e => refuse e
      | .ok braces => pure (cs.toArray, braces)
  let x : EditSettings := ⟨extended, p.has 'n' || script.toList.take 3 = ['#', 'n', '\n'], commands, braces⟩
  let outputs := commands.toList.filterMap fun c => match c.edit with
    | .write f => some f
    | .substitute s => s.file
    | _ => none
  let s ← get
  let t ← System.tree
  let contents := fun (file : String) => (t.read s.cwd (Shell.pathOf file)).toOption
  let start : Editor :=
    ⟨[], true, 0, "", "", [], false, none, [], [], outputs.map (·, []), false, 0⟩
  let finish? := fun (e : Editor) => (show Work Unit from do
    for (file, lines) in e.files do
      if file ≠ "/dev/stdout" then
        match ← openPath fileStream file .write with
        | .ok () => do
          let _ ← System.write fileStream lines.reverse.flatten
          System.detach fileStream
        | .error er => fail 4 ("couldn't open file " ++ file ++ ": " ++ reason er)
    if e.status ≠ 0 then setStatus e.status)
  let closed := fun (file : String) (e : FileError) => (show Work Unit from do
    setStatus 2
    warn ("can't read " ++ file ++ ": " ++ reason e))
  if p.has 'i' || p.has 's' then
    forFiles closed (fun fd file => do
      let bytes ← contentsOf fd fun e => do
        setStatus 2
        warn ("couldn't edit " ++ file ++ ": " ++ reason e)
      let (lines, ended) := linesOf bytes
      let (_, e) := (runLines x contents (lines.length * 2 + 2) false).run
        { start with rest := lines, ended := ended }
      let out := e.output.reverse.flatten ++
        if e.finished then joinLines e.rest else []
      if p.has 'i' then
        match ← openPath (fileStream + 1) file .write with
        | .ok () => do
          let _ ← System.write (fileStream + 1) out
          System.detach (fileStream + 1)
        | .error e => warnFile file e
      else emit e.output.reverse.flatten
      finish? e) files
  else
    let quits := commands.toList.any fun c => match c.edit with
      | .quit _ _ => true
      | _ => false
    let result ← editFiles x contents start quits closed (orInput files)
    emit result.output.reverse.flatten
    finish? result

end CrateGraph.Tool
