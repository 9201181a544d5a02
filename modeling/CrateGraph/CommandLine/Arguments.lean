import CrateGraph.Path

/-!
# The arguments of the command line

Options may stand before the command and, if they are for every command, after it as well;
there they count before those in front. An option that takes a value has it after an equals
sign, right after its letter, or in the next argument, which must not look like an option
itself. No option may be given twice in one place, and no value may be empty.

Arguments are read from left to right, and the first that asks for help or that is wrong
decides. The value of an option, or an operand, is only looked at when the next option or the
end is reached.
-/

namespace CrateGraph.CommandLine

/-- What the program is asked to do. -/
inductive Command where
  | nodes
  | deps
  /-- Where the result is to be written, if not to the output. -/
  | sync (output : Option Path)
  | policy
  | check
  | completions (shell : String)
deriving DecidableEq, Repr

/-- The command, and the options that are for every command. -/
structure Options where
  verbose : Bool
  workspace : Option Path
  config : Option Path
  cargo : Option Path
  command : Command
deriving DecidableEq, Repr

/-- Why no command is run. -/
inductive Refusal where
  | help
  | version
  /-- The arguments are wrong. -/
  | usage
deriving DecidableEq, Repr

/-- An option. -/
inductive Flag where
  | verbose
  | workspace
  | config
  | cargo
  | output
  | help
  | version
deriving DecidableEq, Repr

namespace Flag

/-- Whether the option takes a value. -/
def takesValue : Flag → Bool
  | .workspace | .config | .cargo | .output => true
  | _ => false

/-- The long name. -/
def long : Flag → String
  | .verbose => "verbose"
  | .workspace => "workspace"
  | .config => "config"
  | .cargo => "cargo"
  | .output => "output"
  | .help => "help"
  | .version => "version"

/-- The letter, if there is one. -/
def letter? : Flag → Option Char
  | .verbose => some 'v'
  | .workspace => some 'w'
  | .output => some 'o'
  | .help => some 'h'
  | .version => some 'V'
  | _ => none

end Flag

/-- The options that are for every command. -/
def everywhere : List Flag := [.verbose, .workspace, .config, .cargo, .help]

/-- The names of the commands. -/
def commandNames : List String := ["nodes", "deps", "sync", "policy", "check", "completions"]

/-- The options that a command has, or those in front of any command. -/
def flagsOf : Option String → List Flag
  | none => .version :: everywhere
  | some name => if name = "sync" then .output :: everywhere else everywhere

/-- The shells that completions can be made for. -/
def shells : List String := ["bash", "elvish", "fish", "powershell", "zsh"]

/-- What was read in one place: in front of the command, or after it. -/
structure Reading where
  flags : List Flag
  verbose : Bool
  values : List (Flag × String)
  /-- An option of which the value is not looked at yet, or not even there. -/
  pending : Option (Flag × Option String)
  operand : Option String

namespace Reading

/-- Nothing was read. -/
def start (flags : List Flag) : Reading := ⟨flags, false, [], none, none⟩

/-- The value of an option. -/
def value? (r : Reading) (f : Flag) : Option Path := (r.values.lookup f).map Path.ofText

/-- Takes the value of an option. -/
def take (r : Reading) (f : Flag) (value : String) : Except Refusal Reading :=
  if value = "" || (r.values.lookup f).isSome then .error .usage
  else .ok { r with values := (f, value) :: r.values }

/-- Looks at what is pending, and at the operand, which must be the name of a shell. -/
def settle (r : Reading) : Except Refusal Reading :=
  if r.operand.any fun shell => !shells.contains shell then .error .usage
  else match r.pending with
    | none => .ok r
    | some (_, none) => .error .usage
    | some (f, some value) => { r with pending := none }.take f value

/-- Takes an option without value. -/
def raise (r : Reading) (f : Flag) : Except Refusal Reading := do
  let r ← r.settle
  match f with
  | .help => throw .help
  | .version => throw .version
  | _ => if r.verbose then throw .usage else return { r with verbose := true }

/-- Takes an option with the value that is attached to it, if there is one. -/
def option (r : Reading) (f : Flag) (attached : Option String) : Except Refusal Reading := do
  let r ← r.settle
  match attached with
  | some value => r.take f value
  | none => return { r with pending := some (f, none) }

/-- Reads an argument that starts with two dashes. -/
def readLong (r : Reading) (body : List Char) : Except Refusal Reading :=
  let name := String.ofList (body.takeWhile (· ≠ '='))
  let attached := match body.dropWhile (· ≠ '=') with
    | _ :: value => some (String.ofList value)
    | [] => none
  match r.flags.find? fun f => f.long = name with
  | none => .error .usage
  | some f =>
    if f.takesValue then r.option f attached
    else if attached.isSome then .error .usage
    else r.raise f

/-- Reads the letters after one dash. -/
def readLetters (r : Reading) : List Char → Except Refusal Reading
  | [] => .ok r
  | c :: rest =>
    match r.flags.find? fun f => f.letter? = some c with
    | none => .error .usage
    | some f =>
      if f.takesValue then
        match rest with
        | [] => r.option f none
        | '=' :: value => r.option f (some (String.ofList value))
        | value => r.option f (some (String.ofList value))
      else do (← r.raise f).readLetters rest

/-- Whether the next argument is the value of an option, unless it is an option itself. -/
def awaits (r : Reading) : Bool :=
  match r.pending with
  | some (_, none) => true
  | _ => false

/-- Reads an argument that is no option. Where one is waited for, it is a value. -/
def readPlain (r : Reading) (arg : String) : Except Refusal Reading :=
  match r.pending with
  | some (f, none) => .ok { r with pending := some (f, some arg) }
  | _ => if r.operand.isSome then .error .usage else .ok { r with operand := some arg }

end Reading

/-- What an argument is. -/
inductive Shape where
  /-- Two dashes alone, after which nothing is an option. -/
  | escape
  | long (body : List Char)
  | letters (cs : List Char)
  | plain

/-- What an argument is. -/
def shapeOf (arg : String) : Shape :=
  match arg.toList with
  | ['-', '-'] => .escape
  | '-' :: '-' :: body => .long body
  | '-' :: c :: cs => .letters (c :: cs)
  | _ => .plain

/-- Reads an operand, if the command takes one. -/
def readOperand (takesOne : Bool) (r : Reading) (arg : String) : Except Refusal Reading :=
  if r.awaits || takesOne then r.readPlain arg else .error .usage

/-- Reads the arguments after a command. -/
def readAfter (takesOne : Bool) : Bool → List String → Reading → Except Refusal Reading
  | _, [], r => r.settle
  | true, arg :: rest, r => do
    if takesOne && r.operand.isNone && !r.awaits then
      readAfter takesOne true rest { r with operand := some arg }
    else throw .usage
  | false, arg :: rest, r => do
    match shapeOf arg with
    | .escape => readAfter takesOne true rest r
    | .long body => readAfter takesOne false rest (← r.readLong body)
    | .letters cs => readAfter takesOne false rest (← r.readLetters cs)
    | .plain => readAfter takesOne false rest (← readOperand takesOne r arg)

/-- What a command and the arguments after it are. -/
def readCommand (name : String) (args : List String) : Except Refusal (Command × Reading) := do
  let r ← readAfter (name = "completions") false args (.start (flagsOf (some name)))
  match name with
  | "nodes" => return (.nodes, r)
  | "deps" => return (.deps, r)
  | "sync" => return (.sync (r.value? .output), r)
  | "policy" => return (.policy, r)
  | "check" => return (.check, r)
  | _ =>
    match r.operand with
    | some shell => return (.completions shell, r)
    | none => throw .usage

/-- The refusal of a request for help about commands: the help itself, if it is about one
that there is. -/
def refusalOfHelp : List String → Refusal
  | [] => .help
  | [name] => if name = "help" || commandNames.contains name then .help else .usage
  | _ => .usage

/-- The options of a command and of what stands in front of it. -/
def combine (front : Reading) (command : Command) (after : Reading) : Options where
  verbose := front.verbose || after.verbose
  workspace := after.value? .workspace <|> front.value? .workspace
  config := after.value? .config <|> front.value? .config
  cargo := after.value? .cargo <|> front.value? .cargo
  command := command

/-- Reads the arguments in front of a command, and then the command. -/
def readFront : List String → Reading → Except Refusal Options
  | [], _ => .error .usage
  | arg :: rest, r =>
    if r.awaits then
      match shapeOf arg with
      | .plain => do readFront rest (← r.readPlain arg)
      | _ => .error .usage
    else if arg = "help" then .error (refusalOfHelp rest)
    else if commandNames.contains arg then do
      let (command, after) ← readCommand arg rest
      return combine (← r.settle) command after
    else
      match shapeOf arg with
      | .long body => do readFront rest (← r.readLong body)
      | .letters cs => do readFront rest (← r.readLetters cs)
      | _ => .error .usage

/-- Reads the arguments of the program. -/
def parse (args : List String) : Except Refusal Options := readFront args (.start (flagsOf none))

end CrateGraph.CommandLine
