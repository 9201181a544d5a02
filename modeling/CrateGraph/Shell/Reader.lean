import CrateGraph.Shell.Command

/-!
# Reading scripts

A script is read one complete command at a time, since what a command does, such as giving
a word another meaning, matters for the next one. The reader goes through the characters:
it cuts them into tokens, and the tokens are grouped into commands. Both depend on each
other, because a word may hold a whole command.

What cannot be read is refused with the message that the shell gives.
-/

namespace CrateGraph.Shell

/-- A part of a script. -/
inductive Token where
  | ended
  | newline
  | op (s : String)
  | redirect (fd : Nat) (kind : RedirectKind) (tabs : Bool)
  | word (w : Word)
  /-- A word that has a meaning in the language. -/
  | name (s : String)

namespace Token

/-- The token in words. -/
def text : Token → String
  | .ended => "end of file"
  | .newline => "newline"
  | .op s => "\"" ++ s ++ "\""
  | .redirect .. => "redirection"
  | .word _ => "word"
  | .name s => "\"" ++ s ++ "\""

/-- Whether the token is an operator. -/
def isOp (s : String) : Token → Bool
  | .op s' => s = s'
  | _ => false

/-- Whether the token is a name of the language. -/
def isName (s : String) : Token → Bool
  | .name s' => s = s'
  | _ => false

/-- Whether the token is a line end. -/
def isNewline : Token → Bool
  | .newline => true
  | _ => false

/-- Whether a list of commands ends before the token. -/
def closes : Token → Bool
  | .ended => true
  | .op s => s = ")" || s = ";;"
  | .name s => ["do", "done", "elif", "else", "esac", "fi", "then", "\x7d"].contains s
  | _ => false

end Token

/-- The words that have a meaning in the language. -/
def reservedNames : List String :=
  ["!", "case", "do", "done", "elif", "else", "esac", "fi", "for", "if", "in", "then", "until",
    "while", "\x7b", "\x7d"]

/-- A document that has been announced in a line, and begins after it. -/
structure Awaited where
  id : Nat
  /-- The line after the document. -/
  last : List Char
  quoted : Bool
  tabs : Bool

/-- What is left of a script, and what has been found in it. -/
structure Reader where
  rest : List Char
  line : Nat
  /-- The token that was read last, and whether it is to be read again. -/
  last : Token
  again : Bool
  awaited : List Awaited
  /-- The documents up to now, with their numbers. -/
  documents : List (Nat × Word)
  nextDocument : Nat
  /-- The words that stand for other texts. -/
  aliases : List (String × String)
  /-- The aliases that are being read, with the number of characters after each. -/
  inside : List (String × Nat)
  /-- Whether the next word may be an alias, since one that ended in a blank came before. -/
  aliasNext : Bool

/-- Why a script cannot be read, and on which line. -/
structure Refusal where
  line : Nat
  message : String
deriving DecidableEq, Repr

/-- Something that is read from a script. -/
abbrev Reading := StateT Reader (Except Refusal)

namespace Reading

/-- The number of steps that loops are given, which is more than any script needs. -/
def manySteps : Nat := 1000000000

/-- Refuses the script. -/
def refuse {α : Type} (message : String) : Reading α := do
  throw ⟨(← get).line, "Syntax error: " ++ message⟩

/-- Refuses the token that was read last, where another one was expected. -/
def unexpected {α : Type} (expected : Option Token) : Reading α := do
  let found := (← get).last.text
  refuse <| match expected with
    | some t => found ++ " unexpected (expecting " ++ t.text ++ ")"
    | none => found ++ " unexpected"

/-! ## Characters -/

/-- The next character. -/
def nextChar : Reading (Option Char) :=
  modifyGet fun r =>
    match r.rest with
    | [] => (none, r)
    | c :: rest => (some c, { r with rest := rest, line := if c = '\n' then r.line + 1 else r.line })

/-- A text without the joined lines at its start, and their number. -/
def dropJoined : List Char → Nat × List Char
  | '\\' :: '\n' :: rest =>
    let r := dropJoined rest
    (r.1 + 1, r.2)
  | cs => (0, cs)

/-- The next character, where a backslash at the end of a line joins it with the next. -/
def next : Reading (Option Char) := do
  modify fun r =>
    match r.rest with
    | '\\' :: '\n' :: _ =>
      let (n, rest) := dropJoined r.rest
      { r with rest := rest, line := r.line + n }
    | _ => r
  nextChar

/-- Puts a character back. -/
def unread : Option Char → Reading Unit
  | none => return ()
  | some c => modify fun r =>
    { r with rest := c :: r.rest, line := if c = '\n' then r.line - 1 else r.line }

/-- The characters from here on that fit. -/
def takeWhile (f : Char → Bool) : Nat → Reading (List Char)
  | 0 => return []
  | steps + 1 => do
    match ← next with
    | some c =>
      if f c then return c :: (← takeWhile f steps)
      else
        unread (some c)
        return []
    | none => return []

/-- The text up to an apostrophe. -/
def readSingle : Nat → Reading Word
  | 0 => return []
  | steps + 1 => do
    match ← nextChar with
    | some '\'' => return [.mark]
    | some c => return .literal c :: (← readSingle steps)
    | none => refuse "Unterminated quoted string"

/-! ## Words -/

/-- Where pieces of a word stand. -/
inductive Quoting where
  /-- Outside of any quotes. -/
  | bare
  /-- In the line after a document, where nothing is expanded. -/
  | delimiter
  /-- In the braces of a parameter outside of any quotes. -/
  | bareBraced
  /-- In double quotes. -/
  | double
  /-- In the braces of a parameter in double quotes. -/
  | doubleBraced
  /-- In a document. -/
  | document
  /-- In an expression. -/
  | expression
deriving DecidableEq, Repr

namespace Quoting

/-- Whether quotes have a meaning, and characters may be special. -/
def isBare (q : Quoting) : Bool := q = .bare || q = .delimiter || q = .bareBraced

/-- A character as a piece. -/
def piece (q : Quoting) (c : Char) : Piece := if q.isBare then .char c else .literal c

/-- Where the word in the braces of a parameter stands. -/
def braced (q : Quoting) : Quoting := if q.isBare then .bareBraced else .doubleBraced

end Quoting

/-- Whether a character ends a word outside of quotes. -/
def endsWord (c : Char) : Bool :=
  [' ', '\t', '\n', ';', '&', '|', '<', '>', '(', ')'].contains c

/-- Whether a character is the name of a parameter of its own. -/
def isSpecialParam (c : Char) : Bool := c.isDigit || ['!', '#', '$', '*', '?', '@', '-'].contains c

/-- What a list of commands is read for. -/
inductive Extent where
  /-- For one complete command. -/
  | line
  /-- Inside another command. -/
  | inner
  /-- Inside a word or an arm of a choice, where there may be no command at all. -/
  | nested
deriving DecidableEq, Repr

/-- What has been read: a command, or no command, or the end of the script. -/
inductive Extract where
  | command (c : Option Command)
  | ended

/-- The command that has been read. -/
def Extract.toOption : Extract → Option Command
  | .command c => c
  | .ended => none

/-- Whether a word after a backslash keeps it. -/
def keepsBackslash (q : Quoting) (c : Char) : Bool :=
  !q.isBare && c ≠ '\\' && c ≠ '`' && c ≠ '$' && (c ≠ '"' || q = .document)
    && (c ≠ '\x7d' || q ≠ .doubleBraced)

/-- The text up to a backquote. A backslash is left out in front of what has a meaning. -/
def readBackquoted (q : Quoting) : Nat → Reading (List Char)
  | 0 => return []
  | steps + 1 => do
    match ← next with
    | some '`' => return []
    | some '\\' =>
      match ← nextChar with
      | some c =>
        let rest ← readBackquoted q steps
        if c ≠ '\\' && c ≠ '`' && c ≠ '$' && (q.isBare || c ≠ '"') then return '\\' :: c :: rest
        else return c :: rest
      | none => refuse "EOF in backquote substitution"
    | some c => return c :: (← readBackquoted q steps)
    | none => refuse "EOF in backquote substitution"

/-- Reads something from a text of its own, and then goes on where it was. -/
def within {α : Type} (text : List Char) (line : Nat) (read : Reading α) : Reading α := do
  let before ← get
  set { before with rest := text, line := line, again := false, awaited := [], inside := [] }
  let result ← read
  modify fun r =>
    { before with documents := r.documents, nextDocument := r.nextDocument, again := false }
  return result

/-- The name in the braces of a parameter, and whether its length is meant, unless there is
none. -/
def readBracedName : Reading (Option (String × Bool)) := do
  let named := fun (c : Char) (length : Bool) => do
    let rest ← takeWhile (if c.isDigit then Char.isDigit else isNameChar) manySteps
    return some (String.ofList (c :: rest), length)
  match ← next with
  | none => return none
  | some c =>
    if isNameChar c then named c false
    else if c = '\x7d' then
      unread (some c)
      return none
    else
      let second ← next
      if c = '#' then
        match second with
        | some d =>
          if isNameChar d then named d true
          else
            let third ← next
            if d = '\x7d' || third ≠ some '\x7d' then
              unread third
              unread second
              return some ("#", false)
            else
              unread third
              return if isSpecialParam d then some (d.toString, true) else none
        | none => return some ("#", false)
      else
        unread second
        return if isSpecialParam c then some (c.toString, false) else none

/-- A parameter in braces. -/
def readBraced (pieces : Quoting → Reading Word) (q : Quoting) (quoted : Bool) :
    Reading Piece := do
  let used := fun (name : String) (use : Use) (emptyToo : Bool) (q : Quoting) => do
    return Piece.param name use emptyToo (← pieces q) quoted
  match ← readBracedName with
  | none => used "" .unknown false q.braced
  | some (name, true) =>
    let c ← next
    unread c
    used name (if c = some '\x7d' then .length else .unknown) false q.braced
  | some (name, false) =>
    let first ← next
    let emptyToo := first = some ':'
    let c ← if emptyToo then next else pure first
    match c with
    | some '\x7d' => return .param name .value false [] quoted
    | some '-' => used name .orElse emptyToo q.braced
    | some '+' => used name .ifSet emptyToo q.braced
    | some '=' => used name .orAssign emptyToo q.braced
    | some '?' => used name .orFail emptyToo q.braced
    | some c =>
      if !emptyToo && (c = '%' || c = '#') then
        let second ← next
        let longest := second = some c
        if !longest then unread second
        used name (.trim (c = '%') longest) false .bareBraced
      else used name .unknown false q.braced
    | none => used name .unknown false q.braced

/-- The command in the output of which a word is interested, up to its parenthesis. -/
def readOutput (list : Extent → Reading Extract) (token : Reading Token) :
    Reading (Option Command) := do
  let awaited := (← get).awaited
  modify fun r => { r with awaited := [], again := false }
  let c ← list .nested
  let t ← token
  if !t.isOp ")" then unexpected (some (.op ")"))
  modify fun r => { r with awaited := awaited }
  return c.toOption

/-- What follows a dollar sign. -/
def readDollar (list : Extent → Reading Extract) (token : Reading Token)
    (pieces : Quoting → Reading Word) (q : Quoting) (quoted : Bool) : Reading Piece := do
  match ← next with
  | some '(' =>
    match ← next with
    | some '(' => return .number (← pieces .expression) quoted
    | c =>
      unread c
      return .output (← readOutput list token) quoted
  | some '\x7b' => readBraced pieces q quoted
  | some c =>
    if isNameStart c then
      let rest ← takeWhile isNameChar manySteps
      return .param (String.ofList (c :: rest)) .value false [] quoted
    else if isSpecialParam c then return .param c.toString .value false [] quoted
    else
      unread (some c)
      return q.piece '$'
  | none => return q.piece '$'

/-- The pieces of a word from here on. In braces inside double quotes, `inner` is whether a
quotation has been ended by another quote; in an expression, `depth` is the number of open
parentheses. -/
def readPieces (list : Extent → Reading Extract) (token : Reading Token)
    (pieces : Quoting → Reading Word) (q : Quoting) :
    Nat → Bool → Nat → Word → Reading Word
  | 0, _, _, before => return before.reverse
  | steps + 1, inner, depth, before => do
    let more := fun (inner : Bool) (depth : Nat) (ps : Word) =>
      readPieces list token pieces q steps inner depth (ps.reverse ++ before)
    let goOn := fun (p : Piece) => more inner depth [p]
    let quoted := !q.isBare && !inner
    match ← next with
    | none =>
      match q with
      | .bare | .delimiter | .document => return before.reverse
      | .bareBraced => refuse "Missing '\x7d'"
      | .double | .doubleBraced => refuse "Unterminated quoted string"
      | .expression => refuse "Missing '))'"
    | some c =>
      if (q = .bare || q = .delimiter) && endsWord c then
        unread (some c)
        return before.reverse
      else if c = '\\' then
        match ← nextChar with
        | none => goOn (.literal '\\')
        | some d =>
          if keepsBackslash q d then more inner depth [.literal '\\', .literal d]
          else goOn (.literal d)
      else if c = '\'' && q.isBare then more inner depth (.mark :: (← readSingle manySteps))
      else if c = '"' && q.isBare then
        more inner depth (.mark :: (← pieces .double) ++ [.mark])
      else if c = '"' && q = .double then return before.reverse
      else if c = '"' && q = .doubleBraced then more (!inner) depth [.mark]
      else if c = '$' && q ≠ .delimiter then
        goOn (← readDollar list token pieces q quoted)
      else if c = '`' && q ≠ .delimiter then
        let text ← readBackquoted q manySteps
        goOn (.output (← within text 1 (list .nested)).toOption quoted)
      else if c = '\x7d' && (q = .bareBraced || (q = .doubleBraced && !inner)) then
        return before.reverse
      else if c = '(' && q = .expression then more inner (depth + 1) [.literal c]
      else if c = ')' && q = .expression then
        if depth > 0 then more inner (depth - 1) [.literal c]
        else
          let d ← next
          if d = some ')' then return before.reverse
          else
            unread d
            goOn (.literal c)
      else goOn (q.piece c)

/-! ## Documents -/

/-- Whether a line goes on in the next one. -/
def goesOn (line : List Char) : Bool := (line.reverse.takeWhile (· = '\\')).length % 2 = 1

/-- The lines of a document, and what follows the line after it. `fresh` is whether a line
begins that is not joined with the one before. -/
def splitDocument (a : Awaited) : Nat → Bool → List Char → List Char × List Char
  | 0, _, cs => ([], cs)
  | steps + 1, fresh, cs =>
    if cs.isEmpty then ([], [])
    else
      let line := cs.takeWhile (· ≠ '\n')
      let rest := cs.drop line.length
      let shown := if a.tabs && fresh then line.dropWhile (· = '\t') else line
      if fresh && decide (shown = a.last) then ([], rest.drop 1)
      else
        let more := splitDocument a steps (a.quoted || !goesOn line) (rest.drop 1)
        (shown ++ rest.take 1 ++ more.1, more.2)

/-- Reads the documents that were announced, after the end of their line. -/
def readDocuments (pieces : Quoting → Reading Word) : Reading Unit := do
  let awaited := (← get).awaited
  modify fun r => { r with awaited := [] }
  for a in awaited do
    let r ← get
    let (text, rest) := splitDocument a (r.rest.length + 1) true r.rest
    let w ← if a.quoted then pure (text.map Piece.literal)
      else within text r.line (pieces .document)
    let ends := (r.rest.take (r.rest.length - rest.length)).count '\n'
    modify fun s =>
      { s with rest := rest, line := r.line + ends, documents := (a.id, w) :: s.documents }

/-! ## Tokens -/

/-- The redirection whose operator begins with a given character. -/
def readRedirect (c : Char) (fd : Option Nat) : Reading Token := do
  let second ← next
  let as := fun (standard : Nat) (k : RedirectKind) => Token.redirect (fd.getD standard) k false
  if c = '>' then
    match second with
    | some '>' => return as 1 .append
    | some '|' => return as 1 .overwrite
    | some '&' => return as 1 .copy
    | d =>
      unread d
      return as 1 .write
  else
    match second with
    | some '<' =>
      let third ← next
      if third ≠ some '-' then unread third
      let id := (← get).nextDocument
      modify fun r => { r with nextDocument := id + 1 }
      return .redirect (fd.getD 0) (.document id) (third = some '-')
    | some '&' => return as 0 .copy
    | some '>' => return as 0 .readWrite
    | d =>
      unread d
      return as 0 .read

/-- Drops blanks and comments. -/
def dropBlanks : Nat → Reading Unit
  | 0 => return ()
  | steps + 1 => do
    match ← next with
    | some c =>
      if c = ' ' || c = '\t' then dropBlanks steps
      else if c = '#' then
        modify fun r => { r with rest := r.rest.dropWhile (· ≠ '\n') }
        dropBlanks steps
      else unread (some c)
    | none => return ()

/-- The operator that is a character twice, or that character alone. -/
def readDoubled (c : Char) : Reading Token := do
  let second ← next
  if second = some c then return .op (String.ofList [c, c])
  else
    unread second
    return .op c.toString

/-- The token that begins here. -/
def readToken (pieces : Quoting → Reading Word) (delimiter : Bool) : Reading Token := do
  dropBlanks manySteps
  match ← next with
  | none => return .ended
  | some c =>
    if c = '\n' then return .newline
    else if c = '&' || c = '|' || c = ';' then readDoubled c
    else if c = '(' || c = ')' then return .op c.toString
    else if c = '<' || c = '>' then readRedirect c none
    else
      unread (some c)
      let w ← pieces (if delimiter then .delimiter else .bare)
      let after ← next
      match w, after with
      | [.char d], some e =>
        if d.isDigit && (e = '<' || e = '>') then readRedirect e (some (d.toNat - '0'.toNat))
        else
          unread after
          return .word w
      | _, _ =>
        unread after
        return .word w

/-- The token that begins here, or the last one once more. -/
def sameOrNext (pieces : Quoting → Reading Word) (delimiter : Bool) : Reading Token := do
  let r ← get
  if r.again then
    set { r with again := false }
    return r.last
  else
    let t ← readToken pieces delimiter
    modify fun r => { r with last := t }
    return t

/-- Which tokens have a meaning of their own. -/
structure Attention where
  names : Bool
  aliases : Bool
  /-- Whether line ends are passed over. -/
  newlines : Bool

namespace Attention

/-- Inside a simple command. -/
def none : Attention := ⟨false, false, false⟩

/-- Where a command begins. -/
def all : Attention := ⟨true, true, true⟩

/-- Where a command begins in the same line. -/
def sameLine : Attention := ⟨true, true, false⟩

end Attention

/-- The token that follows line ends. -/
def passNewlines (pieces : Quoting → Reading Word) : Nat → Token → Reading Token
  | 0, t => return t
  | steps + 1, t => do
    if t.isNewline then
      readDocuments pieces
      passNewlines pieces steps (← sameOrNext pieces false)
    else return t

/-- The text that a word stands for, unless it is being read already. -/
def alias? (r : Reader) (name : String) : Option String :=
  if r.aliases.isEmpty then none
  else
    let left := r.rest.length
    if (r.inside.filter fun e => e.2 < left).any (·.1 = name) then none
    else r.aliases.lookup name

/-- The next token, with its meaning. -/
def nextToken (pieces : Quoting → Reading Word) : Nat → Attention → Reading Token
  | 0, _ => return .ended
  | steps + 1, a => do
    let t ← sameOrNext pieces false
    let t ← if a.newlines then passNewlines pieces manySteps t else pure t
    let a := if (← get).aliasNext then { a with aliases := true } else a
    modify fun r => { r with aliasNext := false }
    match t with
    | .word w =>
      match Word.plain? w with
      | none => return t
      | some s =>
        if a.names && reservedNames.contains s then
          modify fun r => { r with last := .name s }
          return .name s
        else
          let r ← get
          match if a.aliases then alias? r s else none with
          | some text =>
            modify fun r =>
              { r with
                rest := text.toList ++ r.rest
                inside := (s, r.rest.length) :: r.inside
                aliasNext := text.toList.getLast?.any fun c => c = ' ' || c = '\t' }
            nextToken pieces steps a
          | none => return t
    | t => return t

/-! ## Commands -/

/-- Lets the last token be read once more. -/
def pushBack : Reading Unit := modify fun r => { r with again := true }

/-- Demands a token that is a name of the language. -/
def demand (token : Attention → Reading Token) (a : Attention) (s : String) : Reading Unit := do
  let t ← token a
  if !t.isName s then unexpected (some (.name s))

/-- The target of a redirection. -/
def readTarget (pieces : Quoting → Reading Word) (token : Attention → Reading Token)
    (fd : Nat) (kind : RedirectKind) (tabs : Bool) : Reading Redirect := do
  let t ← match kind with
    | .document _ => sameOrNext pieces true
    | _ => token .none
  match t with
  | .word w =>
    match kind with
    | .document id =>
      let a : Awaited := ⟨id, Word.unquoted w, Word.isQuoted w, tabs⟩
      modify fun r => { r with awaited := r.awaited ++ [a] }
      return .to fd kind []
    | kind => return .to fd kind w
  | _ => unexpected none

/-- The redirections after a command. -/
def readRedirects (pieces : Quoting → Reading Word) (token : Attention → Reading Token) :
    Nat → Attention → Reading (List Redirect)
  | 0, _ => return []
  | steps + 1, a => do
    match ← token a with
    | .redirect fd kind tabs =>
      let r ← readTarget pieces token fd kind tabs
      return r :: (← readRedirects pieces token steps .none)
    | _ =>
      pushBack
      return []

/-- What has been read of a simple command, the last parts first. -/
structure Simple where
  assignments : List (String × Word)
  words : List Word
  redirects : List Redirect

/-- A simple command, or the definition of a function. -/
def readSimple (pieces : Quoting → Reading Word) (token : Attention → Reading Token)
    (command : Reading Command) (line : Nat) : Nat → Simple → Reading Command
  | 0, _ => refuse "word unexpected"
  | steps + 1, s => do
    let fresh := s.words.isEmpty
    let goOn := readSimple pieces token command line steps
    let finish := do
      pushBack
      return Command.simple line s.assignments.reverse s.words.reverse s.redirects.reverse
    match ← token ⟨false, fresh, false⟩ with
    | .word w =>
      match if fresh then Word.assignment? w else none with
      | some a => goOn { s with assignments := a :: s.assignments }
      | none => goOn { s with words := w :: s.words }
    | .redirect fd kind tabs =>
      let r ← readTarget pieces token fd kind tabs
      goOn { s with redirects := r :: s.redirects }
    | t =>
      match s.words with
      | [w] =>
        if t.isOp "(" && s.assignments.isEmpty && s.redirects.isEmpty then
          let t ← token .none
          if !t.isOp ")" then unexpected (some (.op ")"))
          match Word.plain? w with
          | some name =>
            if !isName name || specialNames.contains name then refuse "Bad function name"
            else
              let line := (← get).line
              return .define line name (← command)
          | none => refuse "Bad function name"
        else finish
      | _ => finish

/-- The patterns of an arm of a choice, after its first token. -/
def readPatterns (token : Attention → Reading Token) : Nat → Token → Reading (List Word)
  | 0, _ => return []
  | steps + 1, t => do
    let w : Word := match t with
      | .word w => w
      | .name s => s.toList.map Piece.char
      | _ => []
    let after ← token .none
    if after.isOp "|" then
      let t ← token .none
      return w :: (← readPatterns token steps t)
    else if after.isOp ")" then return [w]
    else unexpected (some (.op ")"))

/-- The arms of a choice. -/
def readArms (list : Extent → Reading Extract) (token : Attention → Reading Token) :
    Nat → Reading (List (List Word × Option Command))
  | 0 => return []
  | steps + 1 => do
    let t ← token ⟨true, false, true⟩
    if t.isName "esac" then return []
    else
      let t ← if t.isOp "(" then token .none else pure t
      let patterns ← readPatterns token manySteps t
      let body ← list .nested
      let after ← token ⟨true, false, true⟩
      if after.isName "esac" then return [(patterns, body.toOption)]
      else if after.isOp ";;" then
        return (patterns, body.toOption) :: (← readArms list token steps)
      else unexpected (some (.op ";;"))

/-- A choice after its first name. Its last name is not read. -/
def readChoice (list : Extent → Reading Extract) (token : Attention → Reading Token) :
    Nat → Reading Command
  | 0 => refuse "word unexpected"
  | steps + 1 => do
    let test ← list .inner
    demand token .none "then"
    let yes ← list .inner
    let t ← token .none
    if t.isName "elif" then
      return .choose test.toOption yes.toOption (some (← readChoice list token steps))
    else if t.isName "else" then
      return .choose test.toOption yes.toOption (← list .inner).toOption
    else
      pushBack
      return .choose test.toOption yes.toOption none

/-- The words of a loop, up to the end of the line. -/
def readLoopWords (token : Attention → Reading Token) : Nat → Reading (List Word)
  | 0 => return []
  | steps + 1 => do
    match ← token .none with
    | .word w => return w :: (← readLoopWords token steps)
    | t => if t.isNewline || t.isOp ";" then return [] else unexpected none

/-- A loop over words, after its first name. -/
def readForEach (list : Extent → Reading Extract) (token : Attention → Reading Token)
    (line : Nat) : Reading Command := do
  let name ← match ← token .none with
    | .word w =>
      match Word.plain? w with
      | some s => if isName s then pure s else refuse "Bad for loop variable"
      | none => refuse "Bad for loop variable"
    | _ => refuse "Bad for loop variable"
  let t ← token .all
  let words ← if t.isName "in" then readLoopWords token manySteps
    else
      if !t.isOp ";" then pushBack
      pure [Word.allArguments]
  demand token .all "do"
  let body ← list .inner
  return .forEach line name words body.toOption

/-- A command with redirections after it. -/
def withRedirects (line : Nat) (c : Option Command) : List Redirect → Option Command
  | [] => c
  | rs =>
    match c with
    | some (.apart line body _) => some (.apart line body rs)
    | c => some (.redirected line c rs)

/-- One command. A group may be empty of commands. -/
def readCommand (list : Extent → Reading Extract) (pieces : Quoting → Reading Word)
    (token : Attention → Reading Token) : Nat → Attention → Reading (Option Command)
  | 0, _ => refuse "word unexpected"
  | steps + 1, a => do
    let line := (← get).line
    let redirected := fun (c : Option Command) => do
      return withRedirects line c (← readRedirects pieces token manySteps ⟨true, true, false⟩)
    let closed := fun (c : Option Command) (last : Token) => do
      let t ← token .none
      let fits := match last with
        | .name s => t.isName s
        | .op s => t.isOp s
        | _ => false
      if fits then redirected c else unexpected (some last)
    match ← token a with
    | .name "if" => closed (some (← readChoice list token manySteps)) (.name "fi")
    | .name "while" =>
      let test ← list .inner
      demand token .none "do"
      let body ← list .inner
      closed (some (.loop false test.toOption body.toOption)) (.name "done")
    | .name "until" =>
      let test ← list .inner
      demand token .none "do"
      let body ← list .inner
      closed (some (.loop true test.toOption body.toOption)) (.name "done")
    | .name "for" => closed (some (← readForEach list token line)) (.name "done")
    | .name "case" =>
      match ← token .none with
      | .word w =>
        demand token .all "in"
        redirected (some (.select line w (← readArms list token manySteps)))
      | _ => unexpected (some (.word []))
    | .op "(" =>
      let body ← list .inner
      closed (some (.apart line body.toOption [])) (.op ")")
    | .name "\x7b" =>
      let body ← list .inner
      closed body.toOption (.name "\x7d")
    | .word _ | .redirect .. =>
      pushBack
      let command := do
        match ← readCommand list pieces token steps ⟨true, true, true⟩ with
        | some c => return c
        | none => return .simple line [] [] []
      return some (← readSimple pieces token command line manySteps ⟨[], [], []⟩)
    | _ => unexpected none

/-- The commands after a pipe. -/
def readPiped (command : Attention → Reading (Option Command))
    (token : Attention → Reading Token) : Nat → Reading (List Command)
  | 0 => return []
  | steps + 1 => do
    let t ← token .none
    if t.isOp "|" then
      let c ← command .all
      return c.getD (.simple 0 [] [] []) :: (← readPiped command token steps)
    else
      pushBack
      return []

/-- Commands joined by pipes, or what they are not. -/
def readPipeline (command : Attention → Reading (Option Command))
    (token : Attention → Reading Token) (a : Attention) : Reading Command := do
  let t ← token a
  let negated := t.isName "!"
  if !negated then pushBack
  let first ← command (if negated then .sameLine else .none)
  let first := first.getD (.simple 0 [] [] [])
  let c ← match ← readPiped command token manySteps with
    | [] => pure first
    | rest => pure (.pipeline (first :: rest) false)
  return if negated then .negate c else c

/-- The rest of pipelines joined by conditions, after the first of them. -/
def readJoined (pipeline : Attention → Reading Command) (token : Attention → Reading Token) :
    Nat → Command → Reading Command
  | 0, first => return first
  | steps + 1, first => do
    let t ← token .none
    if t.isOp "&&" then
      let second ← pipeline .all
      readJoined pipeline token steps (.both first second)
    else if t.isOp "||" then
      let second ← pipeline .all
      readJoined pipeline token steps (.either first second)
    else
      pushBack
      return first

/-- A command that is not waited for. -/
def Command.inBackground : Command → Command
  | .pipeline parts _ => .pipeline parts true
  | .redirected line body rs => .background line body rs
  | c => .background 0 (some c) []

/-- Commands one after the other. `mayEnd` is whether there may be none before a token that
closes them. -/
def readList (joined : Reading Command) (token : Attention → Reading Token)
    (documents : Reading Unit) (extent : Extent) :
    Nat → Bool → Option Command → Reading Extract
  | 0, _, before => return .command before
  | steps + 1, mayEnd, before => do
    let isLine := extent = .line
    let atEnd := do
      documents
      pushBack
      return if before.isNone && isLine then Extract.ended else .command before
    match ← token ⟨true, true, !isLine⟩ with
    | .ended => atEnd
    | t =>
      if t.isNewline then
        documents
        return .command before
      else
        pushBack
        if mayEnd && t.closes then return .command before
        else
          let c ← joined
          let t ← token .none
          let c := if t.isOp "&" then Command.inBackground c else c
          let before := some <| match before with
            | some first => Command.sequence first c
            | none => c
          let goOn := readList joined token documents extent steps (!isLine) before
          match t with
          | .ended =>
            documents
            pushBack
            return .command before
          | t =>
            if t.isNewline then
              pushBack
              goOn
            else if t.isOp "&" || t.isOp ";" then goOn
            else if isLine then unexpected none
            else
              pushBack
              return .command before

mutual

/-- Commands one after the other. The first argument bounds how deep they are nested. -/
def commands : Nat → Extent → Reading Extract
  | 0, _ => refuse "word unexpected"
  | depth + 1, extent =>
    let pieces := word depth
    let token := nextToken pieces manySteps
    let command := readCommand (commands depth) pieces token manySteps
    let pipeline := readPipeline command token
    let joined := do readJoined pipeline token manySteps (← pipeline .none)
    readList joined token (readDocuments pieces) extent manySteps (extent = .nested) none

/-- The pieces of a word. The first argument bounds how deep they are nested. -/
def word : Nat → Quoting → Reading Word
  | 0, _ => refuse "word unexpected"
  | depth + 1, q =>
    let pieces := word depth
    readPieces (commands depth) (nextToken pieces manySteps .none) pieces q manySteps false 0 []

end

/-- How deep commands and words can be nested. -/
def deepest : Nat := 2000

end Reading

namespace Reader

/-- The reader at the start of a script. -/
def ofText (text : String) (nextDocument : Nat) : Reader where
  rest := text.toList
  line := 1
  last := .newline
  again := false
  awaited := []
  documents := []
  nextDocument := nextDocument
  aliases := []
  inside := []
  aliasNext := false

/-- The next complete command. -/
def nextCommand (r : Reader) : Except Refusal (Reading.Extract × Reader) :=
  (Reading.commands Reading.deepest .line).run { r with again := false }

/-- The text of the script as a document, in which parameters are expanded. -/
def asDocument (r : Reader) : Except Refusal (Word × Reader) :=
  (Reading.word Reading.deepest .document).run r

/-- Whether the end of the script has been seen. -/
def isDone (r : Reader) : Bool :=
  match r.last with
  | .ended => r.again
  | _ => false

end Reader

end CrateGraph.Shell
