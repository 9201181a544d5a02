import CrateGraph.Process.Task

/-!
# A world of programs

A program that is started may start others, talk to them through pipes, wait for them and
end them. A world holds them all, with the files, the pipes, and a clock. Its programs take
turns: one goes on until it has to wait for something, and then the next one that can go on
does. The clock moves only when none of them can.

What can be told from outside is the `Run` of the first program. A world is followed only as
far as a `Horizon`, since its programs need not end.
-/

namespace CrateGraph

/-- A pipe, with what has been written to it and not been read: bytes that are read next,
and after them others, the last ones first. -/
structure Pipe where
  id : Nat
  front : Bytes
  back : List Bytes
  size : Nat
deriving Repr

/-- The bytes up to the first one that stops, at most so many, and the rest. -/
def splitAtStop (stop : Option UInt8) : Nat → Bytes → Bytes → Bytes × Bytes
  | 0, taken, rest => (taken.reverse, rest)
  | _, taken, [] => (taken.reverse, [])
  | most + 1, taken, b :: rest =>
    if stop = some b then ((b :: taken).reverse, rest)
    else splitAtStop stop most (b :: taken) rest

namespace Pipe

/-- The number of bytes that a pipe holds before whoever writes has to wait. -/
def room : Nat := 65536

/-- The pipe with bytes written to it. -/
def push (bytes : Bytes) (p : Pipe) : Pipe :=
  { p with back := bytes :: p.back, size := p.size + bytes.length }

/-- All that the pipe holds. -/
def contents (p : Pipe) : Bytes :=
  match p.front, p.back with
  | [], [bytes] => bytes
  | front, back => front ++ back.reverse.flatten

/-- The next bytes of the pipe, at most so many, and none after the first one that stops. -/
def pull (most : Nat) (stop : Option UInt8) (p : Pipe) : Bytes × Pipe :=
  if stop.isNone && p.size ≤ most then (p.contents, { p with front := [], back := [], size := 0 })
  else
  let isWhole := !p.front.isEmpty && (stop.all fun b => p.front.contains b)
  let p := if isWhole then p
    else { p with front := p.contents, back := [] }
  let (taken, rest) := splitAtStop stop most [] p.front
  (taken, { p with front := rest, size := p.size - taken.length })

end Pipe

/-- An open stream. -/
structure Opened where
  channel : Channel
  access : Access
  /-- How many bytes of a file come before the next one. -/
  offset : Nat
deriving DecidableEq, Repr

/-- The numbers that stand for open streams. -/
abbrev Handles := List (Nat × Nat)

/-- A program that runs. -/
structure Process where
  pid : Nat
  parent : Nat
  group : Nat
  task : Task
  handles : Handles
  /-- The streams that were kept, the last ones first. -/
  kept : List Handles
  reactions : List (Nat × Reaction)
  /-- The signals that came and of which the program has not been told yet. -/
  noted : List Nat
  /-- When the program wakes up, if it sleeps. -/
  wakes : Option Nat
  stopped : Bool

namespace Process

/-- How a signal is taken. -/
def reaction (p : Process) (n : Nat) : Reaction := (p.reactions.lookup n).getD .default

/-- The open streams of a program, also those that are only kept. -/
def streams (p : Process) : List Nat := (p.handles ++ p.kept.flatten).map (·.2)

/-- The program with a number that stands for an open stream. -/
def setHandle (fd id : Nat) (p : Process) : Process :=
  { p with handles := (fd, id) :: p.handles.filter fun h => h.1 ≠ fd }

/-- The program that goes on. -/
def goOn (p : Process) (t : Task) : Process := { p with task := t }

end Process

/-- A child that has ended, and of which its parent does not know yet. -/
structure Dead where
  pid : Nat
  parent : Nat
  status : Status
deriving DecidableEq, Repr

/-- How far a world is followed. -/
structure Horizon where
  /-- The number of bytes on a stream after which nothing more matters. -/
  mostBytes : Nat
  /-- The time at which the first program is ended, if it has not ended before. -/
  latest : Option Nat
  /-- The labor after which the programs are not followed any more. -/
  mostLabor : Nat
deriving DecidableEq, Repr

/-- A world of programs. -/
structure World where
  tree : FileTree
  clock : Nat
  processes : List Process
  /-- The program that went on last. -/
  current : Nat
  opened : List (Nat × Opened)
  pipes : List Pipe
  /-- Whether anybody reads the two streams of the whole run. -/
  heard : Bool
  dead : List Dead
  /-- The next number for an open stream or a pipe. -/
  nextId : Nat
  nextPid : Nat
  /-- What was done to the outside since the first program was started, or since it ended,
  the last thing first. -/
  acts : List Act
  /-- How the first program ended, and what was done to the outside before, the last thing
  first. -/
  ended : Option (Status × List Act)
  /-- The number of bytes written to the two streams of the whole run. -/
  outSize : Nat
  errSize : Nat
  /-- The number of steps of the program that went on last, since it is its turn. -/
  turn : Nat
  /-- The number of steps of all programs at the present time. -/
  busy : Nat
  /-- What the programs have done so far, counted in bytes that were handled. -/
  labor : Nat

namespace World

/-- The number of the first program. -/
def firstPid : Nat := 4711

/-! ## Looking programs and streams up -/

/-- The program with a number. -/
def process? (w : World) (pid : Nat) : Option Process := w.processes.find? (·.pid = pid)

/-- The world in which a program has changed. -/
def put (w : World) (p : Process) : World :=
  { w with processes := w.processes.map fun q => if q.pid = p.pid then p else q }

/-- What a number stands for. -/
def stream? (w : World) (p : Process) (fd : Nat) : Option (Nat × Opened) := do
  let id ← p.handles.lookup fd
  let o ← w.opened.lookup id
  return (id, o)

/-- The world in which an open stream has changed. -/
def setOpened (w : World) (id : Nat) (o : Opened) : World :=
  { w with opened := w.opened.map fun e => if e.1 = id then (id, o) else e }

/-- Whether a program has an open stream. -/
def anyStream (w : World) (f : Opened → Bool) : Bool :=
  w.processes.any fun p => p.streams.any fun id => (w.opened.lookup id).any f

/-- Whether somebody can still write to a pipe. -/
def isWritten (w : World) (id : Nat) : Bool :=
  w.anyStream fun o => decide (o.channel = .pipe id) && o.access.writes

/-- Whether somebody can still read from a pipe. -/
def isRead (w : World) (id : Nat) : Bool :=
  w.anyStream fun o => decide (o.channel = .pipe id) && o.access.reads

/-- Drops the open streams and pipes that no program has any more. -/
def tidy (w : World) : World :=
  let used := w.processes.flatMap (·.streams)
  let opened := w.opened.filter fun e => used.contains e.1
  { w with
    opened := opened
    pipes := w.pipes.filter fun p => opened.any fun e => decide (e.2.channel = .pipe p.id) }

/-- Opens a stream for a program under a number. -/
def attach (w : World) (p : Process) (fd : Nat) (c : Channel) (a : Access) : World × Process :=
  ({ w with opened := (w.nextId, ⟨c, a, 0⟩) :: w.opened, nextId := w.nextId + 1 },
    p.setHandle fd w.nextId)

/-! ## Ends and signals -/

/-- Ends a program. Its children have no parent any more, and its parent can learn of the
end. -/
def finish (w : World) (p : Process) (status : Status) : World :=
  let others := w.processes.filter fun q => q.pid ≠ p.pid
  let others := others.map fun q =>
    let q := if q.parent = p.pid then { q with parent := 1 } else q
    if q.pid = p.parent && decide (q.reaction 17 = .note) then
      { q with noted := q.noted ++ [17] }
    else q
  let dead := w.dead.filter fun d => d.parent ≠ p.pid
  let dead := if others.any (·.pid = p.parent) then dead ++ [⟨p.pid, p.parent, status⟩] else dead
  let w := { w with processes := others, dead := dead }.tidy
  if p.pid = firstPid then { w with ended := some (status, w.acts), acts := [] } else w

/-- The signals that do nothing to a program that does not care. -/
def harmlessSignals : List Nat := [17, 18, 23, 28]

/-- The signals that stop a program. -/
def stoppingSignals : List Nat := [19, 20, 21, 22]

/-- Sends a signal to a program. Nothing can be done about two of them. -/
def deliver (w : World) (n : Nat) (p : Process) : World :=
  let p := if n = 18 then { p with stopped := false } else p
  let reaction := if n = 9 || n = 19 then .default else p.reaction n
  match reaction with
  | .ignore => w.put p
  | .note => w.put { p with noted := if p.noted.contains n then p.noted else p.noted ++ [n] }
  | .default =>
    if n = 0 || harmlessSignals.contains n then w.put p
    else if stoppingSignals.contains n then w.put { p with stopped := true }
    else w.finish p (.signaled n)

/-- The programs that a signal is sent to. -/
def targets (w : World) (p : Process) (target : Int) : List Process :=
  w.processes.filter fun q =>
    if target > 0 then decide ((q.pid : Int) = target)
    else if target = 0 then q.group = p.group
    else if target = -1 then q.pid ≠ p.pid
    else decide ((q.group : Int) = -target)

/-- Sends a signal to some programs, one of which may be the sender. -/
def send (w : World) (n : Nat) (ps : List Process) : World :=
  ps.foldl (fun w p => match w.process? p.pid with
    | some p => w.deliver n p
    | none => w) w

/-! ## Reading and writing -/

/-- Many bytes of a device, to be shared. -/
def manyZeros : Bytes := List.replicate 131072 0

/-- Some bytes of a device that has nothing but zeros. -/
def zeros (most : Nat) : Bytes :=
  if most = 131072 then manyZeros else List.replicate (min most 1048576) 0

/-- The world after so many bytes were handled. -/
def toil (w : World) (n : Nat) : World := { w with labor := w.labor + n }

/-- Bytes that look like noise. -/
def noiseFrom : Nat → Nat → Bytes
  | 0, _ => []
  | n + 1, seed =>
    let seed := (seed * 1103515245 + 12345) % 2147483648
    (seed / 65536).toUInt8 :: noiseFrom n seed

/-- What a program reads, unless it has to wait. -/
def read (w : World) (p : Process) (fd most : Nat) (stop : Option UInt8) :
    Option (Except FileError Bytes × World) :=
  match w.stream? p fd with
  | none => some (.error .badStream, w)
  | some (id, o) =>
    if !o.access.reads then some (.error .badStream, w)
    else match o.channel with
      | .outside _ => some (.error .badStream, w)
      | .dir => some (.error .isDirectory, w)
      | .device .zero | .device .full =>
        some (.ok (zeros most), w.toil (min most 1048576 / 16))
      | .device .noise =>
        some (.ok (noiseFrom (min most 8192) (w.nextId + w.clock)), w.toil 65536)
      | .device _ => some (.ok [], w)
      | .file l =>
        match w.tree.node? l with
        | some (.file contents _) =>
          let taken := (splitAtStop stop most [] (contents.drop o.offset)).1
          let offset := o.offset + taken.length
          some (.ok taken, (w.setOpened id { o with offset := offset }).toil (taken.length + offset / 8))
        | _ => some (.ok [], w)
      | .pipe k =>
        match w.pipes.find? (·.id = k) with
        | none => some (.ok [], w)
        | some pipe =>
          if pipe.size = 0 then if w.isWritten k then none else some (.ok [], w)
          else
            let (taken, pipe) := pipe.pull most stop
            some (.ok taken,
              { w with
                pipes := w.pipes.map fun q => if q.id = k then pipe else q
                labor := w.labor + taken.length })

/-- A file in which bytes were put at an offset. -/
def splice (contents : Bytes) (offset : Nat) (bytes : Bytes) : Bytes :=
  let size := contents.length
  if size ≤ offset then contents ++ (List.replicate (offset - size) 0 ++ bytes)
  else contents.take offset ++ bytes ++ contents.drop (offset + bytes.length)

/-- The number of bytes of a file after which no more are written. -/
def largestFile : Nat := 8388608

/-- What comes of writing: it is done, it is not possible, it has to wait, or there is
nobody to read it. -/
inductive Written where
  | done (w : World)
  | refused (e : FileError)
  | wait
  | unread

/-- Writes bytes for a program. -/
def write (w : World) (p : Process) (fd : Nat) (bytes : Bytes) : Written :=
  match w.stream? p fd with
  | none => .refused .badStream
  | some (id, o) =>
    if !o.access.writes then .refused .badStream
    else match o.channel with
      | .dir => .refused .badStream
      | .outside s =>
        if !w.heard then .unread
        else
        let w := if bytes.isEmpty then w else { w with acts := .write s bytes :: w.acts }
        match s with
        | .out => .done { w with outSize := w.outSize + bytes.length }
        | .err => .done { w with errSize := w.errSize + bytes.length }
      | .device .full => if bytes.isEmpty then .done w else .refused .noSpace
      | .device _ => .done w
      | .file l =>
        match w.tree.node? l with
        | some (.file contents mode) =>
          let size := contents.length
          let offset := if o.access.appends then size else o.offset
          if offset > largestFile then .wait
          else .done <|
            ({ w with tree := w.tree.put l (.file (splice contents offset bytes) mode) }.setOpened
              id { o with offset := offset + bytes.length }).toil ((size + bytes.length) / 4)
        | _ => .done w
      | .pipe k =>
        if !w.isRead k then .unread
        else match w.pipes.find? (·.id = k) with
          | none => .unread
          | some pipe =>
            if pipe.size ≥ Pipe.room then .wait
            else .done
              { w with pipes := w.pipes.map fun q => if q.id = k then pipe.push bytes else q }

/-! ## One step -/

/-- One step of a program that is not stopped, unless it has to wait. -/
def advance (w : World) (p : Process) : Option World :=
  match p.task with
  | .exit status => some (w.finish p (.exited (status % 256)))
  | .stall => none
  | .look next => some (w.put (p.goOn (next w.tree w.clock)))
  | .stream fd next =>
    let shown := (w.stream? p fd).map fun (_, o) => (o.channel, o.offset)
    some (w.put (p.goOn (next shown)))
  | .labor n next => some ((w.put (p.goOn (next ()))).toil n)
  | .change tree next => some ({ w with tree := tree }.put (p.goOn (next ())))
  | .attach fd c a next =>
    let (w, p) := w.attach p fd c a
    some (w.put (p.goOn (next ())))
  | .duplicate fd source next =>
    match p.handles.lookup source with
    | some id => some (w.put ((p.setHandle fd id).goOn (next true)))
    | none => some (w.put (p.goOn (next false)))
  | .detach fd next =>
    some (w.put { p.goOn (next ()) with handles := p.handles.filter fun h => h.1 ≠ fd })
  | .pipe readEnd writeEnd next =>
    let k := w.nextId
    let w := { w with nextId := k + 1, pipes := ⟨k, [], [], 0⟩ :: w.pipes }
    let (w, p) := w.attach p readEnd (.pipe k) .reading
    let (w, p) := w.attach p writeEnd (.pipe k) .writing
    some (w.put (p.goOn (next ())))
  | .keep next => some (w.put { p.goOn (next ()) with kept := p.handles :: p.kept })
  | .restore next =>
    some (w.put
      { p.goOn (next ()) with handles := p.kept.head?.getD p.handles, kept := p.kept.tail }).tidy
  | .forget next => some (w.put { p.goOn (next ()) with kept := p.kept.tail }).tidy
  | .read fd most stop next =>
    (w.read p fd most stop).map fun (result, w) => w.put (p.goOn (next result))
  | .write fd bytes next =>
    match w.write p fd bytes with
    | .done w => some (w.put (p.goOn (next (.ok ()))))
    | .refused e => some (w.put (p.goOn (next (.error e))))
    | .wait => none
    | .unread => some (w.deliver 13 (p.goOn (next (.error .brokenPipe))))
  | .unread fd count next =>
    match w.stream? p fd with
    | some (id, o) =>
      some ((w.setOpened id { o with offset := o.offset - count }).put (p.goOn (next ())))
    | none => some (w.put (p.goOn (next ())))
  | .sleep ms next =>
    match p.wakes with
    | none => some (w.put { p with wakes := some (w.clock + ms) })
    | some time =>
      if time ≤ w.clock then some (w.put { p.goOn (next ()) with wakes := none }) else none
  | .fork child next =>
    let pid := w.nextPid
    let w := ({ w with nextPid := pid + 1 }.put (p.goOn (next pid))).toil
      (1000 * w.processes.length)
    some { w with
      processes := w.processes ++
        [{ p with pid := pid, parent := p.pid, task := child pid, noted := [], wakes := none }] }
  | .wait interruptible next =>
    match w.dead.find? (·.parent = p.pid) with
    | some d =>
      some ({ w with dead := w.dead.filter fun e => e.pid ≠ d.pid }.put
        (p.goOn (next (.ended d.pid d.status))))
    | none =>
      if interruptible && !p.noted.isEmpty then some (w.put (p.goOn (next .interrupted)))
      else if w.processes.any (·.parent = p.pid) then none
      else some (w.put (p.goOn (next .nobody)))
  | .signal target n next =>
    let ps := w.targets p target
    let isThere := !ps.isEmpty || w.dead.any fun d => decide ((d.pid : Int) = target)
    some ((w.put (p.goOn (next isThere))).send n ps)
  | .react n r next =>
    some (w.put
      { p.goOn (next ()) with reactions := (n, r) :: p.reactions.filter fun e => e.1 ≠ n })
  | .reaction n next => some (w.put (p.goOn (next (p.reaction n))))
  | .notes next => some (w.put { p.goOn (next p.noted) with noted := [] })
  | .newGroup next => some (w.put { p.goOn (next ()) with group := p.pid })
  | .renew next =>
    some (w.put
      { p.goOn (next ()) with
        kept := [], reactions := p.reactions.filter fun e => e.2 ≠ .note }).tidy

/-- One step of the first of some programs that can go on. -/
def advanceFirst (w : World) : List Process → Option World
  | [] => none
  | p :: ps =>
    match if p.stopped then none else w.advance p with
    | some w => some { w with current := p.pid, turn := 0 }
    | none => advanceFirst w ps

/-- The number of steps after which it is the turn of the next program. -/
def longestTurn : Nat := 2000

/-- One step of the next program that can go on. The one that went on last comes last. -/
def stepNext (w : World) : Option World :=
  w.advanceFirst ((w.processes.filter fun p => p.pid > w.current)
    ++ w.processes.filter fun p => p.pid ≤ w.current)

/-- One step of the program that went on last, unless it has to wait or its turn is over, or
else of the next one that can go on. -/
def step (w : World) : Option World :=
  if w.turn ≥ longestTurn then w.stepNext
  else
    let now := w.processes.find? fun p => p.pid = w.current && !p.stopped
    match now.bind w.advance with
    | some w => some { w with turn := w.turn + 1 }
    | none => w.stepNext

/-- When the next program wakes up. -/
def nextWake (w : World) : Option Nat :=
  (w.processes.filterMap fun p => if p.stopped then none else p.wakes).min?

/-- The world at a later time, at which it is the turn of another program. -/
def waitUntil (w : World) (time : Nat) : World :=
  { w with
    clock := time, acts := .pause (time - w.clock) :: w.acts, turn := longestTurn, busy := 0 }

/-- The number of steps after which programs that have not had to wait have been at work as
long as others sleep. -/
def longestBusy : Nat := 200000

/-- One step of a program, unless all of them have to wait until the next one wakes up, or
have been at work until then. -/
def stepNow (w : World) : Option World :=
  if w.busy ≥ longestBusy && w.nextWake.isSome then none
  else w.step.map fun w => { w with busy := w.busy + 1 }

/-! ## The whole run -/

/-- A world that is not followed any more. It goes on forever, and writes on if it did so
last. -/
def tired (w : World) : World :=
  let last := w.acts.findSome? fun
    | .write s _ => some s
    | _ => none
  { w with acts := (last.map Act.flood).toList ++ w.acts }

/-- Follows a world, for no more than a number of steps. -/
def follow (h : Horizon) : Nat → World → World
  | 0, w => w.tired
  | steps + 1, w =>
    if w.outSize > h.mostBytes then { w with acts := .flood .out :: w.acts }
    else if w.errSize > h.mostBytes then { w with acts := .flood .err :: w.acts }
    else if w.labor > h.mostLabor then w.tired
    else match w.stepNow with
      | some w => follow h steps w
      | none =>
        match w.nextWake with
        | none => w
        | some time =>
          if w.ended.isNone && h.latest.any (· < time) then w
          else follow h steps (w.waitUntil time)

/-- The world in which a program has just been started. -/
def start (t : FileTree) (task : Task) (heard : Bool) : World where
  tree := t
  clock := 0
  processes :=
    [{ pid := firstPid, parent := 0, group := firstPid, task := task,
       handles := [(0, 0), (1, 1), (2, 2)], kept := [], reactions := [], noted := [],
       wakes := none, stopped := false }]
  current := firstPid
  opened := [(0, ⟨.device .null, .reading, 0⟩), (1, ⟨.outside .out, .writing, 0⟩),
    (2, ⟨.outside .err, .writing, 0⟩)]
  pipes := []
  heard := heard
  dead := []
  nextId := 3
  nextPid := firstPid + 1
  acts := []
  ended := none
  outSize := 0
  errSize := 0
  turn := 0
  busy := 0
  labor := 0

/-- The run of the first program, as far as the world was followed. -/
def toRun (w : World) : Run :=
  match w.ended with
  | some (status, acts) => ⟨acts.reverse, some status, w.acts.reverse⟩
  | none => ⟨w.acts.reverse, none, []⟩

end World

end CrateGraph
