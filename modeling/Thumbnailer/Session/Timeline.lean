/-
A session on a clock, with peers that follow scripts.

Everything that can happen at a moment happens before the clock moves on; the clock then jumps to the
next moment at which something is due. A deadline that falls on a moment comes before all else that
happens then. Each event is one that `Session.step?` admits, so a timeline is one run of the session.
Rounds of the pool's monitor are left out, since no worker of a session ever breaks down.

* **`Deed`** — what a peer does.
* **`Timeline.visit`** — one connection from its beginning to its end, as its peer and the one who
  serves it see it.
* **`Timeline.shutDown`** — the end of a session.
-/
import Thumbnailer.Session.Basic

namespace Thumbnailer.Session

inductive Deed
  | wait (ms : Nat)
  /-- It sends bytes, as fast as there is room for them. -/
  | say (bytes : List UInt8)
  | endSending
  | leave
  /-- It reads until the worker hangs up. -/
  | listen
  deriving DecidableEq, Repr

/-- What a timeline knows of a connection. -/
structure Visit where
  /-- What the peer has still to do. -/
  todo : List Deed
  /-- Until when the peer sleeps. -/
  asleep? : Option Nat
  /-- When the serving begins. -/
  begins : Nat
  begun : Bool
  /-- When the answering began. -/
  answering? : Option Nat
  /-- Whether a shutdown was accepted, and when that was known. -/
  returned? : Option (Bool × Nat)
  deriving DecidableEq, Repr

namespace Visit

def isDone (v : Visit) : Bool := v.todo.isEmpty && v.asleep?.isNone

end Visit

/-- A session on a clock, in milliseconds. -/
structure Timeline where
  provider : Provider
  session : Session
  now : Nat
  /-- One for each connection. -/
  visits : List Visit

namespace Timeline

def start (provider : Provider) (settings : Settings) (pool : Pool.Settings) : Timeline where
  provider := provider
  session := .start settings pool
  now := 0
  visits := []

/-- The timeline after an event of the session, if it can happen. -/
def after? (t : Timeline) (e : Event) : Option Timeline :=
  (t.session.step? t.provider e).map fun s => { t with session := s }

/-- The timeline after an event of the session; one that can not happen changes nothing. -/
def apply (t : Timeline) (e : Event) : Timeline := (t.after? e).getD t

def update (t : Timeline) (id : Nat) (f : Visit → Visit) : Timeline :=
  { t with visits := t.visits.modify id f }

/-- The numbers of the connections, and what is known of them. -/
def rows (t : Timeline) : List (Nat × Visit × Connection) :=
  (t.visits.zip t.session.connections).zipIdx.map fun ((v, c), id) => (id, v, c)

def isDue (t : Timeline) (moment : Nat) : Bool := moment ≤ t.now

/-- Until when the request of a visit has to be read. -/
def readBy (t : Timeline) (v : Visit) : Nat := v.begins + t.session.settings.readTimeout

/-- Until when the answer to a visit has to be written. -/
def writeBy? (t : Timeline) (v : Visit) : Option Nat :=
  v.answering?.map (· + t.session.settings.writeTimeout)

/-! ### What can happen at a moment -/

/-- Begins to serve a connection; what has arrived is read at once. -/
def begin? (t : Timeline) : Option Timeline := do
  let (id, _) ← t.rows.find? fun (_, v, _) => !v.begun && t.isDue v.begins
  some ((t.update id fun v => { v with begun := true }).apply (.read id))

def expire? (t : Timeline) : Option Timeline :=
  t.rows.findSome? fun (id, v, _) =>
    if v.begun && t.isDue (t.readBy v) then t.after? (.expire id) else none

/-- The workers that have a request, and the connections it came from. -/
def busy (t : Timeline) : List (Nat × Nat) :=
  t.session.pool.workers.filterMap fun w => (t.session.served? w.id).map (w.id, ·.1.connection)

def writeLate? (t : Timeline) : Option Timeline :=
  t.busy.findSome? fun (worker, id) => do
    let moment ← t.writeBy? (← t.visits[id]?)
    if t.isDue moment then t.after? (.writeLate worker) else none

/-- Lets something happen in the pool. -/
def poolStep? (t : Timeline) : Option Timeline :=
  t.session.pool.internal.findSome? fun e =>
    match e with
    | .enqueue r => t.after? (.enqueue r.connection)
    | .refuse stage r => t.after? (.refuse stage r.connection)
    | .take worker => t.after? (.take worker)
    | e => t.after? (.pool e)

/-- Lets a worker begin to answer, and write what finds room at once. -/
def respond? (t : Timeline) : Option Timeline :=
  t.busy.findSome? fun (worker, id) => do
    let u ← t.after? (.respond worker)
    let u := u.update id fun v => { v with answering? := some t.now }
    some (u.apply (.write worker))

def write? (t : Timeline) : Option Timeline :=
  t.busy.findSome? fun (worker, _) => t.after? (.write worker)

def read? (t : Timeline) : Option Timeline :=
  t.rows.findSome? fun (id, v, _) => if v.begun then t.after? (.read id) else none

/-- Lets a peer do what is next, if it can; `rest` is what comes after that. -/
def act? (t : Timeline) (id : Nat) (c : Connection) (rest : List Deed) : Deed → Option Timeline
  | .wait ms => some (t.update id fun v =>
      { v with todo := rest, asleep? := if ms = 0 then none else some (t.now + ms) })
  | .say bytes =>
    if bytes.isEmpty || c.phase.isOver then some (t.update id fun v => { v with todo := rest })
    else if c.room = 0 then none
    else
      let later := bytes.drop c.room
      let rest := if later.isEmpty then rest else .say later :: rest
      (t.after? (.send id (bytes.take c.room))).map (·.update id fun v => { v with todo := rest })
  | .endSending => some ((t.apply (.endSending id)).update id fun v => { v with todo := rest })
  | .leave => some ((t.apply (.leave id)).update id fun v => { v with todo := rest })
  | .listen =>
    if !c.outbox.isEmpty then t.after? (.collect id c.outbox.length)
    else if c.phase.isOver then some (t.update id fun v => { v with todo := rest })
    else none

/-- Lets a peer that is awake do what is next. -/
def peer? (t : Timeline) : Option Timeline :=
  t.rows.findSome? fun (id, v, c) =>
    match v.asleep?, v.todo with
    | none, deed :: rest => t.act? id c rest deed
    | _, _ => none

/-- Keeps in mind what became of the requests that are queued or given up by now. -/
def noteReturns (t : Timeline) : Timeline :=
  { t with visits := t.visits.mapIdx fun id v =>
      match v.returned?, (t.session.connections[id]?).bind (·.phase.accepted?) with
      | none, some shutdown => { v with returned? := some (shutdown, t.now) }
      | _, _ => v }

/-- The timeline after the first thing that can happen, if there is one. -/
def tick? (t : Timeline) : Option Timeline :=
  (t.begin? <|> t.expire? <|> t.writeLate? <|> t.poolStep? <|> t.respond? <|> t.write? <|>
    t.read? <|> t.peer?).map noteReturns

/-- Lets things happen, at most `fuel` of them. -/
def settleWithin : Nat → Timeline → Timeline
  | 0, t => t
  | fuel + 1, t =>
    match t.tick? with
    | some t => settleWithin fuel t
    | none => t

/-- More things than the messages of one moment can bring about: each takes a byte, or is one of a few
for each connection. -/
def manyThings : Nat := 0x10000000000

/-- Lets everything happen that needs no time. -/
def settle (t : Timeline) : Timeline := settleWithin manyThings t

/-! ### The clock -/

/-- The moments at which something is due for a connection. -/
def momentsOf (t : Timeline) (v : Visit) (c : Connection) : List Nat :=
  v.asleep?.toList ++ (if v.begun then [] else [v.begins]) ++
    match c.phase with
    | .reading _ => [t.readBy v]
    | .answering .. => (t.writeBy? v).toList
    | _ => []

/-- The next moment at which something is due. -/
def next? (t : Timeline) : Option Nat :=
  ((t.rows.flatMap fun (_, v, c) => t.momentsOf v c).filter (t.now < ·)).min?

/-- Moves the clock, and wakes the peers whose sleep is over. -/
def jump (t : Timeline) (moment : Nat) : Timeline :=
  settle { t with
    now := moment
    visits := t.visits.map fun v =>
      match v.asleep? with
      | some wakes => if wakes ≤ moment then { v with asleep? := none } else v
      | none => v }

/-- A bound on how many moments lie ahead: each deed and each deadline has one. -/
def momentsAhead (t : Timeline) : Nat :=
  t.visits.foldl (fun n v => n + (v.todo.length + 4)) 0

/-- Moves the clock on until a condition holds, or up to `limit`; `fuel` bounds the number of
moments. -/
def runWithin (holds : Timeline → Bool) (limit : Nat) : Nat → Timeline → Timeline
  | 0, t => t
  | fuel + 1, t =>
    if holds t then t
    else
      match t.next? with
      | some moment =>
        if moment < limit then runWithin holds limit fuel (t.jump moment)
        else { t with now := max t.now limit }
      | none => { t with now := max t.now limit }

/-- Moves the clock on until a condition holds, or up to `limit`. -/
def runUntil (t : Timeline) (limit : Nat) (holds : Timeline → Bool) : Timeline :=
  runWithin holds limit (t.momentsAhead + 1) t

/-! ### Visits -/

/-- One connection: its capacity, what its peer does, and how much later its serving begins. -/
structure Plan where
  capacity : Nat
  deeds : List Deed
  delay : Nat
  deriving DecidableEq, Repr

structure Report where
  /-- Whether a shutdown was accepted; unknown if the serving was given up. -/
  shutdown? : Option Bool
  /-- How long the serving took until that was known. -/
  elapsed : Nat
  /-- All that the peer got, if it was done in time. -/
  answer? : Option (List UInt8)
  asked : List (List Size)
  notices : List Notice

def patience : Nat := 120000

/-- Whether it is known what became of the request of a connection. -/
def hasReturned (id : Nat) (t : Timeline) : Bool :=
  ((t.visits[id]?).bind (·.returned?)).isSome

/-- Whether the peer of a connection is done. -/
def isDone (id : Nat) (t : Timeline) : Bool := ((t.visits[id]?).map (·.isDone)).getD true

/-- Takes down the visit of a connection that is there. -/
def expect (t : Timeline) (plan : Plan) : Timeline :=
  { t with visits := t.visits ++ [⟨plan.deeds, none, t.now + plan.delay, false, none, none⟩] }

/-- Serves a connection, for at most `patience`. -/
def serve (t : Timeline) (plan : Plan) : Timeline :=
  (t.expect plan).settle.runUntil (t.now + patience) (hasReturned t.visits.length)

/-- Waits for the peer of a connection, for at most `patience`, and tells what became of the
connection since `t`. -/
def conclude (t : Timeline) (id : Nat) (u : Timeline) : Timeline × Report :=
  let u := u.runUntil (u.now + patience) (isDone id)
  let returned? := (u.visits[id]?).bind (·.returned?)
  let answer? := if isDone id u then (u.session.connections[id]?).map (·.received) else none
  (u, {
    shutdown? := returned?.map (·.1)
    elapsed := ((returned?.map (·.2)).getD (t.now + patience)) - t.now
    answer? := answer?
    asked := u.session.asked.drop t.session.asked.length
    notices := u.session.notices.drop t.session.notices.length })

/-- One connection: it is served, for at most `patience` and then given up, and its peer is waited
for, as long again. -/
def visit (t : Timeline) (plan : Plan) : Timeline × Report :=
  let id := t.visits.length
  let u := (t.apply (.connect plan.capacity)).serve plan
  t.conclude id (if hasReturned id u then u else (u.apply (.abandon id)).settle)

/-- Closes the pool; nothing else happens meanwhile. -/
def close (t : Timeline) : Timeline := t.apply (.pool .close)

/-- Ends a session: the pool is closed, told to stop and dropped. Tells whether anybody heeded the
signal, and whether everything came to its end. -/
def shutDown (t : Timeline) : Bool × Bool :=
  let heeded := t.session.pool.monitor != .ended
  let t := ((t.close.apply (.pool .signal)).apply (.pool .drop)).settle
  let t := t.runUntil (t.now + patience) fun t => t.session.pool.isDrained
  (heeded, t.session.pool.isDrained)

end Timeline

end Thumbnailer.Session
