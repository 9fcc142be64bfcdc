/-
Serving connections: one request is read from each, queued, rendered by a worker, and answered.

A request and its connection travel together through the worker pool, so whoever renders a request
also holds the way back to the one who sent it.

* **`Connection`** — both directions of one connection, and how far its serving has come.
* **`Request`** — what the pool keeps of a connection: its number and the command it brought.
* **`Session`** — the connections, the pool of their requests, and what has been logged and asked.
* **`Event`** — what may happen next, in any order that `Session.step?` admits.
* **`Session.step?`** — the state after an event, if the event can happen.
* **`Session.Reachable`** — the states that some run leads to.
-/
import Thumbnailer.Link.Reading
import Thumbnailer.Pool.Basic
import Thumbnailer.Rendering

namespace Thumbnailer

namespace Session

/-- What connections are served with: deadlines in milliseconds, and the largest payload. -/
structure Settings where
  readTimeout : Nat
  writeTimeout : Nat
  maxFrameSize : Nat
  deriving DecidableEq, Repr

namespace Settings

def standard : Settings := ⟨5000, 5000, 64 * 1024 * 1024⟩

end Settings

/-- A command on its way through the pool, and the connection its answer goes to. -/
structure Request where
  connection : Nat
  command : Wire.Command
  deriving DecidableEq, Repr

inductive Ending
  /-- No request could be read. -/
  | unreadable (cause : Error)
  /-- The pool took no more requests. -/
  | refused (request : Wire.Command)
  /-- It was given up before its request was queued. -/
  | abandoned
  /-- The whole answer was written. -/
  | answered (request : Wire.Command)
  /-- The answer could not be written to its end. -/
  | unanswered (request : Wire.Command) (cause : Error)
  deriving DecidableEq, Repr

/-- How far the serving of a connection has come. -/
inductive Phase
  | reading (r : Link.Reading)
  /-- The request waits for a place in the queue. -/
  | pushing (request : Wire.Command)
  | queued (request : Wire.Command)
  /-- A worker has the request. -/
  | rendering (request : Wire.Command)
  /-- The first `written` bytes of the answer's frame are in the pipe. -/
  | answering (request : Wire.Command) (frame : List UInt8) (written : Nat)
  | ended (ending : Ending)
  deriving DecidableEq, Repr

namespace Phase

/-- Whether the request of a connection was to shut down, once it is certain whether it is queued. -/
def accepted? : Phase → Option Bool
  | reading _ => none
  | pushing _ => none
  | queued request => some request.isShutdown
  | rendering request => some request.isShutdown
  | answering request _ _ => some request.isShutdown
  | ended (.unreadable _) => some false
  | ended (.refused _) => some false
  | ended .abandoned => none
  | ended (.answered request) => some request.isShutdown
  | ended (.unanswered request _) => some request.isShutdown

/-- Whether a connection's request is not queued yet. -/
def isBefore : Phase → Bool
  | reading _ => true
  | pushing _ => true
  | _ => false

def isOver : Phase → Bool
  | ended _ => true
  | _ => false

end Phase

/-- A connection. Each direction holds at most `capacity` bytes on their way. -/
structure Connection where
  capacity : Nat
  phase : Phase
  /-- The bytes on their way to the worker. -/
  inbox : List UInt8
  /-- Whether the peer sends no more. -/
  ended : Bool
  gone : Bool
  /-- The bytes on their way to the peer. -/
  outbox : List UInt8
  /-- All bytes that the peer sent. -/
  sent : List UInt8
  /-- All bytes that the peer got. -/
  received : List UInt8
  deriving DecidableEq, Repr

namespace Connection

def start (capacity : Nat) : Connection where
  capacity := capacity
  phase := .reading .start
  inbox := []
  ended := false
  gone := false
  outbox := []
  sent := []
  received := []

/-- How many more bytes the peer may send at once. -/
def room (c : Connection) : Nat := c.capacity - c.inbox.length

/-- The connection once the peer sent some bytes. -/
def send? (c : Connection) (bytes : List UInt8) : Option Connection :=
  if c.ended || c.gone || c.phase.isOver || c.room < bytes.length then none
  else some { c with inbox := c.inbox ++ bytes, sent := c.sent ++ bytes }

/-- The connection once the peer read at most `count` bytes. -/
def collect? (c : Connection) (count : Nat) : Option Connection :=
  if c.gone then none
  else some { c with
    outbox := c.outbox.drop count, received := c.received ++ c.outbox.take count }

end Connection

/-- What may happen in a session. -/
inductive Event
  /-- A peer connects, and the reading of its request begins. -/
  | connect (capacity : Nat)
  | send (id : Nat) (bytes : List UInt8)
  /-- A peer will send no more. -/
  | endSending (id : Nat)
  | leave (id : Nat)
  | collect (id count : Nat)
  /-- The worker reads what has arrived, or that nothing will. -/
  | read (id : Nat)
  | expire (id : Nat)
  /-- The serving of a connection whose request is not queued yet is given up. -/
  | abandon (id : Nat)
  /-- The request of a connection enters the queue. -/
  | enqueue (id : Nat)
  /-- The request of a connection learns that the pool takes no more. -/
  | refuse (stage : Pool.Stage) (id : Nat)
  /-- An idle worker takes the first request of the queue. -/
  | take (worker : Nat)
  /-- A worker renders its request and begins to answer. -/
  | respond (worker : Nat)
  /-- A worker writes as much of its answer as finds room. -/
  | write (worker : Nat)
  | writeLate (worker : Nat)
  /-- Something that concerns the pool alone. -/
  | pool (e : Pool.Event Request)
  deriving DecidableEq, Repr

/-- Whether an event of the pool concerns no connection. -/
def isHousekeeping : Pool.Event Request → Bool
  | .grant => true
  | .leave _ => true
  | .watch => true
  | .round => true
  | .look => true
  | .signal => true
  | .dismiss => true
  | .closeSlots => true
  | .close => true
  | .drop => true
  | _ => false

end Session

/-- A state of the serving of connections, which are numbered from zero. -/
structure Session where
  settings : Session.Settings
  pool : Pool Session.Request
  connections : List Session.Connection
  /-- The answers that were begun to be written, with the connections they go to, in order. -/
  answers : List (Nat × Wire.Response)
  /-- What providers were asked, in order. -/
  asked : List (List Size)
  notices : List Notice

namespace Session

def start (settings : Settings) (pool : Pool.Settings) : Session where
  settings := settings
  pool := .start pool
  connections := []
  answers := []
  asked := []
  notices := []

/-- The session once a connection is in another phase. -/
def setPhase (s : Session) (id : Nat) (phase : Phase) : Session :=
  { s with connections := s.connections.modify id fun c => { c with phase := phase } }

/-- The session once a connection has changed. -/
def change? (s : Session) (id : Nat) (f : Connection → Option Connection) : Option Session := do
  let c ← s.connections[id]?
  let c ← f c
  some { s with connections := s.connections.set id c }

def note (s : Session) (n : Notice) : Session := { s with notices := s.notices ++ [n] }

/-- The session after an event of its pool. -/
def stepPool (s : Session) (e : Pool.Event Request) : Option Session := do
  let pool ← s.pool.step? e
  some { s with
    pool := pool, notices := s.notices ++ pool.notices.drop s.pool.notices.length }

/-- The session once the reading of a request has failed. -/
def unreadable (s : Session) (id : Nat) (cause : Error) : Session :=
  (s.setPhase id (.ended (.unreadable cause))).note (.unreadable cause)

/-- Reads on: what has arrived goes into the message; a whole request is pushed into the pool. -/
def stepRead (s : Session) (id : Nat) : Option Session := do
  let c ← s.connections[id]?
  match c.phase with
  | .reading r =>
    let (progress, rest) : Link.Progress Wire.Command × List UInt8 :=
      r.feed s.settings.maxFrameSize c.inbox
    let s' := { s with connections := s.connections.set id { c with inbox := rest } }
    match progress with
    | .waiting r =>
      if !c.inbox.isEmpty then some (s'.setPhase id (.reading r))
      else if c.ended || c.gone then some (s'.unreadable id (.io .earlyEnd))
      else none
    | .done (.error cause) => some (s'.unreadable id cause)
    | .done (.ok request) => (s'.setPhase id (.pushing request)).stepPool (.push ⟨id, request⟩)
  | _ => none

/-- Lets the deadline of a reading pass. What has arrived by then is read first, so this ends only a
reading that needs more, from a peer that may still send it. -/
def stepExpire (s : Session) (id : Nat) : Option Session := do
  let c ← s.connections[id]?
  match c.phase with
  | .reading r =>
    let (progress, rest) : Link.Progress Wire.Command × List UInt8 :=
      r.feed s.settings.maxFrameSize c.inbox
    match progress with
    | .waiting r =>
      if c.ended || c.gone then none
      else
        let s' := { s with connections := s.connections.set id { c with inbox := rest } }
        some (s'.unreadable id r.late)
    | .done _ => none
  | _ => none

/-- Gives a connection up whose request is not queued yet. -/
def stepAbandon (s : Session) (id : Nat) : Option Session := do
  let c ← s.connections[id]?
  match c.phase with
  | .reading _ => some (s.setPhase id (.ended .abandoned))
  | .pushing request =>
    (s.setPhase id (.ended .abandoned)).stepPool
      (.abandon (s.pool.stageOf ⟨id, request⟩) ⟨id, request⟩)
  | _ => none

/-- Lets the request of a connection enter the queue. -/
def stepEnqueue (s : Session) (id : Nat) : Option Session := do
  let c ← s.connections[id]?
  match c.phase with
  | .pushing request => (s.setPhase id (.queued request)).stepPool (.enqueue ⟨id, request⟩)
  | _ => none

/-- Ends the push of a request that the pool does not take. -/
def stepRefuse (s : Session) (stage : Pool.Stage) (id : Nat) : Option Session := do
  let c ← s.connections[id]?
  match c.phase with
  | .pushing request => do
    let s ← s.stepPool (.refuse stage ⟨id, request⟩)
    some ((s.setPhase id (.ended (.refused request))).note
      (.refused request.kind (.queue .closed)))
  | _ => none

/-- Lets a worker take the first request of the queue. -/
def stepTake (s : Session) (worker : Nat) : Option Session := do
  let r ← s.pool.queue.head?
  let _ ← s.connections[r.connection]?
  (s.setPhase r.connection (.rendering r.command)).stepPool (.take worker)

/-- The request that a worker has, and its connection. -/
def served? (s : Session) (worker : Nat) : Option (Request × Connection) := do
  let activity ← s.pool.activity? worker
  let r ← activity.task?
  let c ← s.connections[r.connection]?
  some (r, c)

/-- Lets a worker render its request and begin to answer. -/
def stepRespond (provider : Provider) (s : Session) (worker : Nat) : Option Session := do
  let (r, c) ← s.served? worker
  match c.phase with
  | .rendering _ =>
    let a := provider.respond r.command
    some { s.setPhase r.connection (.answering r.command (Wire.frame a.response) 0) with
      answers := s.answers ++ [(r.connection, a.response)]
      asked := s.asked ++ a.asked
      notices := s.notices ++ a.notices }
  | _ => none

/-- Ends the answering of a request. -/
def finish (s : Session) (worker id : Nat) (ending : Ending) : Option Session :=
  let s := s.setPhase id (.ended ending)
  let s := match ending with
    | .unanswered request cause => s.note (.unanswered request.kind cause)
    | _ => s
  s.stepPool (.finish worker)

/-- Lets a worker write as much of its answer as finds room. -/
def stepWrite (s : Session) (worker : Nat) : Option Session := do
  let (r, c) ← s.served? worker
  let id := r.connection
  match c.phase with
  | .answering request frame written =>
    if c.gone then s.finish worker id (.unanswered request (.io .pipeBroken))
    else
      let chunk := (frame.drop written).take (c.capacity - c.outbox.length)
      let s := { s with connections := s.connections.set id { c with outbox := c.outbox ++ chunk } }
      if written + chunk.length = frame.length then s.finish worker id (.answered request)
      else if chunk.isEmpty then none
      else some (s.setPhase id (.answering request frame (written + chunk.length)))
  | _ => none

/-- Ends an answering whose deadline passes. -/
def stepWriteLate (s : Session) (worker : Nat) : Option Session := do
  let (r, c) ← s.served? worker
  match c.phase with
  | .answering request frame _ =>
    s.finish worker r.connection (.unanswered request (.late (.writing frame.length)))
  | _ => none

/-- Lets something happen that concerns the pool alone. Nobody drops the pool while a connection is
served by it. -/
def stepHousekeeping (s : Session) (e : Pool.Event Request) : Option Session :=
  if !isHousekeeping e then none
  else if e = .drop ∧ s.connections.any (·.phase.isBefore) then none
  else s.stepPool e

/-- The state after an event, if the event can happen. -/
def step? (provider : Provider) (s : Session) : Event → Option Session
  | .connect capacity =>
    if s.pool.dropped then none
    else some { s with connections := s.connections ++ [.start capacity] }
  | .send id bytes => s.change? id (·.send? bytes)
  | .endSending id => s.change? id fun c => if c.gone then none else some { c with ended := true }
  | .leave id => s.change? id fun c => if c.gone then none else some { c with gone := true }
  | .collect id count => s.change? id (·.collect? count)
  | .read id => s.stepRead id
  | .expire id => s.stepExpire id
  | .abandon id => s.stepAbandon id
  | .enqueue id => s.stepEnqueue id
  | .refuse stage id => s.stepRefuse stage id
  | .take worker => s.stepTake worker
  | .respond worker => s.stepRespond provider worker
  | .write worker => s.stepWrite worker
  | .writeLate worker => s.stepWriteLate worker
  | .pool e => s.stepHousekeeping e

inductive Reachable (provider : Provider) (settings : Settings) (pool : Pool.Settings) :
    Session → Prop
  | start : Reachable provider settings pool (start settings pool)
  | next {s t : Session} (e : Event) :
    Reachable provider settings pool s → s.step? provider e = some t →
      Reachable provider settings pool t

end Session

end Thumbnailer
