/-
A worker on a clock that listens on a socket, and what those who connect to it meet.

* **`Worker.exchange`** — one connection. A worker that accepted a shutdown sees to all that is
  queued and stops listening.
-/
import Thumbnailer.Client
import Thumbnailer.Service.Basic
import Thumbnailer.Session.Timeline

namespace Thumbnailer

structure Worker where
  timeline : Session.Timeline
  loop : Service.Loop

namespace Worker

open Session (Deed Timeline)

def start (provider : Provider) (settings : Session.Settings) (pool : Pool.Settings) : Worker :=
  ⟨.start provider settings pool, .accepting⟩

def withProvider (w : Worker) (provider : Provider) : Worker :=
  { w with timeline := { w.timeline with provider := provider } }

/-- The service that a worker is, apart from the clock. -/
def service (w : Worker) : Service := ⟨w.timeline.session, w.loop⟩

/-- The worker after an event of the service; one that can not happen changes nothing. -/
def apply (w : Worker) (e : Service.Event) : Worker :=
  match w.service.step? w.timeline.provider e with
  | some s => ⟨{ w.timeline with session := s.session }, s.loop⟩
  | none => w

def listening (w : Worker) : Bool := w.loop.isOpen

/-- Whether everything came to its end after a shutdown. -/
def ended (w : Worker) : Bool := w.loop == .ended

/-- How many bytes a socket holds for each direction. -/
def socketCapacity : Nat := 212992

/-- How a connection that is hung up looks to a peer that has read everything: the loss of bytes that
the worker did not read is told. -/
def hangUp (c : Session.Connection) : IoError :=
  if c.inbox.isEmpty then .earlyEnd else .system .connectionReset

/-- Sees to all that is queued. -/
def seeOut (w : Worker) : Worker :=
  let t := w.timeline.settle
  { w with timeline := t.runUntil (t.now + Timeline.patience) (·.session.pool.isDrained) }.apply
    .finish

def stop (w : Worker) : Worker :=
  let session := (Service.drain w.timeline.provider w.timeline.session).getD w.timeline.session
  Worker.seeOut ⟨{ w.timeline with session := session }, .draining⟩

def last? (w : Worker) : Option Session.Connection := w.timeline.session.connections.getLast?

/-- Lets the connection that has just been accepted be served, and goes on. A request that is still
queued when the worker comes to its end goes with the pool, and its peer meets the end of the
connection. -/
def attend (w : Worker) (deeds : List Deed) : Worker × Timeline.Report :=
  let id := w.timeline.visits.length
  let (u, report) := w.timeline.conclude id (w.timeline.serve ⟨socketCapacity, deeds, 0⟩)
  let w := { w with timeline := u }.apply .turn
  if w.loop = .draining then
    let w := w.seeOut
    (w, if w.ended then { report with answer? := w.last?.map (·.received) } else report)
  else (w, report)

/-- One connection whose peer does some things. While another one is served, it waits and gets
nothing. -/
def exchange (w : Worker) (deeds : List Deed) : Worker × Timeline.Report :=
  match w.loop with
  | .accepting => (w.apply (.accept socketCapacity)).attend deeds
  | _ => (w, ⟨none, Timeline.patience, none, [], []⟩)

/-- What a client meets on the last connection, over which it sent `frame`. -/
def reply (w : Worker) (frame : List UInt8) : Reply :=
  match w.last? with
  | none => .line (.ofArrivals [])
  | some c =>
    let isOver := c.phase.isOver || w.ended
    if frame.length = c.sent.length then
      .line ⟨c.received, if isOver then some (hangUp c) else none, []⟩
    else if isOver then .unsent (.io (.system .brokenPipe))
    else .unsent (.late (.writing frame.length))

/-- One connection of a client that sends a request and reads until the worker hangs up. -/
def call (w : Worker) (request : Wire.Command) : Worker × Reply × List (List Size) :=
  match w.loop with
  | .accepting =>
    let frame := Wire.frame request
    let (w, report) := w.exchange [.say frame, .listen]
    (w, w.reply frame, report.asked)
  | .serving _ => (w, .line (.ofArrivals []), [])
  | _ => (w, .unreachable (.system .notFound), [])

end Worker

end Thumbnailer
