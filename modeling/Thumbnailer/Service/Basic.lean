/-
The worker as a service: connections are accepted one at a time, until a shutdown is accepted.

* **`Service`** — a session, and where the accepting of connections is.
* **`Service.step?`** — the state after an event, if the event can happen. The next connection is
  accepted once it is known what became of the request of the one before; a shutdown that was queued
  closes the pool, and the service ends when all queued requests have been seen to.
* **`Service.Reachable`** — the states that some run leads to.
-/
import Thumbnailer.Session.Basic

namespace Thumbnailer

namespace Service

/-- Where the accepting of connections is. -/
inductive Loop
  | accepting
  /-- A request is read and queued. -/
  | serving (id : Nat)
  /-- No more connections are accepted, and queued requests are still answered. -/
  | draining
  | ended
  deriving DecidableEq, Repr

namespace Loop

/-- Whether more connections may come. -/
def isOpen : Loop → Bool
  | accepting => true
  | serving _ => true
  | _ => false

end Loop

inductive Event
  | accept (capacity : Nat)
  | session (e : Session.Event)
  /-- It is known what became of the request that is served. -/
  | turn
  /-- Everything is seen to. -/
  | finish
  deriving DecidableEq, Repr

/-- Whether an event of the session may happen by itself in a service. -/
def isOwn : Session.Event → Bool
  | .connect _ => false
  | .abandon _ => false
  | .pool .signal => false
  | .pool .closeSlots => false
  | .pool .close => false
  | .pool .drop => false
  | _ => true

end Service

structure Service where
  session : Session
  loop : Service.Loop

namespace Service

def start (settings : Session.Settings) (pool : Pool.Settings) : Service :=
  ⟨.start settings pool, .accepting⟩

/-- What became of the request of a connection: whether a shutdown was accepted, once that is
known. -/
def outcome? (s : Service) (id : Nat) : Option Bool :=
  (s.session.connections[id]?).bind (·.phase.accepted?)

/-- Closes the pool, tells it to stop, and drops it. -/
def drain (provider : Provider) (s : Session) : Option Session := do
  let s ← s.step? provider (.pool .close)
  let s ← s.step? provider (.pool .signal)
  s.step? provider (.pool .drop)

/-- The state after an event, if the event can happen. -/
def step? (provider : Provider) (s : Service) : Event → Option Service
  | .accept capacity =>
    if s.loop = .accepting then do
      let session ← s.session.step? provider (.connect capacity)
      some ⟨session, .serving s.session.connections.length⟩
    else none
  | .session e =>
    if isOwn e then do
      let session ← s.session.step? provider e
      some ⟨session, s.loop⟩
    else none
  | .turn =>
    match s.loop with
    | .serving id => do
      if ← s.outcome? id then
        let session ← drain provider s.session
        some ⟨session, .draining⟩
      else some { s with loop := .accepting }
    | _ => none
  | .finish =>
    if s.loop = .draining ∧ s.session.pool.isDrained then some { s with loop := .ended } else none

/-- The states that some run of a service leads to. -/
inductive Reachable (provider : Provider) (settings : Session.Settings) (pool : Pool.Settings) :
    Service → Prop
  | start : Reachable provider settings pool (start settings pool)
  | next {s t : Service} (e : Event) :
    Reachable provider settings pool s → s.step? provider e = some t →
      Reachable provider settings pool t

end Service

end Thumbnailer
