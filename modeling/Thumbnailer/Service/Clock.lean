/-
A service on a clock.

The clock stands beside the service, and time passes as an event of its own.  All that it decides is
which deadlines have come: the reading of a request may be given up only so long after its connection
was accepted, and the writing of an answer only so long after it was begun.

* **`Clocked`** — a service, the moment, and the moments from which the deadlines count.
* **`Clocked.isDue`** — whether the deadline has come whose passing an event is.
-/
import Thumbnailer.Service.Basic

namespace Thumbnailer.Service

/-- When the serving of a connection came how far. -/
structure Moments where
  accepted : Nat
  /-- When the answering began. -/
  answering? : Option Nat
  deriving DecidableEq, Repr

/-- A service on a clock, in milliseconds. -/
structure Clocked where
  service : Service
  now : Nat
  /-- One for each connection. -/
  moments : List Moments

namespace Clocked

inductive Event
  | wait (ms : Nat)
  | service (e : Service.Event)
  deriving DecidableEq, Repr

def start (settings : Session.Settings) (pool : Pool.Settings) : Clocked :=
  ⟨.start settings pool, 0, []⟩

/-- Until when the request of a connection has to be read. -/
def readBy? (s : Clocked) (id : Nat) : Option Nat :=
  (s.moments[id]?).map (·.accepted + s.service.session.settings.readTimeout)

/-- Until when the answer to a connection has to be written. -/
def writeBy? (s : Clocked) (id : Nat) : Option Nat :=
  (s.moments[id]?).bind fun m =>
    m.answering?.map (· + s.service.session.settings.writeTimeout)

def servedBy? (s : Clocked) (worker : Nat) : Option Nat :=
  (s.service.session.served? worker).map (·.1.connection)

/-- Whether an event may happen by now: a deadline passes when it has come. -/
def isDue (s : Clocked) : Service.Event → Bool
  | .session (.expire id) => (s.readBy? id).any (· ≤ s.now)
  | .session (.writeLate worker) => ((s.servedBy? worker).bind s.writeBy?).any (· ≤ s.now)
  | _ => true

/-- The moments, once an event has happened from which a deadline counts. -/
def momentsAfter (s : Clocked) : Service.Event → List Moments
  | .accept _ => s.moments ++ [⟨s.now, none⟩]
  | .session (.respond worker) =>
    (s.servedBy? worker).elim s.moments fun id =>
      s.moments.modify id fun m => { m with answering? := some s.now }
  | _ => s.moments

def step? (provider : Provider) (s : Clocked) : Event → Option Clocked
  | .wait ms => some { s with now := s.now + ms }
  | .service e =>
    if s.isDue e then
      (s.service.step? provider e).map fun t => ⟨t, s.now, s.momentsAfter e⟩
    else none

/-- The states that some run of a service on a clock leads to. -/
inductive Reachable (provider : Provider) (settings : Session.Settings) (pool : Pool.Settings) :
    Clocked → Prop
  | start : Reachable provider settings pool (start settings pool)
  | next {s t : Clocked} (e : Event) :
    Reachable provider settings pool s → s.step? provider e = some t →
      Reachable provider settings pool t

end Clocked

end Thumbnailer.Service
