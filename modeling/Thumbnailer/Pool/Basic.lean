/-
The worker pool: a bounded queue, workers that share it, and a monitor that replaces workers.

A task takes one of the pool's slots before it enters the queue and gives it back when it has run,
so that queued and running tasks together never outnumber the slots. Whoever pushes waits in line
for a slot, first come first served. Closing comes in two steps, and a round of the monitor in one for
each look, so that anything may happen between them.

* **`Pool`** — a state of the pool, with the history of its tasks.
* **`Event`** — what may happen next, in any order that `Pool.step?` admits.
* **`Pool.step?`** — the state after an event, if the event can happen.
* **`Pool.Reachable`** — the states that some run leads to.
-/
import Thumbnailer.Pool.Sweep

namespace Thumbnailer

namespace Pool

structure Settings where
  /-- How many tasks run at a time. -/
  workers : Nat
  /-- How many tasks are queued or running at a time. -/
  slots : Nat
  /-- The time between two rounds of the monitor, in milliseconds. -/
  interval : Nat
  deriving DecidableEq, Repr

namespace Settings

def standard : Settings := ⟨4, 64, 5000⟩

/-- The largest number of slots that a pool can have. -/
def maxSlots : Nat := 0x1FFFFFFFFFFFFFFF

/-- Why no pool of this size can be made, if so: a queue has room for at least one task, and slots can
be counted up to a limit. -/
def unusable? (s : Settings) : Option String :=
  if s.slots = 0 then some "capacity cannot be zero"
  else if maxSlots < s.slots then
    some s!"a semaphore may not have more than MAX_PERMITS permits ({maxSlots})"
  else none

end Settings

inductive Monitor
  | starting
  | watching
  /-- It is in a round, and looks at the worker at a position next. -/
  | looking (position : Nat)
  | ended
  deriving DecidableEq, Repr

inductive Stage
  /-- It is in line for a slot. -/
  | waiting
  /-- It has a slot, and its task is not in the queue yet. -/
  | granted
  deriving DecidableEq, Repr

inductive Event (τ : Type)
  /-- Somebody starts to push a task. -/
  | push (task : τ)
  | abandon (stage : Stage) (task : τ)
  /-- The first in line gets a slot. -/
  | grant
  /-- A push with a slot puts its task into the queue. -/
  | enqueue (task : τ)
  /-- A push learns that the pool takes no tasks. -/
  | refuse (stage : Stage) (task : τ)
  /-- An idle worker takes the first task of the queue. -/
  | take (worker : Nat)
  | finish (worker : Nat)
  | panic (worker : Nat) (cause : Panic)
  /-- An idle worker leaves, since no task can come any more. -/
  | leave (worker : Nat)
  /-- The monitor begins to watch; with no time between its rounds it breaks down at once. -/
  | watch
  /-- The monitor makes a whole round, and nothing else happens meanwhile. -/
  | round
  /-- The monitor begins a round, looks at one worker, or ends its round. -/
  | look
  /-- The pool is told to stop, or nobody is left who could tell it. -/
  | signal
  /-- The monitor heeds the signal. -/
  | dismiss
  /-- Closing begins: no more slots are given. -/
  | closeSlots
  /-- Closing is done: no more tasks are taken. -/
  | close
  /-- Nobody can push any more. -/
  | drop
  deriving DecidableEq, Repr

end Pool

/-- A state of a worker pool. -/
structure Pool (τ : Type) where
  settings : Pool.Settings
  free : Nat
  /-- Pushes in line for a slot. -/
  waiting : List τ
  /-- Pushes that have a slot and did not enter the queue yet. -/
  granted : List τ
  queue : List τ
  workers : List (Pool.Worker τ)
  monitor : Pool.Monitor
  signalled : Bool
  /-- Whether the pool was told to close, so that no more slots are given. -/
  closing : Bool
  closed : Bool
  dropped : Bool
  /-- The tasks whose push began, in order. -/
  pushed : List τ
  /-- The tasks that entered the queue, in order. -/
  accepted : List τ
  /-- The tasks whose push failed, in order. -/
  refused : List τ
  /-- The tasks whose push was abandoned, in order. -/
  abandoned : List τ
  /-- The tasks that workers took, in order. -/
  started : List τ
  finished : List τ
  panicked : List τ
  notices : List Notice

namespace Pool

variable {τ : Type} [DecidableEq τ]

def start (s : Settings) : Pool τ where
  settings := s
  free := s.slots
  waiting := []
  granted := []
  queue := []
  workers := (List.range s.workers).map fun id => ⟨id, .idle⟩
  monitor := .starting
  signalled := false
  closing := false
  closed := false
  dropped := false
  pushed := []
  accepted := []
  refused := []
  abandoned := []
  started := []
  finished := []
  panicked := []
  notices := []

/-- The workers that take tasks or run one. -/
def live (p : Pool τ) : List (Worker τ) := p.workers.filter (·.activity.isLive)

def running (p : Pool τ) : List τ := p.workers.filterMap (·.activity.task?)

/-- Whether there is anybody to take tasks out of the queue: a live worker, or the monitor, which
may replace one. -/
def hasTakers (p : Pool τ) : Bool := !p.live.isEmpty || p.monitor != .ended

/-- Whether tasks may enter the queue. -/
def isOpen (p : Pool τ) : Bool := !p.closed && !p.dropped && p.hasTakers

/-- Whether nobody is left who keeps the pool from being done. -/
def isDrained (p : Pool τ) : Bool := !p.hasTakers

/-- What the worker with a given number is doing. -/
def activity? (p : Pool τ) (worker : Nat) : Option (Activity τ) :=
  (p.workers.find? (·.id == worker)).map (·.activity)

/-- The pool once a worker is doing something else. -/
def setActivity (p : Pool τ) (worker : Nat) (a : Activity τ) : Pool τ :=
  { p with workers := p.workers.map fun w => if w.id == worker then ⟨w.id, a⟩ else w }

def pushes (p : Pool τ) : Stage → List τ
  | .waiting => p.waiting
  | .granted => p.granted

/-- How far the push of a task has come. -/
def stageOf (p : Pool τ) (task : τ) : Stage := if task ∈ p.waiting then .waiting else .granted

/-- Whether a push at a stage learns that the pool takes no tasks. One that has a slot learns it from
the queue, or from the slots if its slot came while it was in line. -/
def refuses (p : Pool τ) : Stage → Bool
  | .waiting => p.closing
  | .granted => p.closing || !p.isOpen

/-- The pool without a push; a slot it had goes back. -/
def withdraw (p : Pool τ) (task : τ) (stage : Stage) : Pool τ :=
  { p with
    waiting := if stage = .waiting then p.waiting.erase task else p.waiting
    granted := if stage = .granted then p.granted.erase task else p.granted
    free := if stage = .granted then p.free + 1 else p.free }

/-- Ends the push of a task that learns that the pool takes no tasks. -/
def stepRefuse (p : Pool τ) (stage : Stage) (task : τ) : Option (Pool τ) :=
  if task ∈ p.pushes stage ∧ p.refuses stage then
    some { p.withdraw task stage with refused := p.refused ++ [task] }
  else none

/-- Ends the push of a task that is abandoned. -/
def stepAbandon (p : Pool τ) (stage : Stage) (task : τ) : Option (Pool τ) :=
  if task ∈ p.pushes stage then
    some { p.withdraw task stage with abandoned := p.abandoned ++ [task] }
  else none

/-- Puts the task of a push that has a slot into the queue, if there is room. -/
def stepEnqueue (p : Pool τ) (task : τ) : Option (Pool τ) :=
  if task ∈ p.granted ∧ p.isOpen ∧ p.queue.length < p.settings.slots then
    some { p with granted := p.granted.erase task, queue := p.queue ++ [task]
                  accepted := p.accepted ++ [task] }
  else none

/-- Goes on with the monitor's round. -/
def stepLook (p : Pool τ) : Option (Pool τ) :=
  match p.monitor with
  | .watching => some { p with monitor := .looking 0 }
  | .looking i =>
    if i < p.workers.length then
      let (workers, position, notices) := lookAt p.workers i
      some { p with workers := workers, monitor := .looking position
                    notices := p.notices ++ notices }
    else some { p with monitor := .watching }
  | _ => none

/-- Lets a worker take the first task of the queue. -/
def stepTake (p : Pool τ) (worker : Nat) : Option (Pool τ) :=
  match p.activity? worker, p.queue with
  | some .idle, task :: rest =>
    some { p.setActivity worker (.running task) with
      queue := rest, started := p.started ++ [task] }
  | _, _ => none

/-- The state after an event, if the event can happen. -/
def step? (p : Pool τ) : Event τ → Option (Pool τ)
  | .push task =>
    if p.dropped then none
    else some { p with waiting := p.waiting ++ [task], pushed := p.pushed ++ [task] }
  | .abandon stage task => p.stepAbandon stage task
  | .grant =>
    match p.waiting with
    | task :: rest =>
      if p.closing || p.free == 0 then none
      else some { p with waiting := rest, granted := p.granted ++ [task], free := p.free - 1 }
    | [] => none
  | .enqueue task => p.stepEnqueue task
  | .refuse stage task => p.stepRefuse stage task
  | .take worker => p.stepTake worker
  | .finish worker =>
    match p.activity? worker with
    | some (.running task) =>
      some { p.setActivity worker .idle with
        free := p.free + 1, finished := p.finished ++ [task] }
    | _ => none
  | .panic worker cause =>
    match p.activity? worker with
    | some (.running task) =>
      some { p.setActivity worker (.panicked cause) with
        free := p.free + 1, panicked := p.panicked ++ [task] }
    | _ => none
  | .leave worker =>
    if p.activity? worker = some .idle ∧ p.queue = [] ∧ (p.closed ∨ p.dropped) then
      some (p.setActivity worker .gone)
    else none
  | .watch =>
    if p.monitor = .starting then
      some { p with monitor := if p.settings.interval = 0 then .ended else .watching }
    else none
  | .round =>
    if p.monitor = .watching then
      let (workers, notices) := sweep p.workers
      some { p with workers := workers, notices := p.notices ++ notices }
    else none
  | .look => p.stepLook
  | .signal => some { p with signalled := true }
  | .dismiss =>
    if p.monitor = .watching ∧ p.signalled then some { p with monitor := .ended } else none
  | .closeSlots => if p.dropped then none else some { p with closing := true }
  | .close => if p.dropped then none else some { p with closing := true, closed := true }
  | .drop =>
    if p.waiting = [] ∧ p.granted = [] ∧ p.closing = p.closed then some { p with dropped := true }
    else none

/-- The states that some run of a pool leads to. -/
inductive Reachable (s : Settings) : Pool τ → Prop
  | start : Reachable s (start s)
  | next {p q : Pool τ} (e : Event τ) : Reachable s p → p.step? e = some q → Reachable s q

/-- What can happen on its own next: no new push, no end of a task, no outer signal, no time. -/
def internal (p : Pool τ) : List (Event τ) :=
  [.watch, .dismiss] ++ p.granted.head?.toList.map (.refuse .granted) ++
    p.waiting.head?.toList.map (.refuse .waiting) ++ [.grant] ++
    p.granted.head?.toList.map .enqueue ++
    (p.live.filter (·.activity.task?.isNone)).flatMap fun w => [.take w.id, .leave w.id]

/-- The first thing that can happen on its own, and the state after it. -/
def next? (p : Pool τ) : Option (Event τ × Pool τ) :=
  p.internal.findSome? fun e => (p.step? e).map fun q => (e, q)

end Pool

end Thumbnailer
