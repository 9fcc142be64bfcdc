/-
A pool on a clock of its own, with tasks that wait at a gate, sleep or break down.

Everything that can happen at a moment happens before the clock moves on; the clock then jumps to the
next moment at which something is due. Each event is one that `Pool.step?` admits, so a timeline is
one run of the pool.

* **`Job`** — what a task does.
* **`Timeline`** — the pool, the clock, and who waits for what until when.
* **`Timeline.settle`** — lets everything happen that needs no time.
* **`Timeline.advance`** — moves the clock to a later moment.
* **`Timeline.perform`** — one action from outside.
-/
import Thumbnailer.Pool.Basic

namespace Thumbnailer.Pool

/-- A task: it waits for a pass at the gate if it is gated, sleeps, and then is done or breaks
down. -/
structure Job where
  id : Nat
  gated : Bool
  sleep? : Option Nat
  panic? : Option Panic
  deriving DecidableEq, Repr

/-- A pool on a clock, in milliseconds. -/
structure Timeline where
  pool : Pool Job
  now : Nat
  /-- The passes that are left at the gate. -/
  passes : Nat
  /-- The workers that wait at the gate, first come first served. -/
  atGate : List Nat
  /-- The workers that sleep, and until when. -/
  asleep : List (Nat × Nat)
  /-- The pushes that are given up at some moment. -/
  givingUp : List (Job × Nat)
  /-- When the monitor makes its next round. -/
  nextRound : Nat
  /-- The largest number of tasks that ever ran at a time. -/
  peak : Nat
  /-- Whether the pool is still held from outside. -/
  held : Bool
  /-- Whether the signal can still be given from outside. -/
  signalHeld : Bool

namespace Timeline

def start (s : Settings) : Timeline where
  pool := .start s
  now := 0
  passes := 0
  atGate := []
  asleep := []
  givingUp := []
  nextRound := 0
  peak := 0
  held := true
  signalHeld := true

/-- The timeline after an event of the pool; one that can not happen changes nothing. -/
def apply (t : Timeline) (e : Event Job) : Timeline :=
  match t.pool.step? e with
  | some pool => { t with pool := pool, peak := max t.peak pool.running.length }
  | none => t

def job? (t : Timeline) (worker : Nat) : Option Job :=
  (t.pool.activity? worker).bind (·.task?)

def complete (t : Timeline) (worker : Nat) : Timeline :=
  match (t.job? worker).bind (·.panic?) with
  | some cause => t.apply (.panic worker cause)
  | none => t.apply (.finish worker)

/-- Lets a worker go on behind the gate. -/
def pass (t : Timeline) (worker : Nat) : Timeline :=
  match (t.job? worker).bind (·.sleep?) with
  | some ms =>
    if ms = 0 then t.complete worker else { t with asleep := t.asleep ++ [(worker, t.now + ms)] }
  | none => t.complete worker

/-- Lets a worker begin its job. -/
def begin_ (t : Timeline) (worker : Nat) : Timeline :=
  if ((t.job? worker).map (·.gated)).getD false then { t with atGate := t.atGate ++ [worker] }
  else t.pass worker

/-- What follows at once from an event that the pool went through on its own. -/
def follow (t : Timeline) : Event Job → Timeline
  | .watch => { (t.apply .round) with nextRound := t.now + t.pool.settings.interval }
  | .take worker => t.begin_ worker
  | _ => t

/-- The timeline after the first thing that happens on its own, if there is one. -/
def tick? (t : Timeline) : Option Timeline :=
  match t.pool.next? with
  | some (e, _) => some ((t.apply e).follow e)
  | none =>
    match t.atGate with
    | worker :: rest =>
      if t.passes = 0 then none
      else some ({ t with passes := t.passes - 1, atGate := rest }.pass worker)
    | [] => if !t.held && !t.pool.dropped then (t.pool.step? .drop).map fun p => { t with pool := p }
      else none

/-- Lets things happen on their own, at most `fuel` of them. -/
def settleWithin : Nat → Timeline → Timeline
  | 0, t => t
  | fuel + 1, t =>
    match t.tick? with
    | some t => settleWithin fuel t
    | none => t

/-- A bound on how many things can happen on their own: each push, job and worker has few. -/
def bound (t : Timeline) : Nat :=
  16 * (t.pool.waiting.length + t.pool.granted.length + t.pool.queue.length +
    t.pool.workers.length + t.atGate.length + 4)

/-- Lets everything happen that needs no time. -/
def settle (t : Timeline) : Timeline := settleWithin t.bound t

/-- Whether the monitor waits for its next round. -/
def watches (t : Timeline) : Bool := t.pool.monitor == .watching

def moments (t : Timeline) : List Nat :=
  t.asleep.map (·.2) ++ t.givingUp.map (·.2) ++ (if t.watches then [t.nextRound] else [])

/-- Lets what is due now happen: the monitor's round, the end of sleep, the end of patience. -/
def fire (t : Timeline) : Timeline :=
  let t := if t.watches && t.nextRound ≤ t.now then
      { (t.apply .round) with nextRound := t.now + t.pool.settings.interval }
    else t
  let awake := t.asleep.filter (·.2 ≤ t.now)
  let t := awake.foldl (fun t (worker, _) => t.complete worker)
    { t with asleep := t.asleep.filter (t.now < ·.2) }
  let late := t.givingUp.filter (·.2 ≤ t.now)
  late.foldl (fun t (job, _) => t.apply (.abandon (t.pool.stageOf job) job))
    { t with givingUp := t.givingUp.filter (t.now < ·.2) }

/-- Moves the clock to `target`, by way of each earlier moment at which something is due; `fuel`
bounds their number. What is due at `target` itself has not happened yet. -/
def advanceWithin : Nat → Nat → Timeline → Timeline
  | 0, target, t => { t with now := max t.now target }
  | fuel + 1, target, t =>
    match (t.moments.filter (· < target)).min? with
    | some moment => advanceWithin fuel target ({ t with now := max t.now moment }.fire.settle)
    | none => { t with now := max t.now target }

def advance (target : Nat) (t : Timeline) : Timeline :=
  advanceWithin (target + t.asleep.length + t.givingUp.length + 4 * t.bound) target t

inductive Action
  | push (job : Job) (giveUp? : Option Nat)
  | openGate (passes : Nat)
  | sleep (ms : Nat)
  | close
  | signal
  | dropSignal
  | drop
  deriving DecidableEq, Repr

/-- What an action finds. -/
inductive Remark
  | noPool
  | noSignal
  /-- How many took notice of the signal. -/
  | listeners (count : Nat)
  deriving DecidableEq, Repr

/-- The immediate effect of an action. -/
def act (t : Timeline) : Action → Timeline × Option Remark
  | .push job _ => if t.held then (t.apply (.push job), none) else (t, some .noPool)
  | .openGate n => ({ t with passes := t.passes + n }, none)
  | .sleep _ => (t, none)
  | .close => if t.held then (t.apply .close, none) else (t, some .noPool)
  | .signal =>
    if t.signalHeld then
      if t.pool.monitor == .ended then (t, some (.listeners 0))
      else (t.apply .signal, some (.listeners 1))
    else (t, some .noSignal)
  | .dropSignal => ({ (t.apply .signal) with signalHeld := false }, none)
  | .drop => ({ t with held := false }, none)

def Action.length : Action → Nat
  | .sleep ms => ms
  | _ => 0

/-- When a push that an action starts is given up. -/
def Action.patience : Action → Nat → List (Job × Nat)
  | .push job (some ms), now => [(job, now + ms)]
  | _, _ => []

/-- Does an action, lets everything happen that follows, and one more millisecond pass. What was due
before the action happens before what follows from it. -/
def perform (t : Timeline) (a : Action) : Timeline × Option Remark :=
  let (u, remark) := t.act a
  let u := u.fire
  let u := { u with givingUp := u.givingUp ++ a.patience u.now }.settle
  (advance (u.now + a.length + 1) u, remark)

end Timeline

end Thumbnailer.Pool
