/-
Workers, and the monitor's round that replaces those that broke down.

* **`Worker`** — a number and what the worker is doing.
* **`lookAt`** — one look of a round: a running worker stays, one that broke down is replaced in place
  by a fresh one of the same number, one that left for good is taken off the list, the last worker
  moving into its place to be looked at next.
* **`sweep`** — a whole round, when nothing else happens meanwhile.
-/
import Thumbnailer.Notice

namespace Thumbnailer.Pool

inductive Activity (τ : Type)
  | idle
  | running (task : τ)
  /-- It left, because no task can come any more. -/
  | gone
  /-- It broke down with its task. -/
  | panicked (cause : Panic)
  deriving DecidableEq, Repr

namespace Activity

variable {τ : Type}

/-- Whether a worker takes tasks or runs one. -/
def isLive : Activity τ → Bool
  | idle => true
  | running _ => true
  | _ => false

def isBroken : Activity τ → Bool
  | panicked _ => true
  | _ => false

def task? : Activity τ → Option τ
  | running task => some task
  | _ => none

end Activity

structure Worker (τ : Type) where
  id : Nat
  activity : Activity τ
  deriving DecidableEq, Repr

variable {τ : Type}

/-- Takes the element at a position off and moves the last one there. -/
def swapRemove {α : Type} (l : List α) (i : Nat) : List α :=
  match l.getLast? with
  | none => l
  | some last => (l.set i last).dropLast

theorem length_swapRemove {α : Type} (l : List α) (i : Nat) :
    (swapRemove l i).length = l.length - 1 := by
  unfold swapRemove
  cases h : l.getLast? with
  | none => simp_all [List.getLast?_eq_none_iff]
  | some last => simp

/-- What the monitor does about the worker at a position: the workers after that, the position it
looks at next, and what it tells the operator. -/
def lookAt (workers : List (Worker τ)) (i : Nat) : List (Worker τ) × Nat × List Notice :=
  match workers[i]? with
  | none => (workers, i, [])
  | some w =>
    match w.activity with
    | .gone => (swapRemove workers i, i, [])
    | .panicked cause =>
      (workers.set i ⟨w.id, .idle⟩, i + 1, [.workerPanicked w.id cause, .workerRestarted w.id])
    | _ => (workers, i + 1, [])

/-- Each look brings the round nearer to its end. -/
theorem lookAt_decreases {workers : List (Worker τ)} {i : Nat} (h : i < workers.length) :
    (lookAt workers i).1.length - (lookAt workers i).2.1 < workers.length - i := by
  simp only [lookAt, List.getElem?_eq_getElem h]
  split
  · dsimp only
    rw [length_swapRemove]
    omega
  · dsimp only
    rw [List.length_set]
    omega
  · dsimp only
    omega

/-- The round from position `i` on, and what it tells the operator. -/
def sweepFrom (workers : List (Worker τ)) (i : Nat) : List (Worker τ) × List Notice :=
  if i < workers.length then
    let (rest, notices) := sweepFrom (lookAt workers i).1 (lookAt workers i).2.1
    (rest, (lookAt workers i).2.2 ++ notices)
  else (workers, [])
termination_by workers.length - i
decreasing_by exact lookAt_decreases (by assumption)

/-- One round of the monitor. -/
def sweep (workers : List (Worker τ)) : List (Worker τ) × List Notice := sweepFrom workers 0

end Thumbnailer.Pool
