/-
What a step of a pool can do.

`Pool.step?` computes the state after an event; `Pool.Step` says the same as a relation, one rule
for each way in which an event can happen, with all that has to hold before.  Every invariant of
pools is proved by cases on the rules, and never opens `step?` itself.

* **`Step`** — the rules;
* **`step?_eq_some_iff`** — they say what `step?` computes;
* **`Reachable.invariant`** — what holds of a new pool and is kept by every step holds in every
  reachable state;
* **`after?`** — the state after a list of events, for runs that are written out.
-/
import Thumbnailer.Pool.Basic

namespace Thumbnailer.Pool

variable {τ : Type} [DecidableEq τ] {s : Settings} {p q : Pool τ} {e : Event τ}

/-! ### The rules -/

/-- What an event does to a pool, and when it can happen. -/
inductive Step : Pool τ → Event τ → Pool τ → Prop
  | push {p : Pool τ} {task : τ} : p.dropped = false →
    Step p (.push task) { p with waiting := p.waiting ++ [task], pushed := p.pushed ++ [task] }
  | abandon {p : Pool τ} {stage : Stage} {task : τ} : task ∈ p.pushes stage →
    Step p (.abandon stage task)
      { p.withdraw task stage with abandoned := p.abandoned ++ [task] }
  | grant {p : Pool τ} {task : τ} {rest : List τ} :
    p.waiting = task :: rest → p.closing = false → 0 < p.free →
    Step p .grant { p with waiting := rest, granted := p.granted ++ [task], free := p.free - 1 }
  | enqueue {p : Pool τ} {task : τ} :
    task ∈ p.granted → p.isOpen = true → p.queue.length < p.settings.slots →
    Step p (.enqueue task)
      { p with granted := p.granted.erase task, queue := p.queue ++ [task]
               accepted := p.accepted ++ [task] }
  | refuse {p : Pool τ} {stage : Stage} {task : τ} :
    task ∈ p.pushes stage → p.refuses stage = true →
    Step p (.refuse stage task) { p.withdraw task stage with refused := p.refused ++ [task] }
  | take {p : Pool τ} {worker : Nat} {task : τ} {rest : List τ} :
    p.activity? worker = some .idle → p.queue = task :: rest →
    Step p (.take worker)
      { p.setActivity worker (.running task) with queue := rest, started := p.started ++ [task] }
  | finish {p : Pool τ} {worker : Nat} {task : τ} : p.activity? worker = some (.running task) →
    Step p (.finish worker)
      { p.setActivity worker .idle with free := p.free + 1, finished := p.finished ++ [task] }
  | panic {p : Pool τ} {worker : Nat} {cause : Panic} {task : τ} :
    p.activity? worker = some (.running task) →
    Step p (.panic worker cause)
      { p.setActivity worker (.panicked cause) with
        free := p.free + 1, panicked := p.panicked ++ [task] }
  | leave {p : Pool τ} {worker : Nat} :
    p.activity? worker = some .idle → p.queue = [] → p.closed = true ∨ p.dropped = true →
    Step p (.leave worker) (p.setActivity worker .gone)
  | watch {p : Pool τ} : p.monitor = .starting →
    Step p .watch { p with monitor := if p.settings.interval = 0 then .ended else .watching }
  | round {p : Pool τ} : p.monitor = .watching →
    Step p .round { p with
      workers := (sweep p.workers).1, notices := p.notices ++ (sweep p.workers).2 }
  | beginRound {p : Pool τ} : p.monitor = .watching → Step p .look { p with monitor := .looking 0 }
  | look {p : Pool τ} {i : Nat} : p.monitor = .looking i → i < p.workers.length →
    Step p .look { p with
      workers := (lookAt p.workers i).1, monitor := .looking (lookAt p.workers i).2.1
      notices := p.notices ++ (lookAt p.workers i).2.2 }
  | endRound {p : Pool τ} {i : Nat} : p.monitor = .looking i → p.workers.length ≤ i →
    Step p .look { p with monitor := .watching }
  | signal {p : Pool τ} : Step p .signal { p with signalled := true }
  | dismiss {p : Pool τ} : p.monitor = .watching → p.signalled = true →
    Step p .dismiss { p with monitor := .ended }
  | closeSlots {p : Pool τ} : p.dropped = false → Step p .closeSlots { p with closing := true }
  | close {p : Pool τ} : p.dropped = false →
    Step p .close { p with closing := true, closed := true }
  | drop {p : Pool τ} : p.waiting = [] → p.granted = [] → p.closing = p.closed →
    Step p .drop { p with dropped := true }

/-- A state that `step?` computes is one that a rule leads to. -/
theorem Step.of_step? (h : p.step? e = some q) : Step p e q := by
  cases e with
  | push task =>
    simp only [step?] at h
    split at h
    · cases h
    · cases h
      exact .push (eq_false_of_ne_true ‹_›)
  | abandon stage task =>
    simp only [step?, stepAbandon, Option.ite_none_right_eq_some, Option.some.injEq] at h
    obtain ⟨hm, rfl⟩ := h
    exact .abandon hm
  | grant =>
    simp only [step?] at h
    split at h
    · split at h
      · cases h
      · cases h
        -- the guard is one Boolean: not closing, and a slot is free
        rename_i hw hc
        simp only [Bool.or_eq_true, beq_iff_eq, not_or, Bool.not_eq_true] at hc
        exact .grant hw hc.1 (by omega)
    · cases h
  | enqueue task =>
    simp only [step?, stepEnqueue, Option.ite_none_right_eq_some, Option.some.injEq] at h
    obtain ⟨⟨hm, ho, hr⟩, rfl⟩ := h
    exact .enqueue hm ho hr
  | refuse stage task =>
    simp only [step?, stepRefuse, Option.ite_none_right_eq_some, Option.some.injEq] at h
    obtain ⟨⟨hm, hr⟩, rfl⟩ := h
    exact .refuse hm hr
  | take worker =>
    simp only [step?, stepTake] at h
    split at h
    · cases h
      exact .take ‹_› ‹_›
    · cases h
  | finish worker =>
    simp only [step?] at h
    split at h
    · cases h
      exact .finish ‹_›
    · cases h
  | panic worker cause =>
    simp only [step?] at h
    split at h
    · cases h
      exact .panic ‹_›
    · cases h
  | leave worker =>
    simp only [step?, Option.ite_none_right_eq_some, Option.some.injEq] at h
    obtain ⟨⟨ha, hq, hc⟩, rfl⟩ := h
    exact .leave ha hq hc
  | watch =>
    simp only [step?, Option.ite_none_right_eq_some, Option.some.injEq] at h
    obtain ⟨hm, rfl⟩ := h
    exact .watch hm
  | round =>
    simp only [step?, Option.ite_none_right_eq_some, Option.some.injEq] at h
    obtain ⟨hm, rfl⟩ := h
    exact .round hm
  | look =>
    simp only [step?, stepLook] at h
    split at h
    · cases h
      exact .beginRound ‹_›
    · split at h
      · cases h
        exact .look ‹_› ‹_›
      · cases h
        exact .endRound ‹_› (by omega)
    · cases h
  | signal =>
    cases h
    exact .signal
  | dismiss =>
    simp only [step?, Option.ite_none_right_eq_some, Option.some.injEq] at h
    obtain ⟨⟨hm, hs⟩, rfl⟩ := h
    exact .dismiss hm hs
  | closeSlots =>
    simp only [step?] at h
    split at h
    · cases h
    · cases h
      exact .closeSlots (eq_false_of_ne_true ‹_›)
  | close =>
    simp only [step?] at h
    split at h
    · cases h
    · cases h
      exact .close (eq_false_of_ne_true ‹_›)
  | drop =>
    simp only [step?, Option.ite_none_right_eq_some, Option.some.injEq] at h
    obtain ⟨⟨hw, hg, hc⟩, rfl⟩ := h
    exact .drop hw hg hc

/-- The rules say what `step?` computes. -/
theorem step?_eq_some_iff : p.step? e = some q ↔ Step p e q := by
  refine ⟨Step.of_step?, fun h => ?_⟩
  cases h with
  | grant hw hc hf =>
    simp only [step?, hw, hc, Bool.false_or, beq_iff_eq]
    rw [if_neg (by omega)]
  | endRound hm hi =>
    simp only [step?, stepLook, hm]
    rw [if_neg (by omega)]
  | _ => simp_all [step?, stepAbandon, stepEnqueue, stepRefuse, stepTake, stepLook]

theorem Step.of_refuse {stage : Stage} {task : τ} (h : Step p (.refuse stage task) q) :
    task ∈ p.pushes stage ∧ p.refuses stage = true := by
  cases h with
  | refuse hm hr => exact ⟨hm, hr⟩

/-! ### Runs -/

/-- What holds of a new pool and is kept by every step holds in every reachable state. -/
theorem Reachable.invariant {P : Pool τ → Prop} (hstart : P (Pool.start s))
    (hstep : ∀ {p e q}, Reachable s p → Step p e q → P p → P q) (h : Reachable s p) : P p := by
  induction h with
  | start => exact hstart
  | next e hp he ih => exact hstep hp (.of_step? he) ih

/-- A rule leads from a reachable state to a reachable one. -/
theorem Reachable.step (h : Reachable s p) (he : Step p e q) : Reachable s q :=
  h.next e (step?_eq_some_iff.mpr he)

/-- The state after some events, if they can happen one after another. -/
def after? (p : Pool τ) (events : List (Event τ)) : Option (Pool τ) := events.foldlM step? p

/-- What every step keeps, a run keeps. -/
theorem after?_induction {P : Pool τ → Prop} (hstep : ∀ {p e q}, Step p e q → P p → P q)
    {events : List (Event τ)} (h : p.after? events = some q) (hp : P p) : P q := by
  induction events generalizing p with
  | nil =>
    cases h
    exact hp
  | cons e rest ih =>
    rw [after?, List.foldlM_cons, Option.bind_eq_bind, Option.bind_eq_some_iff] at h
    obtain ⟨p', hp', hq⟩ := h
    exact ih hq (hstep (.of_step? hp') hp)

theorem Reachable.after? {events : List (Event τ)} (hp : Reachable s p)
    (h : p.after? events = some q) : Reachable s q :=
  after?_induction (fun he hp => hp.step he) h hp

/-- A state that a run leads to, known by what `f` tells of it. -/
theorem exists_reachable {α : Type} {a : α} (f : Pool τ → α) (events : List (Event τ))
    (h : ((start s).after? events).map f = some a) : ∃ p, Reachable s p ∧ f p = a := by
  obtain ⟨p, hp, hf⟩ := Option.map_eq_some_iff.mp h
  exact ⟨p, Reachable.start.after? hp, hf⟩

end Thumbnailer.Pool
