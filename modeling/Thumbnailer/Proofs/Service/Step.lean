/-
What a step of a service can do.

* **`Step`** — the rules of a service: a connection is accepted; something happens in the session;
  the next turn comes, or the service stops; everything has been seen to;
* **`drain_eq_some_iff`** — what the stopping does to the session, and when it can be done;
* **`Reachable.session`** — the session of a service is in a reachable state of its own;
* **`Session.Own`**, **`Reachable.own`** — what the session does by itself, the service does.
-/
import Mathlib.Logic.Relation
import Thumbnailer.Proofs.Session.Step
import Thumbnailer.Service.Basic

namespace Thumbnailer

open Relation (ReflTransGen)

namespace Session

variable {provider : Provider} {settings : Settings} {size : Pool.Settings} {s t : Session}

/-- An event of the session's own leads from one state to another. -/
def Own (provider : Provider) (s t : Session) : Prop :=
  ∃ e, Service.isOwn e = true ∧ s.step? provider e = some t

theorem Reachable.own (h : Reachable provider settings size s)
    (hown : ReflTransGen (Own provider) s t) : Reachable provider settings size t := by
  induction hown with
  | refl => exact h
  | tail _ hown ih =>
    obtain ⟨e, -, ht⟩ := hown
    exact ih.next e ht

end Session

namespace Service

variable {provider : Provider} {settings : Session.Settings} {size : Pool.Settings}
  {s t : Service} {e : Event}

/-! ### Stopping -/

/-- The session once its pool was closed, told to stop and dropped. -/
def stopped (s : Session) : Session :=
  { s with pool := { s.pool with
    signalled := true, closing := true, closed := true, dropped := true } }

/-- The pool can be closed, told to stop and dropped as long as it is there and nobody pushes. -/
theorem drain_eq_some_iff {s t : Session} : drain provider s = some t ↔
    (s.pool.dropped = false ∧ s.pool.waiting = [] ∧ s.pool.granted = [] ∧
      ∀ c ∈ s.connections, c.phase.isBefore = false) ∧ stopped s = t := by
  cases hd : s.pool.dropped with
  | true =>
    simp [drain, Session.step?, Session.stepHousekeeping, Session.isHousekeeping,
      Session.stepPool, Pool.step?, hd]
  | false =>
    by_cases hp : s.pool.waiting = [] ∧ s.pool.granted = []
    · simp [drain, Session.step?, Session.stepHousekeeping, Session.isHousekeeping,
        Session.stepPool, Pool.step?, hd, hp, stopped]
    · -- somebody still pushes
      have hnot : ¬ (s.pool.waiting = [] ∧ s.pool.granted = [] ∧
          ∀ c ∈ s.connections, c.phase.isBefore = false) := fun h => hp ⟨h.1, h.2.1⟩
      simp [drain, Session.step?, Session.stepHousekeeping, Session.isHousekeeping,
        Session.stepPool, Pool.step?, hd, hp, hnot]

theorem reachable_drain {s t : Session} (h : Session.Reachable provider settings size s)
    (hd : drain provider s = some t) : Session.Reachable provider settings size t := by
  obtain ⟨s₁, h₁, hd⟩ := Option.bind_eq_some_iff.mp hd
  obtain ⟨s₂, h₂, h₃⟩ := Option.bind_eq_some_iff.mp hd
  exact ((h.next _ h₁).next _ h₂).next _ h₃

/-! ### The rules -/

/-- What an event does to a service, and when it can happen. -/
inductive Step (provider : Provider) (s : Service) : Event → Service → Prop
  | accept {session : Session} {capacity : Nat} : s.loop = .accepting →
    s.session.step? provider (.connect capacity) = some session →
    Step provider s (.accept capacity) ⟨session, .serving s.session.connections.length⟩
  | session {session : Session} {e : Session.Event} : isOwn e = true →
    s.session.step? provider e = some session → Step provider s (.session e) ⟨session, s.loop⟩
  | next {id : Nat} : s.loop = .serving id → s.outcome? id = some false →
    Step provider s .turn ⟨s.session, .accepting⟩
  | stop {session : Session} {id : Nat} : s.loop = .serving id → s.outcome? id = some true →
    drain provider s.session = some session → Step provider s .turn ⟨session, .draining⟩
  | finish : s.loop = .draining → s.session.pool.isDrained = true →
    Step provider s .finish ⟨s.session, .ended⟩

/-- A state that `step?` computes is one that a rule leads to. -/
theorem Step.of_step? (h : s.step? provider e = some t) : Step provider s e t := by
  cases e with
  | accept capacity =>
    simp only [step?] at h
    split at h
    · obtain ⟨session, hs, ht⟩ := Option.bind_eq_some_iff.mp h
      cases ht
      exact .accept ‹_› hs
    · cases h
  | session e =>
    simp only [step?] at h
    split at h
    · obtain ⟨session, hs, ht⟩ := Option.bind_eq_some_iff.mp h
      cases ht
      exact .session ‹_› hs
    · cases h
  | turn =>
    simp only [step?] at h
    split at h
    · obtain ⟨outcome, ho, h⟩ := Option.bind_eq_some_iff.mp h
      split at h
      · rename_i hshutdown
        subst hshutdown
        obtain ⟨session, hs, ht⟩ := Option.bind_eq_some_iff.mp h
        cases ht
        exact .stop ‹_› ho hs
      · rename_i hnot
        cases h
        rw [eq_false_of_ne_true hnot] at ho
        exact .next ‹_› ho
    · cases h
  | finish =>
    simp only [step?, Option.ite_none_right_eq_some, Option.some.injEq] at h
    obtain ⟨⟨hloop, hdrained⟩, rfl⟩ := h
    exact .finish hloop hdrained

/-- The rules say what `step?` computes. -/
theorem step?_eq_some_iff : s.step? provider e = some t ↔ Step provider s e t := by
  refine ⟨Step.of_step?, fun h => ?_⟩
  cases h with
  | accept hloop hs => simp [step?, hloop, hs]
  | session hown hs => simp [step?, hown, hs]
  | next hloop ho => simp [step?, hloop, ho]
  | stop hloop ho hs => simp [step?, hloop, ho, hs]
  | finish hloop hdrained => simp [step?, hloop, hdrained]

/-! ### Runs -/

/-- What holds of a new service and is kept by every step holds in every reachable state. -/
theorem Reachable.invariant {P : Service → Prop} (hstart : P (Service.start settings size))
    (hstep : ∀ {s e t}, Reachable provider settings size s → Step provider s e t → P s → P t)
    (h : Reachable provider settings size s) : P s := by
  induction h with
  | start => exact hstart
  | next e hs he ih => exact hstep hs (.of_step? he) ih

/-- A rule leads from a reachable state to a reachable one. -/
theorem Reachable.step (h : Reachable provider settings size s) (he : Step provider s e t) :
    Reachable provider settings size t :=
  h.next e (step?_eq_some_iff.mpr he)

/-- Whatever a session does by itself, the service is where some run leads to. -/
theorem Reachable.own {session : Session} (h : Reachable provider settings size s)
    (hown : ReflTransGen (Session.Own provider) s.session session) :
    Reachable provider settings size ⟨session, s.loop⟩ := by
  -- one event of the session after another, while the loop stays where it is
  induction hown with
  | refl => exact h
  | tail _ hown ih =>
    obtain ⟨e, he, hs⟩ := hown
    exact ih.step (.session he hs)

/-- The session of a service is in a reachable state of its own. -/
theorem Reachable.session (h : Reachable provider settings size s) :
    Session.Reachable provider settings size s.session :=
  h.invariant (P := fun s => Session.Reachable provider settings size s.session) .start
    fun _ hstep hs => by
      cases hstep with
      | accept _ ht => exact hs.next _ ht
      | session _ ht => exact hs.next _ ht
      | next _ _ => exact hs
      | stop _ _ hd => exact reachable_drain hs hd
      | finish _ _ => exact hs

/-- The state after some events, if they can happen one after another. -/
def after? (provider : Provider) (s : Service) (events : List Event) : Option Service :=
  events.foldlM (step? provider) s

theorem Reachable.after? {events : List Event} (hs : Reachable provider settings size s)
    (h : s.after? provider events = some t) : Reachable provider settings size t := by
  -- by induction on the events, from whatever state is reached
  induction events generalizing s with
  | nil =>
    cases h
    exact hs
  | cons e rest ih =>
    rw [Service.after?, List.foldlM_cons, Option.bind_eq_bind, Option.bind_eq_some_iff] at h
    obtain ⟨s', hs', ht⟩ := h
    exact ih (hs.next e hs') ht

/-- A state that a run leads to, known by what `f` tells of it. -/
theorem exists_reachable {α : Type} {a : α} (provider : Provider) (settings : Session.Settings)
    (size : Pool.Settings) (f : Service → α) (events : List Event)
    (h : ((Service.start settings size).after? provider events).map f = some a) :
    ∃ s, Reachable provider settings size s ∧ f s = a := by
  obtain ⟨s, hs, hf⟩ := Option.map_eq_some_iff.mp h
  exact ⟨s, Reachable.start.after? hs, hf⟩

end Service

end Thumbnailer
