/-
A service serves its connections one after another.

* **`Step.connection`** — what one event may make of each connection;
* **`Serial`** — where the accepting is tells what is known of the connections: none but the last
  one brought a shutdown;
* **`Serial.known`**, **`Serial.unknown`** — it is known what became of every connection but the one
  being served;
* **`Reachable.untouched`**, **`Reachable.not_refuse`** — as long as connections may come, nobody
  closes the pool or tells it to stop, and a pool with workers or with a monitor takes what they bring;
* **`Reachable.handed`** — what they bring is handed over in their order.
-/
import Thumbnailer.Proofs.Service.Step
import Thumbnailer.Proofs.Session.Outcome

namespace Thumbnailer

namespace Pool

variable {τ : Type} [DecidableEq τ] {p q : Pool τ} {f : Event τ}

/-- Whether an event is a part of closing the pool, telling it to stop and dropping it. -/
def Event.closes : Event τ → Bool
  | signal => true
  | closeSlots => true
  | close => true
  | drop => true
  | _ => false

/-- Nobody began to close the pool, told it to stop or dropped it. -/
structure IsUntouched (p : Pool τ) : Prop where
  signalled : p.signalled = false
  closing : p.closing = false
  dropped : p.dropped = false

theorem IsUntouched.step (hp : p.IsUntouched) (h : Step p f q) (hf : f.closes = false) :
    q.IsUntouched := by
  cases h with
  | signal => cases hf
  | closeSlots _ => cases hf
  | close _ => cases hf
  | drop _ _ _ => cases hf
  | _ => exact ⟨hp.signalled, hp.closing, hp.dropped⟩

end Pool

namespace Session

variable {provider : Provider} {limit id : Nat} {p : Pool Request} {c d : Connection} {e : Event}
  {f : Pool.Event Request} {s t : Session}

theorem Joint.closes (h : Joint limit p id e c f d) : f.closes = false := by
  cases h <;> rfl

end Session

namespace Service

open Session (Changed Connection Handed Linked)

variable {provider : Provider} {settings : Session.Settings} {size : Pool.Settings}
  {s t : Service} {e : Event} {id : Nat} {c d : Connection}

/-! ### What is known of the connections -/

theorem outcome?_eq_some_iff {shutdown : Bool} : s.outcome? id = some shutdown ↔
    ∃ c, s.session.connections[id]? = some c ∧ c.phase.accepted? = some shutdown :=
  Option.bind_eq_some_iff

theorem accepted?_of_outcome? {shutdown : Bool} (hc : s.session.connections[id]? = some c)
    (ho : s.outcome? id = some shutdown) : c.phase.accepted? = some shutdown := by
  obtain ⟨c', hc', hknown⟩ := outcome?_eq_some_iff.mp ho
  cases hc.symm.trans hc'
  exact hknown

/-- None of the first `count` connections brought a shutdown that was accepted. -/
def Harmless (s : Service) (count : Nat) : Prop := ∀ id < count, s.outcome? id = some false

theorem Harmless.succ {count : Nat} (h : Harmless s count) (hid : s.outcome? count = some false) :
    Harmless s (count + 1) := by
  intro i hi
  obtain hi | rfl := Nat.lt_succ_iff_lt_or_eq.mp hi
  · exact h i hi
  · exact hid

/-- Where the accepting is tells what is known of the connections. -/
inductive Serial (s : Service) : Prop
  | accepting : s.loop = .accepting → Harmless s s.session.connections.length → Serial s
  | serving {id : Nat} : s.loop = .serving id → id + 1 = s.session.connections.length →
    Harmless s id → Serial s
  | stopped {id : Nat} : s.loop.isOpen = false → id + 1 = s.session.connections.length →
    Harmless s id → s.outcome? id = some true → Serial s

theorem Serial.of_accepting (hs : Serial s) (hloop : s.loop = .accepting) :
    Harmless s s.session.connections.length := by
  cases hs with
  | accepting _ hall => exact hall
  | serving hother _ _ => cases hloop.symm.trans hother
  | stopped hother _ _ _ =>
    rw [hloop] at hother
    cases hother

theorem Serial.of_serving (hs : Serial s) (hloop : s.loop = .serving id) :
    id + 1 = s.session.connections.length ∧ Harmless s id := by
  cases hs with
  | accepting hother _ => cases hloop.symm.trans hother
  | serving hother hlast hall =>
    cases hloop.symm.trans hother
    exact ⟨hlast, hall⟩
  | stopped hother _ _ _ =>
    rw [hloop] at hother
    cases hother

theorem Serial.of_stopped (hs : Serial s) (hloop : s.loop.isOpen = false) :
    ∃ id, id + 1 = s.session.connections.length ∧ Harmless s id ∧ s.outcome? id = some true := by
  cases hs with
  | accepting hother _ =>
    rw [hother] at hloop
    cases hloop
  | serving hother _ _ =>
    rw [hother] at hloop
    cases hloop
  | stopped _ hlast hall ho => exact ⟨_, hlast, hall, ho⟩

theorem outcome?_step {e : Session.Event} {shutdown : Bool} (hl : Linked s.session)
    (h : Session.Step provider s.session e t.session) (ho : s.outcome? id = some shutdown) :
    t.outcome? id = some shutdown := by
  obtain ⟨c, hc, hknown⟩ := outcome?_eq_some_iff.mp ho
  obtain ⟨d, hd, hchanged⟩ := h.changed hc
  exact outcome?_eq_some_iff.mpr ⟨d, hd, hchanged.accepted? (hl.agrees hc) hknown⟩

theorem length_own {s t : Session} {e : Session.Event} (he : isOwn e = true)
    (h : Session.Step provider s e t) : t.connections.length = s.connections.length := by
  cases h with
  | connect _ _ _ _ _ => cases he
  | move _ _ _ hconn _ _ => rw [hconn, List.length_set]
  | joint _ _ _ hconn _ _ => rw [hconn, List.length_set]
  | housekeeping _ _ hconn _ _ => rw [hconn]

/-- What happens in the session by itself makes something of a connection that was there. -/
theorem changed_own {s t : Session} {e : Session.Event} (he : isOwn e = true)
    (h : Session.Step provider s e t) (hd : t.connections[id]? = some d) :
    ∃ c, s.connections[id]? = some c ∧
      Changed provider s.settings.maxFrameSize s.pool id e c d := by
  have hlt := (List.getElem?_eq_some_iff.mp hd).1
  rw [length_own he h] at hlt
  have hc := List.getElem?_eq_getElem hlt
  obtain ⟨d', hd', hchanged⟩ := h.changed hc
  cases hd.symm.trans hd'
  exact ⟨_, hc, hchanged⟩

/-- Each connection is new, or was there before and is as it was, or is what an event of the session
makes of it. -/
theorem Step.connection (h : Step provider s e t) (hd : t.session.connections[id]? = some d) :
    (∃ capacity, d = .start capacity) ∨ ∃ c, s.session.connections[id]? = some c ∧
      (d = c ∨ ∃ e', e = .session e' ∧ isOwn e' = true ∧
        Changed provider s.session.settings.maxFrameSize s.session.pool id e' c d) := by
  cases h with
  | @accept _ capacity _ ht =>
    obtain ⟨-, rfl⟩ := Session.step?_connect_eq_some_iff.mp ht
    by_cases hlt : id < s.session.connections.length
    · exact .inr ⟨d, (List.getElem?_append_left hlt).symm.trans hd, .inl rfl⟩
    · have hnew := (List.getElem?_append_right (Nat.le_of_not_lt hlt)).symm.trans hd
      exact .inl ⟨capacity, List.mem_singleton.mp (List.mem_of_getElem? hnew)⟩
  | @session _ e hown ht =>
    obtain ⟨c, hc, hchanged⟩ := changed_own hown (.of_step? ht) hd
    exact .inr ⟨c, hc, .inr ⟨e, rfl, hown, hchanged⟩⟩
  | next _ _ => exact .inr ⟨d, hd, .inl rfl⟩
  | stop _ _ hdrain =>
    obtain ⟨-, rfl⟩ := drain_eq_some_iff.mp hdrain
    exact .inr ⟨d, hd, .inl rfl⟩
  | finish _ _ => exact .inr ⟨d, hd, .inl rfl⟩

theorem outcome?_drain (h : drain provider s.session = some t.session) :
    t.outcome? id = s.outcome? id := by
  obtain ⟨-, ht⟩ := drain_eq_some_iff.mp h
  rw [outcome?, ← ht]
  rfl

theorem Serial.step (hl : Linked s.session) (hs : Serial s) (h : Step provider s e t) :
    Serial t := by
  cases h with
  | accept hloop ht =>
    have hstep := Session.Step.of_step? ht
    obtain ⟨-, hconn⟩ := Session.step?_connect_eq_some_iff.mp ht
    exact .serving rfl (by simp [← hconn]) fun i hi =>
      outcome?_step hl hstep (hs.of_accepting hloop i hi)
  | session hown ht =>
    -- the loop stays where it is, and what is known stays known
    have hstep := Session.Step.of_step? ht
    have hlength := length_own hown hstep
    cases hs with
    | accepting hloop hall =>
      exact .accepting hloop fun i hi => outcome?_step hl hstep (hall i (hlength ▸ hi))
    | serving hloop hid hall =>
      exact .serving hloop (hid.trans hlength.symm) fun i hi => outcome?_step hl hstep (hall i hi)
    | stopped hloop hid hall ho =>
      exact .stopped hloop (hid.trans hlength.symm) (fun i hi => outcome?_step hl hstep (hall i hi))
        (outcome?_step hl hstep ho)
  | next hloop ho =>
    obtain ⟨hlast, hall⟩ := hs.of_serving hloop
    exact .accepting rfl (hlast ▸ hall.succ ho)
  | stop hloop ho hd =>
    obtain ⟨hlast, hall⟩ := hs.of_serving hloop
    obtain ⟨-, hsession⟩ := drain_eq_some_iff.mp hd
    exact .stopped rfl (by rw [← hsession]; exact hlast)
      (fun i hi => (outcome?_drain hd).trans (hall i hi)) ((outcome?_drain hd).trans ho)
  | finish hloop _ =>
    obtain ⟨id, hlast, hall, ho⟩ := hs.of_stopped (by rw [hloop]; rfl)
    exact .stopped rfl hlast hall ho

theorem Reachable.serial (h : Reachable provider settings size s) : Serial s :=
  h.invariant (.accepting rfl fun id hid => absurd hid (Nat.not_lt_zero id)) fun hr hstep hs =>
    hs.step hr.session.linked hstep

/-- Of a connection that is not the one being served, it is known what became of its request; if
this is a shutdown, the connection is the last one. -/
theorem Serial.known (hs : Serial s) (hc : s.session.connections[id]? = some c)
    (hid : s.loop ≠ .serving id) :
    ∃ shutdown, c.phase.accepted? = some shutdown ∧
      (shutdown = true → id + 1 = s.session.connections.length ∧ s.loop.isOpen = false) := by
  have hlt := (List.getElem?_eq_some_iff.mp hc).1
  cases hs with
  | accepting _ hall => exact ⟨false, accepted?_of_outcome? hc (hall id hlt), by simp⟩
  | @serving last hloop hlast hall =>
    have hne : id ≠ last := fun h => hid (h ▸ hloop)
    exact ⟨false, accepted?_of_outcome? hc (hall id (by omega)), by simp⟩
  | @stopped last hloop hlast hall ho =>
    obtain hlt' | rfl := Nat.lt_or_eq_of_le (Nat.le_of_lt_succ (hlast ▸ hlt))
    · exact ⟨false, accepted?_of_outcome? hc (hall id hlt'), by simp⟩
    · exact ⟨true, accepted?_of_outcome? hc ho, fun _ => ⟨hlast, hloop⟩⟩

/-- A connection of which it is not known what becomes of its request is the one being served, and
the last one. -/
theorem Serial.unknown (hs : Serial s) (hc : s.session.connections[id]? = some c)
    (hnone : c.phase.accepted? = none) :
    s.loop = .serving id ∧ id + 1 = s.session.connections.length := by
  have hloop : s.loop = .serving id := by
    by_contra hne
    obtain ⟨shutdown, hknown, -⟩ := hs.known hc hne
    cases hnone.symm.trans hknown
  exact ⟨hloop, (hs.of_serving hloop).1⟩

/-! ### Nothing is refused -/

theorem untouched_own {s t : Session} {e : Session.Event} (he : isOwn e = true)
    (h : Session.Step provider s e t) (hs : s.pool.IsUntouched) : t.pool.IsUntouched := by
  cases h with
  | connect _ _ _ _ _ => cases he
  | move _ _ _ _ hpool _ => rwa [hpool]
  | joint _ _ hjoint _ hpool _ => exact hs.step hpool hjoint.closes
  | @housekeeping _ f _ _ _ hpool _ =>
    refine hs.step hpool ?_
    cases f <;> first | rfl | cases he

/-- As long as connections may come, nobody closes the pool, tells it to stop or drops it. -/
theorem Reachable.untouched (h : Reachable provider settings size s)
    (ho : s.loop.isOpen = true) : s.session.pool.IsUntouched := by
  refine h.invariant (P := fun s => s.loop.isOpen = true → s.session.pool.IsUntouched)
    (fun _ => ⟨rfl, rfl, rfl⟩) ?_ ho
  intro s e t _ hstep hs ho
  cases hstep with
  | accept hloop ht =>
    obtain ⟨-, rfl⟩ := Session.step?_connect_eq_some_iff.mp ht
    exact hs (by rw [hloop]; rfl)
  | session hown ht => exact untouched_own hown (.of_step? ht) (hs ho)
  | next hloop _ => exact hs (by rw [hloop]; rfl)
  | stop _ _ _ => cases ho
  | finish _ _ => cases ho

/-- The next connection can be accepted whenever it is time for it. -/
theorem Reachable.accepts (h : Reachable provider settings size s) (hloop : s.loop = .accepting)
    (capacity : Nat) : ∃ t, s.step? provider (.accept capacity) = some t := by
  have hdropped := (h.untouched (by rw [hloop]; rfl)).dropped
  have hconnect : s.session.step? provider (.connect capacity) = some _ :=
    Session.step?_connect_eq_some_iff.mpr ⟨hdropped, rfl⟩
  exact ⟨_, step?_eq_some_iff.mpr (.accept hloop hconnect)⟩

/-- As long as connections may come, there is somebody to take what they bring, or a monitor. -/
theorem Reachable.not_isDeserted (h : Reachable provider settings size s)
    (hsize : 1 ≤ size.workers ∨ 1 ≤ size.interval) (ho : s.loop.isOpen = true) :
    ¬ s.session.pool.IsDeserted := by
  intro hdeserted
  obtain hw | hinterval := hsize
  · exact h.session.not_isDeserted hw hdeserted
  · -- a monitor that nobody told to stop goes on
    obtain hsignalled | hzero := h.session.pool.staffed.ended hdeserted.1
    · cases (h.untouched ho).signalled.symm.trans hsignalled
    · omega

/-- A service refuses nothing. -/
theorem Reachable.not_refuse {stage : Pool.Stage} {session : Session}
    (h : Reachable provider settings size s) (hsize : 1 ≤ size.workers ∨ 1 ≤ size.interval) :
    ¬ Session.Step provider s.session (.refuse stage id) session := by
  intro hstep
  cases hstep with
  | move _ _ hmove _ _ _ => cases hmove
  | joint _ hc hjoint _ hpool _ =>
    cases hjoint with
    | refuse hr =>
      obtain ⟨hm, hrefuses⟩ := hpool.of_refuse
      -- a push is under way, so connections may still come, and the pool takes all tasks
      obtain ⟨hloop, -⟩ := h.serial.unknown hc (by rw [hr]; rfl)
      have ho : s.loop.isOpen = true := by rw [hloop]; rfl
      obtain hclosed | ⟨-, hdeserted⟩ := h.session.pool.staffed.refuses hm hrefuses
      · cases (h.untouched ho).closing.symm.trans hclosed
      · exact h.not_isDeserted hsize ho hdeserted
    | unanswered _ _ hcause =>
      obtain ⟨he, -⟩ | ⟨he, -⟩ := hcause
      · cases he
      · cases he

theorem Reachable.handed (h : Reachable provider settings size s)
    (hsize : 1 ≤ size.workers ∨ 1 ≤ size.interval) : Handed s.session := by
  refine h.invariant (P := fun s => Handed s.session) ⟨rfl, rfl, rfl, rfl⟩ ?_
  intro s e t hr hstep hs
  have hl := hr.session.linked
  have hlast : ∀ id c, s.session.connections[id]? = some c → c.phase.accepted? = none →
      id + 1 = s.session.connections.length := fun id c hc hnone => (hr.serial.unknown hc hnone).2
  cases hstep with
  | accept _ ht => exact hs.step hl (.of_step? ht) rfl hlast
  | @session _ e hown ht =>
    have hstep := Session.Step.of_step? ht
    refine hs.step hl hstep ?_ hlast
    cases e with
    | abandon id => cases hown
    | refuse stage id => exact absurd hstep (hr.not_refuse hsize)
    | _ => rfl
  | next _ _ => exact hs
  | stop _ _ hd =>
    obtain ⟨-, rfl⟩ := drain_eq_some_iff.mp hd
    exact ⟨hs.pushed, hs.accepted, hs.refused, hs.abandoned⟩
  | finish _ _ => exact hs

end Service

end Thumbnailer
