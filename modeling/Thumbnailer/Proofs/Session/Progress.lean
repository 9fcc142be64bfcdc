/-
What can happen in a session.

The rules say what an event does if it can happen; here is when it can.  Each of these events takes a
connection or its request a step further.

* **`Pool.exists_activity?_running`**, **`Pool.Reachable.exists_activity?_idle`** — who has a request,
  and who can take one;
* **`exists_send`**, **`exists_collect`** — what a peer can do;
* **`exists_read_waiting`** to **`exists_enqueue`** — how a request gets into the queue;
* **`exists_reading_over`** — a reading comes to its end, or else its deadline can end it;
* **`exists_take`** to **`exists_write_last`** — how a worker answers it.
-/
import Mathlib.Logic.Relation
import Thumbnailer.Proofs.Session.Outcome

namespace Thumbnailer

/-! ### Who can work -/

namespace Pool

variable {τ : Type} {s : Settings} {p : Pool τ}

/-- The worker that has a task. -/
theorem exists_activity?_running (hd : Distinct p.workers) {task : τ} (h : task ∈ p.running) :
    ∃ worker, p.activity? worker = some (.running task) := by
  obtain ⟨w, hw, htask⟩ := List.mem_filterMap.mp h
  refine ⟨w.id, (activityOf_eq_some_iff hd).mpr ?_⟩
  obtain ⟨id, activity⟩ := w
  cases activity with
  | running other =>
    obtain rfl : other = task := Option.some.inj htask
    exact hw
  | _ => cases htask

/-- Somebody is there to take a task that is queued. -/
theorem Reachable.exists_activity?_idle [DecidableEq τ] (h : Reachable s p) (hw : 1 ≤ s.workers)
    (hbroken : ∀ w ∈ p.workers, w.activity.isBroken = false) (hqueue : p.queue ≠ [])
    (hrunning : p.running = []) : ∃ worker, p.activity? worker = some .idle := by
  have hleft : ¬ SomeLeft s.workers p.workers := fun hl => hqueue (h.staffed.left hl).1
  simp only [SomeLeft, not_or, not_exists, not_and] at hleft
  obtain ⟨hcount, hgone⟩ := hleft
  obtain ⟨⟨id, activity⟩, hmem⟩ := List.exists_mem_of_length_pos
    (Nat.lt_of_lt_of_le hw (Nat.not_lt.mp hcount))
  refine ⟨id, (activityOf_eq_some_iff h.accounted.distinct).mpr ?_⟩
  cases activity with
  | idle => exact hmem
  | running task =>
    have htask : task ∈ p.running := List.mem_filterMap.mpr ⟨_, hmem, rfl⟩
    rw [hrunning] at htask
    cases htask
  | gone => exact absurd rfl (hgone _ hmem)
  | panicked cause => cases hbroken _ hmem

end Pool

namespace Session

variable {provider : Provider} {s : Session} {id : ℕ} {c d : Connection}
  {request : Wire.Command}

/-! ### What can happen -/

theorem exists_stepPool {p : Pool Request} {f : Pool.Event Request} (h : s.pool.step? f = some p) :
    ∃ t, s.stepPool f = some t ∧ t.connections = s.connections ∧ t.pool = p := by
  rw [stepPool, h]
  exact ⟨_, rfl, rfl, rfl⟩

theorem exists_change {f : Connection → Option Connection} (hc : s.connections[id]? = some c)
    (hf : f c = some d) :
    ∃ t, s.change? id f = some t ∧ t.connections = s.connections.set id d := by
  rw [change?, hc, Option.bind_eq_bind, Option.bind_some, hf]
  exact ⟨_, rfl, rfl⟩

/-- A peer can send what finds room. -/
theorem exists_send (hc : s.connections[id]? = some c) (hover : c.phase.isOver = false)
    (hended : c.ended = false) (hgone : c.gone = false) {bytes : List UInt8}
    (hroom : bytes.length ≤ c.room) :
    ∃ t, s.step? provider (.send id bytes) = some t ∧ t.connections =
      s.connections.set id { c with inbox := c.inbox ++ bytes, sent := c.sent ++ bytes } := by
  refine exists_change hc ?_
  rw [Connection.send?, hover, hended, hgone, if_neg (by simpa using hroom)]

/-- A peer can read what is there. -/
theorem exists_collect (hc : s.connections[id]? = some c) (hgone : c.gone = false) :
    ∃ t, s.step? provider (.collect id c.outbox.length) = some t ∧ t.connections =
      s.connections.set id { c with outbox := [], received := c.received ++ c.outbox } := by
  refine exists_change hc ?_
  rw [Connection.collect?, hgone, if_neg Bool.false_ne_true, List.drop_length, List.take_length]

/-- A worker can read what has arrived. -/
theorem exists_read_waiting (provider : Provider) {r r' : Link.Reading} {rest : List UInt8}
    (hc : s.connections[id]? = some c) (hr : c.phase = .reading r) (hinbox : c.inbox ≠ [])
    (hfeed : r.feed s.settings.maxFrameSize c.inbox
      = ((.waiting r', rest) : Link.Progress Wire.Command × List UInt8)) :
    ∃ t, s.step? provider (.read id) = some t ∧ t.connections =
      s.connections.set id { c with inbox := rest, phase := .reading r' } := by
  refine ⟨_, ?_, connections_set_setPhase { c with inbox := rest } _ hc⟩
  have hsome : (!c.inbox.isEmpty) = true := by simpa using hinbox
  rw [step?, stepRead, hc, Option.bind_eq_bind, Option.bind_some, hr]
  simp only [hfeed, if_pos hsome]

/-- A request that was read is pushed, as long as the pool is there. -/
theorem exists_read_request (provider : Provider) {r : Link.Reading} {rest : List UInt8}
    (hc : s.connections[id]? = some c) (hr : c.phase = .reading r)
    (hfeed : r.feed s.settings.maxFrameSize c.inbox
      = ((.done (.ok request), rest) : Link.Progress Wire.Command × List UInt8))
    (hdropped : s.pool.dropped = false) :
    ∃ t, s.step? provider (.read id) = some t ∧ t.connections =
      s.connections.set id { c with inbox := rest, phase := .pushing request } := by
  obtain ⟨t, ht, hconn, -⟩ := exists_stepPool (f := .push ⟨id, request⟩)
    (s := ({ s with connections := s.connections.set id { c with inbox := rest } } : Session).setPhase
      id (.pushing request)) (Pool.step?_eq_some_iff.mpr (.push hdropped))
  refine ⟨t, ?_, hconn.trans (connections_set_setPhase { c with inbox := rest } _ hc)⟩
  rw [step?, stepRead, hc, Option.bind_eq_bind, Option.bind_some, hr]
  simp only [hfeed]
  rw [← hr]
  exact ht

theorem exists_grant (provider : Provider) {p : Pool Request} (h : s.pool.step? .grant = some p) :
    ∃ t, s.step? provider (.pool .grant) = some t ∧ t.connections = s.connections ∧ t.pool = p := by
  obtain ⟨t, ht, hconn, hpool⟩ := exists_stepPool h
  refine ⟨t, ?_, hconn, hpool⟩
  simpa [step?, stepHousekeeping, isHousekeeping] using ht

theorem exists_enqueue {p : Pool Request} (hc : s.connections[id]? = some c)
    (hp : c.phase = .pushing request) (h : s.pool.step? (.enqueue ⟨id, request⟩) = some p) :
    ∃ t, s.step? provider (.enqueue id) = some t ∧
      t.connections = s.connections.set id { c with phase := .queued request } := by
  obtain ⟨t, ht, hconn, -⟩ := exists_stepPool (s := s.setPhase id (.queued request)) h
  refine ⟨t, ?_, hconn.trans (connections_setPhase _ hc)⟩
  rw [step?, stepEnqueue, hc, Option.bind_eq_bind, Option.bind_some, hp]
  exact ht

/-- A worker that is idle can take the first request of the queue. -/
theorem exists_take {worker : ℕ} {rest : List Request} (hc : s.connections[id]? = some c)
    (hidle : s.pool.activity? worker = some .idle) (hqueue : s.pool.queue = ⟨id, request⟩ :: rest) :
    ∃ t, s.step? provider (.take worker) = some t ∧
      t.connections = s.connections.set id { c with phase := .rendering request } := by
  obtain ⟨t, ht, hconn, -⟩ := exists_stepPool (s := s.setPhase id (.rendering request))
    (f := .take worker) (Pool.step?_eq_some_iff.mpr (.take hidle hqueue))
  refine ⟨t, ?_, hconn.trans (connections_setPhase _ hc)⟩
  rw [step?, stepTake, hqueue, Option.bind_eq_bind, List.head?_cons, Option.bind_some, hc]
  exact ht

section Served

variable {worker : ℕ} (ha : s.pool.activity? worker = some (.running ⟨id, request⟩))
  (hc : s.connections[id]? = some c)

include ha hc

theorem served?_of_running : s.served? worker = some (⟨id, request⟩, c) := by
  simp [served?, ha, hc, Pool.Activity.task?]

theorem exists_begin {old : Wire.Command} (hp : c.phase = .rendering old) :
    ∃ t, s.step? provider (.respond worker) = some t ∧ t.connections =
      s.connections.set id { c with phase := .answering request (answer provider request) 0 } := by
  obtain ⟨t, ht, -⟩ : ∃ t, s.step? provider (.respond worker) = some t ∧ _ :=
    exists_respond ha hc hp
  refine ⟨t, ht, ?_⟩
  cases Step.of_step? ht with
  | move _ hc' hmove hconn _ _ =>
    cases hmove with
    | respond ha' _ =>
      cases ha.symm.trans ha'
      cases hc.symm.trans hc'
      exact hconn
  | joint _ _ hjoint _ _ _ =>
    cases hjoint with
    | unanswered _ _ hcause =>
      obtain ⟨he, -⟩ | ⟨he, -⟩ := hcause
      · cases he
      · cases he

theorem exists_finish (ending : Ending) : ∃ t, s.finish worker id ending = some t ∧
    t.connections = s.connections.set id { c with phase := .ended ending } := by
  have hfinish := Pool.step?_eq_some_iff.mpr (Pool.Step.finish ha)
  rw [← connections_setPhase _ hc]
  cases ending with
  | unanswered other cause =>
    obtain ⟨t, ht, hconn, -⟩ := exists_stepPool (s := (s.setPhase id (.ended
      (.unanswered other cause))).note (.unanswered other.kind cause)) hfinish
    exact ⟨t, ht, hconn⟩
  | _ =>
    obtain ⟨t, ht, hconn, -⟩ := exists_stepPool (s := s.setPhase id (.ended _)) hfinish
    exact ⟨t, ht, hconn⟩

variable {old : Wire.Command} {frame : List UInt8} {written : ℕ}
  (hp : c.phase = .answering old frame written)

include hp

/-- The deadline of a writing can pass. -/
theorem exists_writeLate : ∃ t, s.step? provider (.writeLate worker) = some t ∧ t.connections =
    s.connections.set id
      { c with phase := .ended (.unanswered old (.late (.writing frame.length))) } := by
  obtain ⟨t, ht, hconn⟩ := exists_finish ha hc (.unanswered old (.late (.writing frame.length)))
  refine ⟨t, ?_, hconn⟩
  rw [step?, stepWriteLate, served?_of_running ha hc, Option.bind_eq_bind, Option.bind_some]
  simp only [hp]
  exact ht

/-- A worker can write what finds room, and there is more to be written. -/
theorem exists_write_on (hgone : c.gone = false) {chunk : List UInt8}
    (hchunk : (frame.drop written).take (c.capacity - c.outbox.length) = chunk)
    (hmore : written + chunk.length ≠ frame.length) (hsome : chunk ≠ []) :
    ∃ t, s.step? provider (.write worker) = some t ∧ t.connections = s.connections.set id
      { c with outbox := c.outbox ++ chunk
               phase := .answering old frame (written + chunk.length) } := by
  refine ⟨_, ?_, connections_set_setPhase { c with outbox := c.outbox ++ chunk } _ hc⟩
  have hsome : ¬ chunk.isEmpty = true := fun hempty => hsome (List.isEmpty_iff.mp hempty)
  rw [step?, stepWrite, served?_of_running ha hc, Option.bind_eq_bind, Option.bind_some]
  simp only [hp, hgone, hchunk, Bool.false_eq_true, if_false, if_neg hmore, if_neg hsome]

/-- A worker can write what is left, if that finds room, and with this the answering ends. -/
theorem exists_write_last (hgone : c.gone = false) {chunk : List UInt8}
    (hchunk : (frame.drop written).take (c.capacity - c.outbox.length) = chunk)
    (hall : written + chunk.length = frame.length) :
    ∃ t, s.step? provider (.write worker) = some t ∧ t.connections = s.connections.set id
      { c with outbox := c.outbox ++ chunk, phase := .ended (.answered old) } := by
  have hlt := (List.getElem?_eq_some_iff.mp hc).1
  obtain ⟨t, ht, hconn⟩ := exists_finish (c := { c with outbox := c.outbox ++ chunk })
    (s := { s with connections := s.connections.set id { c with outbox := c.outbox ++ chunk } }) ha
    (by simp [hlt]) (.answered old)
  refine ⟨t, ?_, hconn.trans (List.set_set _)⟩
  rw [step?, stepWrite, served?_of_running ha hc, Option.bind_eq_bind, Option.bind_some]
  simp only [hp, hchunk, if_pos hall]
  rw [if_neg (by rw [hgone]; exact Bool.false_ne_true), ← hp]
  exact ht

end Served

end Session

end Thumbnailer
