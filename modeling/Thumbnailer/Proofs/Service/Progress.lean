/-
No request waits for ever.

From wherever a service is, a connection with which nothing has gone wrong can come to its answer: its
peer has only to send and to read, and the worker to go on.  What stands before it in the queue may
take as long as its deadlines allow.

* **`Connection.Promising`** — nothing has gone wrong with a connection so far;
* **`load`** — how much has to happen before its answer is there;
* **`Nearer`** — something can happen that makes it less;
* **`Reachable.nearer`** — as long as the peer does not have the whole answer, something can;
* **`Reachable.leads_answered`** — so a run leads to where the peer has it.
-/
import Mathlib.Algebra.GroupWithZero.Nat
import Thumbnailer.Proofs.Pool.Slots
import Thumbnailer.Proofs.Service.Shutdown
import Thumbnailer.Proofs.Session.Progress

namespace Thumbnailer

open Relation (ReflTransGen)

namespace Session

open Link (firstMessage firstMessage_append)
open Service (isOwn)

variable {provider : Provider} {limit id i : ℕ} {s t u : Session} {c d : Connection}
  {request old : Wire.Command} {e : Event}

/-! ### How much there is to do -/

/-- How many steps of the pool's workers lie ahead of a connection, at most. -/
def Phase.ahead : Phase → ℕ
  | reading _ => 3
  | pushing _ => 3
  | queued _ => 3
  | rendering _ => 2
  | answering _ _ _ => 1
  | ended _ => 0

/-- How much has to happen to a connection before its peer has the whole answer: each byte is sent
and read, the answer is written and read, and there is something to do between these. -/
def Connection.toDo (provider : Provider) (request : Wire.Command) (c : Connection) : ℕ :=
  match c.phase with
  | .reading _ => 2 * ((Wire.frame request).length - c.sent.length) + min c.inbox.length 1 +
    (2 * (answer provider request).length + 6)
  | .pushing _ => 2 * (answer provider request).length + 5
  | .queued _ => 2 * (answer provider request).length + 4
  | .rendering _ => 2 * (answer provider request).length + 3
  | .answering _ frame written => 2 * (frame.length - written) + min c.outbox.length 1 + 1
  | .ended _ => min c.outbox.length 1

/-- How much has to happen before the peer of one connection has the whole answer. -/
def load (provider : Provider) (request : Wire.Command) (s : Session) (c : Connection) : ℕ :=
  c.toDo provider request + (s.connections.map (·.phase.ahead)).sum

theorem sum_ahead_set {l : List Connection} (hc : l[i]? = some c) :
    ((l.set i d).map (·.phase.ahead)).sum + c.phase.ahead
      = (l.map (·.phase.ahead)).sum + d.phase.ahead := by
  obtain ⟨hlt, rfl⟩ := List.getElem?_eq_some_iff.mp hc
  have hsplit : (l.map (·.phase.ahead)).sum
      = ((l.take i ++ l[i] :: l.drop (i + 1)).map (·.phase.ahead)).sum := by
    rw [List.getElem_cons_drop, List.take_append_drop]
  rw [hsplit, List.set_eq_take_append_cons_drop, if_pos hlt]
  simp only [List.map_append, List.map_cons, List.sum_append, List.sum_cons]
  omega

/-! ### Coming nearer -/

/-- Nothing has gone wrong with a connection over which a request is being sent. -/
structure Connection.Promising (request : Wire.Command) (c : Connection) : Prop where
  sent : c.sent <+: Wire.frame request
  ended : c.ended = false
  gone : c.gone = false
  capacity : 0 < c.capacity
  /-- If it is over, the whole answer was written. -/
  ending : ∀ ending, c.phase = .ended ending → ending = .answered request

/-- Some events of the session's own lead to where less has to happen. -/
def Nearer (provider : Provider) (request : Wire.Command) (id : ℕ) (s : Session) (c : Connection) :
    Prop :=
  ∃ t d, ReflTransGen (Own provider) s t ∧ t.connections[id]? = some d ∧ d.Promising request ∧
    load provider request t d < load provider request s c

/-- The connection itself comes a step further. -/
theorem Nearer.own (hc : s.connections[id]? = some c)
    (h : ∃ t, s.step? provider e = some t ∧ t.connections = s.connections.set id d)
    (he : isOwn e = true) (hd : d.Promising request) (hahead : d.phase.ahead ≤ c.phase.ahead)
    (htodo : d.toDo provider request < c.toDo provider request) :
    Nearer provider request id s c := by
  obtain ⟨t, ht, hconn⟩ := h
  have hlt := (List.getElem?_eq_some_iff.mp hc).1
  have hsum := sum_ahead_set (d := d) hc
  refine ⟨t, d, .single ⟨e, he, ht⟩, by rw [hconn, List.getElem?_set_self hlt], hd, ?_⟩
  rw [load, load, hconn]
  omega

/-- It comes a step further in its serving. -/
theorem Nearer.serve {inbox outbox : List UInt8} {phase : Phase} (hp : c.Promising request)
    (hc : s.connections[id]? = some c)
    (h : ∃ t, s.step? provider e = some t ∧ t.connections = s.connections.set id
      { c with inbox := inbox, outbox := outbox, phase := phase })
    (he : isOwn e = true)
    (hending : ∀ ending, phase = .ended ending → ending = .answered request)
    (hahead : phase.ahead ≤ c.phase.ahead)
    (htodo : Connection.toDo provider request { c with
      inbox := inbox, outbox := outbox, phase := phase } < c.toDo provider request) :
    Nearer provider request id s c :=
  .own hc h he ⟨hp.sent, hp.ended, hp.gone, hp.capacity, hending⟩ hahead htodo

/-- Another connection comes a step further. -/
theorem Nearer.other {c' d' : Connection} (hp : c.Promising request)
    (hc : s.connections[id]? = some c) (hc' : s.connections[i]? = some c') (hi : i ≠ id)
    (h : ∃ t, s.step? provider e = some t ∧ t.connections = s.connections.set i d')
    (he : isOwn e = true) (hahead : d'.phase.ahead < c'.phase.ahead) :
    Nearer provider request id s c := by
  obtain ⟨t, ht, hconn⟩ := h
  have hsum := sum_ahead_set (d := d') hc'
  refine ⟨t, c, .single ⟨e, he, ht⟩, by rw [hconn, List.getElem?_set_ne hi, hc], hp, ?_⟩
  rw [load, load, hconn]
  omega

/-- Something happens that is no progress by itself. -/
theorem Nearer.after (ht : s.step? provider e = some t) (he : isOwn e = true)
    (hconn : t.connections = s.connections) (h : Nearer provider request id t c) :
    Nearer provider request id s c := by
  obtain ⟨u, d, hu, hd, hp, hless⟩ := h
  refine ⟨u, d, .head ⟨e, he, ht⟩ hu, hd, hp, ?_⟩
  rwa [load, load, hconn] at hless

/-- Of a peer that sends one request, the bytes bring nothing else. -/
theorem Connection.Promising.eq_of_firstMessage (hp : c.Promising request)
    (hframe : firstMessage limit (Wire.frame request) = some (.ok request))
    {result : Except Error Wire.Command} (h : firstMessage limit c.sent = some result) :
    result = .ok request := by
  obtain ⟨more, hmore⟩ := hp.sent
  have hwhole := firstMessage_append more h
  rw [hmore, hframe] at hwhole
  exact (Option.some.inj hwhole).symm

/-! ### What the peer does -/

/-- A peer can read what is there. -/
theorem nearer_collect (hc : s.connections[id]? = some c) (hp : c.Promising request)
    (hout : c.outbox ≠ []) (hphase : (∃ r frame written, c.phase = .answering r frame written) ∨
      ∃ ending, c.phase = .ended ending) : Nearer provider request id s c := by
  have hlength := List.length_pos_of_ne_nil hout
  refine .own hc (exists_collect hc hp.gone) rfl
    ⟨hp.sent, hp.ended, hp.gone, hp.capacity, hp.ending⟩ (Nat.le_refl _) ?_
  obtain ⟨r, frame, written, hr⟩ | ⟨ending, hr⟩ := hphase
  · simp only [Connection.toDo, hr, List.length_nil]
    omega
  · simp only [Connection.toDo, hr, List.length_nil]
    omega

/-- A request that is not there yet can be sent on, a byte at a time. -/
theorem nearer_send {r : Link.Reading} (hc : s.connections[id]? = some c) (hp : c.Promising request)
    (hs : Sound provider limit c) (hr : c.phase = .reading r) (hinbox : c.inbox = [])
    (hframe : firstMessage limit (Wire.frame request) = some (.ok request)) :
    Nearer provider request id s c := by
  obtain ⟨⟨seen, hseen, hfeed⟩, -⟩ := hs.tells hr
  rw [hinbox, List.append_nil] at hseen
  obtain ⟨more, hmore⟩ := hp.sent
  cases more with
  | nil =>
    -- the whole request has been read, but then the reading is over
    have hfirst := Link.Reading.result?_feed_start (α := Wire.Command) limit seen
    rw [hfeed, ← hseen, ← List.append_nil c.sent, hmore, hframe] at hfirst
    cases hfirst
  | cons byte more =>
    have hroom : [byte].length ≤ c.room := by
      rw [Connection.room, hinbox]
      exact hp.capacity
    have hlength := congrArg List.length hmore
    rw [List.length_append, List.length_cons] at hlength
    refine .own hc (exists_send hc (by rw [hr]; rfl) hp.ended hp.gone hroom) rfl
      ⟨⟨more, by rw [← hmore, List.append_assoc]; rfl⟩, hp.ended, hp.gone, hp.capacity, hp.ending⟩
      (Nat.le_refl _) ?_
    simp only [Connection.toDo, hr, hinbox, List.length_append, List.length_cons, List.length_nil]
    omega

/-! ### What the worker does -/

/-- What has arrived can be read. -/
theorem nearer_read {r : Link.Reading} (hc : s.connections[id]? = some c) (hp : c.Promising request)
    (hs : Sound provider s.settings.maxFrameSize c) (hr : c.phase = .reading r)
    (hinbox : c.inbox ≠ []) (hdropped : s.pool.dropped = false)
    (hframe : firstMessage s.settings.maxFrameSize (Wire.frame request) = some (.ok request)) :
    Nearer provider request id s c := by
  have hlength := List.length_pos_of_ne_nil hinbox
  cases hfeed : (r.feed s.settings.maxFrameSize c.inbox
      : Link.Progress Wire.Command × List UInt8) with
  | mk progress rest =>
    have hfirst := hs.firstMessage_eq hr hfeed
    cases progress with
    | waiting r' =>
      cases Link.Reading.feed_waiting hfeed
      refine .serve hp hc (exists_read_waiting provider hc hr hinbox hfeed) rfl (fun _ h => by cases h)
        (by simp [hr, Phase.ahead]) ?_
      simp only [Connection.toDo, hr, List.length_nil]
      omega
    | done result =>
      obtain rfl := hp.eq_of_firstMessage hframe hfirst
      refine .serve hp hc (exists_read_request provider hc hr hfeed hdropped) rfl (fun _ h => by cases h)
        (by simp [hr, Phase.ahead]) ?_
      simp only [Connection.toDo, hr]
      omega

theorem Linked.mem_tasksAt (hl : Linked s) (place : Pool.Place) (hc : s.connections[id]? = some c)
    (hr : c.phase.requestAt? place = some old) : ⟨id, old⟩ ∈ s.pool.tasksAt place := by
  have hmem : (⟨id, old⟩ : Request) ∈ s.pool.requestsOf id place := by
    rw [hl.requestsOf hc, Phase.requestsAt, hr]
    exact List.mem_singleton_self _
  exact (Pool.mem_requestsOf.mp hmem).1

/-- A worker can go on with its request. -/
theorem nearer_running (hl : Linked s) (hd : Pool.Distinct s.pool.workers)
    (hc : s.connections[id]? = some c) (hp : c.Promising request)
    (hnot : c.phase.requestAt? .running = none) (hrunning : s.pool.running ≠ []) :
    Nearer provider request id s c := by
  obtain ⟨⟨i, old⟩, rest, hmem⟩ := List.exists_cons_of_ne_nil hrunning
  have hmem : ⟨i, old⟩ ∈ s.pool.running := hmem ▸ List.mem_cons_self
  obtain ⟨worker, ha⟩ := Pool.exists_activity?_running hd hmem
  obtain ⟨c', hc', hplace⟩ := hl.exists_connection .running hmem
  have hi : i ≠ id := by
    rintro rfl
    cases hc.symm.trans hc'
    cases hnot.symm.trans hplace
  cases hr : c'.phase with
  | rendering other =>
    refine .other hp hc hc' hi (exists_begin ha hc' hr) rfl ?_
    rw [hr]
    exact Nat.lt_succ_self 1
  | answering other frame written =>
    refine .other hp hc hc' hi (exists_writeLate ha hc' hr) rfl ?_
    rw [hr]
    exact Nat.lt_succ_self 0
  | ended ending =>
    rw [hr] at hplace
    cases ending <;> cases hplace
  | _ =>
    rw [hr] at hplace
    cases hplace

/-- An idle worker can take the first request of the queue. -/
theorem nearer_queue (hl : Linked s) (hc : s.connections[id]? = some c) (hp : c.Promising request)
    (hqueue : s.pool.queue ≠ []) (hidle : ∃ worker, s.pool.activity? worker = some .idle) :
    Nearer provider request id s c := by
  obtain ⟨worker, ha⟩ := hidle
  obtain ⟨⟨i, old⟩, rest, hfirst⟩ := List.exists_cons_of_ne_nil hqueue
  have hmem : (⟨i, old⟩ : Request) ∈ s.pool.tasksAt .queue := by
    rw [Pool.tasksAt, hfirst]
    exact List.mem_cons_self
  obtain ⟨c', hc', hplace⟩ := hl.exists_connection .queue hmem
  have hr := Phase.eq_queued hplace
  by_cases hi : i = id
  · subst hi
    cases hc.symm.trans hc'
    refine .serve hp hc (exists_take hc ha hfirst) rfl (fun _ h => by cases h)
      (by simp [hr, Phase.ahead]) ?_
    simp only [Connection.toDo, hr]
    omega
  · refine .other hp hc hc' hi (exists_take hc' ha hfirst) rfl ?_
    rw [hr]
    exact Nat.lt_succ_self 2

/-- A worker can begin to answer. -/
theorem nearer_begin (hl : Linked s) (hd : Pool.Distinct s.pool.workers)
    (hc : s.connections[id]? = some c) (hp : c.Promising request)
    (hr : c.phase = .rendering request) : Nearer provider request id s c := by
  have hrunning := hl.mem_tasksAt .running hc (by rw [hr]; rfl)
  obtain ⟨worker, ha⟩ := Pool.exists_activity?_running hd hrunning
  refine .serve hp hc (exists_begin ha hc hr) rfl (fun _ h => by cases h)
    (by simp [hr, Phase.ahead]) ?_
  simp only [Connection.toDo, hr]
  omega

/-- A worker can write on, once the peer has read what was written before. -/
theorem nearer_write (hl : Linked s) (hd : Pool.Distinct s.pool.workers)
    (hc : s.connections[id]? = some c) (hp : c.Promising request) {frame : List UInt8} {written : ℕ}
    (hr : c.phase = .answering request frame written) (hle : written ≤ frame.length)
    (hout : c.outbox = []) : Nearer provider request id s c := by
  have hrunning := hl.mem_tasksAt .running hc (by rw [hr]; rfl)
  obtain ⟨worker, ha⟩ := Pool.exists_activity?_running hd hrunning
  obtain ⟨chunk, hchunk⟩ :
      ∃ chunk, (frame.drop written).take (c.capacity - c.outbox.length) = chunk := ⟨_, rfl⟩
  have hlength : chunk.length = min c.capacity (frame.length - written) := by
    rw [← hchunk, List.length_take, List.length_drop, hout]
    rfl
  have hcapacity := hp.capacity
  by_cases hall : written + chunk.length = frame.length
  · refine .serve hp hc (exists_write_last ha hc hr hp.gone hchunk hall) rfl
      (fun _ h => by cases h; rfl) (by simp [hr, Phase.ahead]) ?_
    simp only [Connection.toDo, hr, hout, List.nil_append, List.length_nil]
    omega
  · have hsome : chunk ≠ [] := List.ne_nil_of_length_pos (by omega)
    refine .serve hp hc (exists_write_on ha hc hr hp.gone hchunk hall hsome) rfl (fun _ h => by cases h)
      (by simp [hr, Phase.ahead]) ?_
    simp only [Connection.toDo, hr, hout, List.nil_append, List.length_nil]
    omega

end Session

namespace Service

open Link (firstMessage)
open Session (Connection Nearer answer)

variable {provider : Provider} {settings : Session.Settings} {size : Pool.Settings}
  {s : Service} {id : ℕ} {c : Connection} {request : Wire.Command}

/-! ### From the push to the queue -/

/-- One push is under way at a time. -/
theorem Reachable.underWay_eq {old : Wire.Command} (h : Reachable provider settings size s)
    (hc : s.session.connections[id]? = some c) (hr : c.phase = .pushing old) :
    s.session.pool.underWay = [⟨id, old⟩] := by
  obtain ⟨hloop, -⟩ := h.serial.unknown hc (by rw [hr]; rfl)
  have hall : ∀ r ∈ s.session.pool.underWay, (r.connection == id) = true := by
    intro r hmem
    obtain ⟨c', hc', hplace⟩ := h.session.linked.exists_connection .underWay hmem
    obtain ⟨hother, -⟩ := h.serial.unknown hc' (accepted?_of_underWay hplace)
    cases hloop.symm.trans hother
    exact beq_self_eq_true _
  calc s.session.pool.underWay
      = s.session.pool.requestsOf id .underWay := (List.filter_eq_self.mpr hall).symm
    _ = c.phase.requestsAt id .underWay := h.session.linked.requestsOf hc
    _ = [⟨id, old⟩] := by rw [hr]; rfl

section Serving

variable (h : Reachable provider settings size s) (hw : 1 ≤ size.workers)
  (hc : s.session.connections[id]? = some c) (hp : c.Promising request)

include h hw hc hp

/-- A push that has a slot can put its request into the queue. -/
theorem Reachable.nearer_granted {old : Wire.Command} (hr : c.phase = .pushing old)
    (hgranted : ⟨id, old⟩ ∈ s.session.pool.granted) :
    Nearer provider request id s.session c := by
  obtain ⟨hloop, -⟩ := h.serial.unknown hc (by rw [hr]; rfl)
  have hclosing := (h.untouched (by rw [hloop]; rfl)).closing
  have hopen : s.session.pool.isOpen = true := by
    by_contra hshut
    have hrefuses : s.session.pool.refuses .granted = true := by
      simp [Pool.refuses, eq_false_of_ne_true hshut]
    obtain hclosed | ⟨-, hdeserted⟩ := h.session.pool.staffed.refuses hgranted hrefuses
    · cases hclosing.symm.trans hclosed
    · exact h.session.not_isDeserted hw hdeserted
  obtain ⟨pool, hpool⟩ := h.session.pool.enqueue_or_refuse hgranted
  rw [hopen, if_pos rfl] at hpool
  refine .serve hp hc (Session.exists_enqueue hc hr hpool) rfl (fun _ h => by cases h)
    (by simp [hr, Session.Phase.ahead]) ?_
  simp only [Connection.toDo, hr]
  omega

/-- Whatever is queued or runs can come a step further. -/
theorem Reachable.nearer_pool (hrunning : c.phase.requestAt? .running = none)
    (hsome : s.session.pool.queue ++ s.session.pool.running ≠ []) :
    Nearer provider request id s.session c := by
  have hpool := h.session.pool
  by_cases hnone : s.session.pool.running = []
  · rw [hnone, List.append_nil] at hsome
    exact Session.nearer_queue h.session.linked hc hp hsome
      (hpool.exists_activity?_idle hw h.session.isBroken_eq_false hsome hnone)
  · exact Session.nearer_running h.session.linked hpool.accounted.distinct hc hp hrunning hnone

/-- A push gets a slot in the end. -/
theorem Reachable.nearer_pushing (hslots : 1 ≤ size.slots) {old : Wire.Command}
    (hr : c.phase = .pushing old) : Nearer provider request id s.session c := by
  have hunder := h.underWay_eq hc hr
  obtain ⟨hwaiting, hgranted⟩ | ⟨hwaiting, hgranted⟩ := List.append_eq_singleton_iff.mp hunder
  · exact h.nearer_granted hw hc hp hr (hgranted ▸ List.mem_singleton_self _)
  · obtain ⟨hloop, -⟩ := h.serial.unknown hc (by rw [hr]; rfl)
    have hclosing := (h.untouched (by rw [hloop]; rfl)).closing
    by_cases hfree : 0 < s.session.pool.free
    · -- it is the first in line
      obtain ⟨t, ht, hconn, hpool⟩ := Session.exists_grant provider
        (Pool.step?_eq_some_iff.mpr (.grant hwaiting hclosing hfree))
      refine .after ht rfl hconn ?_
      have hnext : Reachable provider settings size ⟨t, s.loop⟩ := h.step (.session rfl ht)
      refine hnext.nearer_granted hw (hconn ▸ hc) hp hr ?_
      show _ ∈ t.pool.granted
      rw [hpool]
      exact List.mem_append_right _ (List.mem_singleton_self _)
    · -- all slots are with what is queued or runs
      have hheld := h.session.pool.free_eq
      rw [Pool.held, hgranted, List.nil_append] at hheld
      refine h.nearer_pool hw hc hp (by rw [hr]; rfl) (List.ne_nil_of_length_pos ?_)
      omega

/-! ### From the first byte to the last -/

/-- As long as the peer does not have the whole answer, something can happen that brings it
nearer. -/
theorem Reachable.nearer (hslots : 1 ≤ size.slots)
    (hframe : firstMessage settings.maxFrameSize (Wire.frame request) = some (.ok request))
    (hnot : ¬ (c.phase = .ended (.answered request) ∧ c.outbox = [])) :
    Nearer provider request id s.session c := by
  have hsound := h.session.sound c (List.mem_of_getElem? hc)
  have hsame : ∀ {old}, c.phase.brought? = some old → old = request := fun hb =>
    Except.ok.inj (hp.eq_of_firstMessage hframe (hsound.brings hb))
  have hlinked := h.session.linked
  have hdistinct := h.session.pool.accounted.distinct
  cases hr : c.phase with
  | reading r =>
    by_cases hinbox : c.inbox = []
    · exact Session.nearer_send hc hp hsound hr hinbox hframe
    · obtain ⟨hloop, -⟩ := h.serial.unknown hc (by rw [hr]; rfl)
      have hdropped := (h.untouched (by rw [hloop]; rfl)).dropped
      rw [← h.session.settings_eq] at hsound hframe
      exact Session.nearer_read hc hp hsound hr hinbox hdropped hframe
  | pushing old => exact h.nearer_pushing hw hc hp hslots hr
  | queued old =>
    have hqueue : ⟨id, old⟩ ∈ s.session.pool.queue := hlinked.mem_tasksAt .queue hc (by rw [hr]; rfl)
    exact h.nearer_pool hw hc hp (by rw [hr]; rfl)
      (List.append_ne_nil_of_left_ne_nil (List.ne_nil_of_mem hqueue) _)
  | rendering old =>
    obtain rfl := hsame (by rw [hr]; rfl)
    exact Session.nearer_begin hlinked hdistinct hc hp hr
  | answering old frame written =>
    obtain rfl := hsame (by rw [hr]; rfl)
    by_cases hout : c.outbox = []
    · exact Session.nearer_write hlinked hdistinct hc hp hr (hsound.tells hr).2.2.1 hout
    · exact Session.nearer_collect hc hp hout (.inl ⟨_, _, _, hr⟩)
  | ended ending =>
    obtain rfl := hp.ending _ hr
    exact Session.nearer_collect hc hp (fun hout => hnot ⟨hr, hout⟩) (.inr ⟨_, hr⟩)

end Serving

/-- A run leads to where the peer has the whole answer. -/
theorem Reachable.leads_answered (h : Reachable provider settings size s)
    (hw : 1 ≤ size.workers) (hslots : 1 ≤ size.slots)
    (hframe : firstMessage settings.maxFrameSize (Wire.frame request) = some (.ok request))
    (hc : s.session.connections[id]? = some c) (hp : c.Promising request) :
    ∃ t d, ReflTransGen (Session.Own provider) s.session t ∧ t.connections[id]? = some d ∧
      d.Promising request ∧ d.phase = .ended (.answered request) ∧ d.outbox = [] := by
  -- by induction on what has to happen
  induction hn : Session.load provider request s.session c using Nat.strongRecOn
    generalizing s c with
  | ind n ih =>
    by_cases hdone : c.phase = .ended (.answered request) ∧ c.outbox = []
    · exact ⟨s.session, c, .refl, hc, hp, hdone.1, hdone.2⟩
    · obtain ⟨u, d, hu, hd, hpd, hless⟩ := h.nearer hw hc hp hslots hframe hdone
      obtain ⟨t, d', ht, hd', hanswered⟩ := ih _ (hn ▸ hless) (h.own hu) hd hpd rfl
      exact ⟨t, d', hu.trans ht, hd', hanswered⟩

end Service

end Thumbnailer
