/-
What a step of a session can do.

Every event concerns one connection, or the pool, or one connection and the pool together.  What
it does to a connection does not depend on the other connections, and what it does to the pool is
a step of the pool.

* **`Move`** — what may happen to a connection while the pool stays as it is, and which answer is
  begun with it;
* **`Joint`** — what may happen to a connection together with an event of the pool;
* **`Step`** — the rules of a session;
* **`Step.of_step?`** — whatever `Session.step?` computes is one of them;
* **`Reachable.pool`** — the pool of a session is in a reachable state of its own.
-/
import Thumbnailer.Session.Basic
import Thumbnailer.Proofs.Pool.Step

namespace Thumbnailer.Session

open Link (Progress Reading)

variable {provider : Provider} {settings : Settings} {size : Pool.Settings} {s t : Session}
  {e : Event}

/-! ### The rules -/

/-- What an event may do to a connection while the pool stays as it is, and the answer that is begun
with it, if any. -/
inductive Move (provider : Provider) (limit : Nat) (p : Pool Request) (id : Nat) :
    Event → Connection → List Wire.Response → Connection → Prop
  | send {c : Connection} {bytes : List UInt8} : c.phase.isOver = false →
    Move provider limit p id (.send id bytes) c []
      { c with inbox := c.inbox ++ bytes, sent := c.sent ++ bytes }
  | endSending {c : Connection} :
    Move provider limit p id (.endSending id) c [] { c with ended := true }
  | leave {c : Connection} : Move provider limit p id (.leave id) c [] { c with gone := true }
  | collect {c : Connection} {count : Nat} :
    Move provider limit p id (.collect id count) c []
      { c with outbox := c.outbox.drop count, received := c.received ++ c.outbox.take count }
  | readOn {c : Connection} {r r' : Reading} {rest : List UInt8} : c.phase = .reading r →
    r.feed limit c.inbox = ((.waiting r', rest) : Progress Wire.Command × List UInt8) →
    Move provider limit p id (.read id) c [] { c with inbox := rest, phase := .reading r' }
  | lost {c : Connection} {r r' : Reading} {rest : List UInt8} : c.phase = .reading r →
    r.feed limit c.inbox = ((.waiting r', rest) : Progress Wire.Command × List UInt8) →
    c.ended = true ∨ c.gone = true →
    Move provider limit p id (.read id) c []
      { c with inbox := rest, phase := .ended (.unreadable (.io .earlyEnd)) }
  | malformed {c : Connection} {r : Reading} {cause : Error} {rest : List UInt8} :
    c.phase = .reading r →
    r.feed limit c.inbox = ((.done (.error cause), rest) : Progress Wire.Command × List UInt8) →
    Move provider limit p id (.read id) c []
      { c with inbox := rest, phase := .ended (.unreadable cause) }
  | late {c : Connection} {r r' : Reading} {rest : List UInt8} : c.phase = .reading r →
    r.feed limit c.inbox = ((.waiting r', rest) : Progress Wire.Command × List UInt8) →
    c.ended = false → c.gone = false →
    Move provider limit p id (.expire id) c []
      { c with inbox := rest, phase := .ended (.unreadable r'.late) }
  | abandon {c : Connection} {r : Reading} : c.phase = .reading r →
    Move provider limit p id (.abandon id) c [] { c with phase := .ended .abandoned }
  | respond {c : Connection} {worker : Nat} {request old : Wire.Command} :
    p.activity? worker = some (.running ⟨id, request⟩) → c.phase = .rendering old →
    Move provider limit p id (.respond worker) c [(provider.respond request).response]
      { c with phase := .answering request (Wire.frame (provider.respond request).response) 0 }
  | write {c : Connection} {worker written : Nat} {request old : Wire.Command}
      {frame chunk : List UInt8} :
    p.activity? worker = some (.running ⟨id, request⟩) → c.phase = .answering old frame written →
    chunk = (frame.drop written).take (c.capacity - c.outbox.length) →
    Move provider limit p id (.write worker) c []
      { c with outbox := c.outbox ++ chunk
               phase := .answering old frame (written + chunk.length) }

/-- What an event may do to a connection together with an event of the pool. -/
inductive Joint (limit : Nat) (p : Pool Request) (id : Nat) :
    Event → Connection → Pool.Event Request → Connection → Prop
  | push {c : Connection} {r : Reading} {request : Wire.Command} {rest : List UInt8} :
    c.phase = .reading r →
    r.feed limit c.inbox = (.done (.ok request), rest) →
    Joint limit p id (.read id) c (.push ⟨id, request⟩)
      { c with inbox := rest, phase := .pushing request }
  | abandon {c : Connection} {request : Wire.Command} {stage : Pool.Stage} :
    c.phase = .pushing request →
    Joint limit p id (.abandon id) c (.abandon stage ⟨id, request⟩)
      { c with phase := .ended .abandoned }
  | enqueue {c : Connection} {request : Wire.Command} : c.phase = .pushing request →
    Joint limit p id (.enqueue id) c (.enqueue ⟨id, request⟩) { c with phase := .queued request }
  | refuse {c : Connection} {request : Wire.Command} {stage : Pool.Stage} :
    c.phase = .pushing request →
    Joint limit p id (.refuse stage id) c (.refuse stage ⟨id, request⟩)
      { c with phase := .ended (.refused request) }
  | take {c : Connection} {worker : Nat} {request : Wire.Command} :
    p.queue.head? = some ⟨id, request⟩ →
    Joint limit p id (.take worker) c (.take worker) { c with phase := .rendering request }
  | answered {c : Connection} {worker written : Nat} {request old : Wire.Command}
      {frame chunk : List UInt8} :
    p.activity? worker = some (.running ⟨id, request⟩) → c.phase = .answering old frame written →
    chunk = (frame.drop written).take (c.capacity - c.outbox.length) →
    written + chunk.length = frame.length →
    Joint limit p id (.write worker) c (.finish worker)
      { c with outbox := c.outbox ++ chunk, phase := .ended (.answered old) }
  | unanswered {c : Connection} {worker written : Nat} {request old : Wire.Command}
      {frame : List UInt8} {cause : Error} {e : Event} :
    p.activity? worker = some (.running ⟨id, request⟩) → c.phase = .answering old frame written →
    e = .write worker ∧ cause = .io .pipeBroken ∧ c.gone = true ∨
      e = .writeLate worker ∧ cause = .late (.writing frame.length) →
    Joint limit p id e c (.finish worker) { c with phase := .ended (.unanswered old cause) }

/-- What an event does to a session, and when it can happen. -/
inductive Step (provider : Provider) (s : Session) : Event → Session → Prop
  | connect {t : Session} {capacity : Nat} : t.settings = s.settings → s.pool.dropped = false →
    t.connections = s.connections ++ [.start capacity] → t.pool = s.pool →
    t.answers = s.answers → Step provider s (.connect capacity) t
  | move {t : Session} {e : Event} {id : Nat} {c d : Connection} {told : List Wire.Response} :
    t.settings = s.settings → s.connections[id]? = some c →
    Move provider s.settings.maxFrameSize s.pool id e c told d →
    t.connections = s.connections.set id d → t.pool = s.pool →
    t.answers = s.answers ++ told.map (id, ·) → Step provider s e t
  | joint {t : Session} {e : Event} {id : Nat} {c d : Connection} {f : Pool.Event Request} :
    t.settings = s.settings → s.connections[id]? = some c →
    Joint s.settings.maxFrameSize s.pool id e c f d →
    t.connections = s.connections.set id d → Pool.Step s.pool f t.pool →
    t.answers = s.answers → Step provider s e t
  | housekeeping {t : Session} {f : Pool.Event Request} : t.settings = s.settings →
    isHousekeeping f = true → t.connections = s.connections → Pool.Step s.pool f t.pool →
    t.answers = s.answers → Step provider s (.pool f) t

/-! ### Each event follows a rule -/

theorem modify_eq_set {l : List Connection} {id : Nat} {c : Connection}
    (f : Connection → Connection) (hc : l[id]? = some c) : l.modify id f = l.set id (f c) := by
  refine List.ext_getElem? fun i => ?_
  rw [List.getElem?_modify, List.getElem?_set]
  by_cases hi : id = i
  · subst hi
    have hlt := (List.getElem?_eq_some_iff.mp hc).1
    rw [hc, if_pos rfl, if_pos hlt]
    simp
  · simp [hi]

theorem connections_setPhase {id : Nat} {c : Connection} (phase : Phase)
    (hc : s.connections[id]? = some c) :
    (s.setPhase id phase).connections = s.connections.set id { c with phase := phase } :=
  modify_eq_set _ hc

/-- Changing a connection and then its phase is changing it once. -/
theorem connections_set_setPhase {id : Nat} {c : Connection} (d : Connection) (phase : Phase)
    (hc : s.connections[id]? = some c) :
    ({ s with connections := s.connections.set id d }.setPhase id phase).connections
      = s.connections.set id { d with phase := phase } := by
  have hlt := (List.getElem?_eq_some_iff.mp hc).1
  rw [connections_setPhase (c := d) phase (by simp [hlt]), List.set_set]

theorem stepPool_cases {f : Pool.Event Request} (h : s.stepPool f = some t) :
    t.settings = s.settings ∧ t.connections = s.connections ∧ Pool.Step s.pool f t.pool ∧
      t.answers = s.answers := by
  obtain ⟨pool, hpool, ht⟩ := Option.bind_eq_some_iff.mp h
  cases ht
  exact ⟨rfl, rfl, .of_step? hpool, rfl⟩

/-- A move with which no answer is begun. -/
theorem Step.quiet {id : Nat} {c d : Connection} (hsettings : t.settings = s.settings)
    (hc : s.connections[id]? = some c)
    (hmove : Move provider s.settings.maxFrameSize s.pool id e c [] d)
    (hconn : t.connections = s.connections.set id d) (hpool : t.pool = s.pool)
    (htold : t.answers = s.answers) : Step provider s e t :=
  .move hsettings hc hmove hconn hpool (by rw [htold, List.map_nil, List.append_nil])

/-- A peer's own doing. -/
theorem Step.of_change? {id : Nat} {f : Connection → Option Connection}
    (hf : ∀ c d, f c = some d → Move provider s.settings.maxFrameSize s.pool id e c [] d)
    (h : s.change? id f = some t) : Step provider s e t := by
  obtain ⟨c, hc, h⟩ := Option.bind_eq_some_iff.mp h
  obtain ⟨d, hd, h⟩ := Option.bind_eq_some_iff.mp h
  cases h
  exact .quiet rfl hc (hf c d hd) rfl rfl rfl

theorem Step.of_stepRead {id : Nat} (h : s.stepRead id = some t) :
    Step provider s (.read id) t := by
  obtain ⟨c, hc, h⟩ := Option.bind_eq_some_iff.mp h
  split at h
  · rename_i r hr
    generalize hfeed : (r.feed s.settings.maxFrameSize c.inbox
      : Progress Wire.Command × List UInt8) = now at h
    obtain ⟨progress, rest⟩ := now
    -- in each case the bytes that were taken leave the inbox, and the phase changes after that
    have hset := fun phase => connections_set_setPhase { c with inbox := rest } phase hc
    cases progress with
    | waiting r' =>
      simp only at h
      split at h
      · cases h
        exact .quiet rfl hc (.readOn hr hfeed) (hset _) rfl rfl
      · split at h
        · rename_i hlost
          cases h
          exact .quiet rfl hc (.lost hr hfeed (by simpa using hlost)) (hset _) rfl rfl
        · cases h
    | done result =>
      cases result with
      | error cause =>
        cases h
        exact .quiet rfl hc (.malformed hr hfeed) (hset _) rfl rfl
      | ok request =>
        obtain ⟨hsettings, hconn, hpool, htold⟩ := stepPool_cases h
        exact .joint hsettings hc (.push hr hfeed) (hconn.trans (hset _)) hpool htold
  · cases h

theorem Step.of_stepExpire {id : Nat} (h : s.stepExpire id = some t) :
    Step provider s (.expire id) t := by
  obtain ⟨c, hc, h⟩ := Option.bind_eq_some_iff.mp h
  split at h
  · rename_i r hr
    generalize hfeed : (r.feed s.settings.maxFrameSize c.inbox
      : Progress Wire.Command × List UInt8) = now at h
    obtain ⟨progress, rest⟩ := now
    cases progress with
    | waiting r' =>
      simp only [Option.ite_none_left_eq_some, Bool.or_eq_true, not_or, Bool.not_eq_true] at h
      obtain ⟨⟨hended, hgone⟩, h⟩ := h
      cases h
      exact .quiet rfl hc (.late hr hfeed hended hgone)
        (connections_set_setPhase { c with inbox := rest } _ hc) rfl rfl
    | done result => cases h
  · cases h

theorem Step.of_stepAbandon {id : Nat} (h : s.stepAbandon id = some t) :
    Step provider s (.abandon id) t := by
  obtain ⟨c, hc, h⟩ := Option.bind_eq_some_iff.mp h
  split at h
  · rename_i hr
    cases h
    exact .quiet rfl hc (.abandon hr) (connections_setPhase _ hc) rfl rfl
  · rename_i hr
    obtain ⟨hsettings, hconn, hpool, htold⟩ := stepPool_cases h
    exact .joint hsettings hc (.abandon hr) (hconn.trans (connections_setPhase _ hc)) hpool htold
  · cases h

theorem Step.of_stepEnqueue {id : Nat} (h : s.stepEnqueue id = some t) :
    Step provider s (.enqueue id) t := by
  obtain ⟨c, hc, h⟩ := Option.bind_eq_some_iff.mp h
  split at h
  · rename_i hr
    obtain ⟨hsettings, hconn, hpool, htold⟩ := stepPool_cases h
    exact .joint hsettings hc (.enqueue hr) (hconn.trans (connections_setPhase _ hc)) hpool htold
  · cases h

theorem Step.of_stepRefuse {stage : Pool.Stage} {id : Nat} (h : s.stepRefuse stage id = some t) :
    Step provider s (.refuse stage id) t := by
  obtain ⟨c, hc, h⟩ := Option.bind_eq_some_iff.mp h
  split at h
  · rename_i hr
    obtain ⟨s', hs', h⟩ := Option.bind_eq_some_iff.mp h
    cases h
    obtain ⟨hsettings, hconn, hpool, htold⟩ := stepPool_cases hs'
    refine .joint hsettings hc (.refuse hr) ?_ hpool htold
    rw [← hconn] at hc ⊢
    exact connections_setPhase _ hc
  · cases h

theorem Step.of_stepTake {worker : Nat} (h : s.stepTake worker = some t) :
    Step provider s (.take worker) t := by
  obtain ⟨r, hr, h⟩ := Option.bind_eq_some_iff.mp h
  obtain ⟨c, hc, h⟩ := Option.bind_eq_some_iff.mp h
  obtain ⟨hsettings, hconn, hpool, htold⟩ := stepPool_cases h
  exact .joint hsettings hc (.take hr) (hconn.trans (connections_setPhase _ hc)) hpool htold

theorem served?_eq_some {worker : Nat} {r : Request} {c : Connection}
    (h : s.served? worker = some (r, c)) :
    s.pool.activity? worker = some (.running r) ∧ s.connections[r.connection]? = some c := by
  obtain ⟨activity, ha, h⟩ := Option.bind_eq_some_iff.mp h
  obtain ⟨r', hr', h⟩ := Option.bind_eq_some_iff.mp h
  obtain ⟨c', hc', h⟩ := Option.bind_eq_some_iff.mp h
  cases h
  cases activity with
  | running r =>
    cases hr'
    exact ⟨ha, hc'⟩
  | _ => cases hr'

theorem Step.of_stepRespond {worker : Nat} (h : s.stepRespond provider worker = some t) :
    Step provider s (.respond worker) t := by
  obtain ⟨⟨r, c⟩, hserved, h⟩ := Option.bind_eq_some_iff.mp h
  obtain ⟨ha, hc⟩ := served?_eq_some hserved
  simp only at h
  split at h
  · rename_i hr
    cases h
    exact .move rfl hc (.respond ha hr) (connections_setPhase _ hc) rfl rfl
  · cases h

/-- The end of an answering, whatever the connection got before. -/
theorem finish_cases {worker id : Nat} {ending : Ending}
    (h : s.finish worker id ending = some t) :
    t.settings = s.settings ∧ t.connections = (s.setPhase id (.ended ending)).connections ∧
      Pool.Step s.pool (.finish worker) t.pool ∧ t.answers = s.answers := by
  cases ending with
  | _ => exact stepPool_cases h

theorem Step.of_stepWrite {worker : Nat} (h : s.stepWrite worker = some t) :
    Step provider s (.write worker) t := by
  obtain ⟨⟨r, c⟩, hserved, h⟩ := Option.bind_eq_some_iff.mp h
  obtain ⟨ha, hc⟩ := served?_eq_some hserved
  simp only at h
  split at h
  · rename_i old frame written hr
    split at h
    · rename_i hgone
      obtain ⟨hsettings, hconn, hpool, htold⟩ := finish_cases h
      exact .joint hsettings hc (.unanswered ha hr (.inl ⟨rfl, rfl, hgone⟩))
        (hconn.trans (connections_setPhase _ hc)) hpool htold
    · generalize hchunk : (frame.drop written).take (c.capacity - c.outbox.length) = chunk at h
      have hset := fun phase =>
        connections_set_setPhase { c with outbox := c.outbox ++ chunk } phase hc
      split at h
      · rename_i hall
        obtain ⟨hsettings, hconn, hpool, htold⟩ := finish_cases h
        exact .joint hsettings hc (.answered ha hr hchunk.symm hall) (hconn.trans (hset _)) hpool
          htold
      · split at h
        · cases h
        · cases h
          exact .quiet rfl hc (.write ha hr hchunk.symm) (hset _) rfl rfl
  · cases h

theorem Step.of_stepWriteLate {worker : Nat} (h : s.stepWriteLate worker = some t) :
    Step provider s (.writeLate worker) t := by
  obtain ⟨⟨r, c⟩, hserved, h⟩ := Option.bind_eq_some_iff.mp h
  obtain ⟨ha, hc⟩ := served?_eq_some hserved
  simp only at h
  split at h
  · rename_i hr
    obtain ⟨hsettings, hconn, hpool, htold⟩ := finish_cases h
    exact .joint hsettings hc (.unanswered ha hr (.inr ⟨rfl, rfl⟩))
      (hconn.trans (connections_setPhase _ hc)) hpool htold
  · cases h

theorem Step.of_stepHousekeeping {f : Pool.Event Request} (h : s.stepHousekeeping f = some t) :
    Step provider s (.pool f) t := by
  simp only [stepHousekeeping] at h
  split at h
  · cases h
  · rename_i he
    split at h
    · cases h
    · obtain ⟨hsettings, hconn, hpool, htold⟩ := stepPool_cases h
      exact .housekeeping hsettings (by simpa using he) hconn hpool htold

theorem step?_connect_eq_some_iff {capacity : Nat} :
    s.step? provider (.connect capacity) = some t ↔
      s.pool.dropped = false ∧
        { s with connections := s.connections ++ [.start capacity] } = t := by
  simp [step?]

/-- A state that `step?` computes is one that a rule leads to. -/
theorem Step.of_step? (h : s.step? provider e = some t) : Step provider s e t := by
  cases e with
  | connect capacity =>
    obtain ⟨hd, rfl⟩ := step?_connect_eq_some_iff.mp h
    exact .connect rfl hd rfl rfl rfl
  | send id bytes =>
    refine .of_change? (fun c d hd => ?_) h
    simp only [Connection.send?, Option.ite_none_left_eq_some, Option.some.injEq, Bool.or_eq_true,
      not_or, Bool.not_eq_true] at hd
    obtain ⟨⟨⟨-, hover⟩, -⟩, rfl⟩ := hd
    exact .send hover
  | endSending id =>
    refine .of_change? (fun c d hd => ?_) h
    simp only [Option.ite_none_left_eq_some, Option.some.injEq] at hd
    obtain ⟨-, rfl⟩ := hd
    exact .endSending
  | leave id =>
    refine .of_change? (fun c d hd => ?_) h
    simp only [Option.ite_none_left_eq_some, Option.some.injEq] at hd
    obtain ⟨-, rfl⟩ := hd
    exact .leave
  | collect id count =>
    refine .of_change? (fun c d hd => ?_) h
    simp only [Connection.collect?, Option.ite_none_left_eq_some, Option.some.injEq] at hd
    obtain ⟨-, rfl⟩ := hd
    exact .collect
  | read id => exact .of_stepRead h
  | expire id => exact .of_stepExpire h
  | abandon id => exact .of_stepAbandon h
  | enqueue id => exact .of_stepEnqueue h
  | refuse stage id => exact .of_stepRefuse h
  | take worker => exact .of_stepTake h
  | respond worker => exact .of_stepRespond h
  | write worker => exact .of_stepWrite h
  | writeLate worker => exact .of_stepWriteLate h
  | pool e => exact .of_stepHousekeeping h

theorem Step.settings_eq (h : Step provider s e t) : t.settings = s.settings := by
  cases h with
  | connect hsettings _ _ _ _ => exact hsettings
  | move hsettings _ _ _ _ _ => exact hsettings
  | joint hsettings _ _ _ _ _ => exact hsettings
  | housekeeping hsettings _ _ _ _ => exact hsettings

/-! ### Runs -/

/-- What holds of a new session and is kept by every step holds in every reachable state. -/
theorem Reachable.invariant {P : Session → Prop} (hstart : P (Session.start settings size))
    (hstep : ∀ {s e t}, Reachable provider settings size s → Step provider s e t → P s → P t)
    (h : Reachable provider settings size s) : P s := by
  induction h with
  | start => exact hstart
  | next e hs he ih => exact hstep hs (.of_step? he) ih

/-- The state after some events, if they can happen one after another. -/
def after? (provider : Provider) (s : Session) (events : List Event) : Option Session :=
  events.foldlM (step? provider) s

theorem Reachable.after? {events : List Event} (hs : Reachable provider settings size s)
    (h : s.after? provider events = some t) : Reachable provider settings size t := by
  -- by induction on the events, from whatever state is reached
  induction events generalizing s with
  | nil =>
    cases h
    exact hs
  | cons e rest ih =>
    rw [Session.after?, List.foldlM_cons, Option.bind_eq_bind, Option.bind_eq_some_iff] at h
    obtain ⟨s', hs', ht⟩ := h
    exact ih (hs.next e hs') ht

/-- A state that a run leads to, known by what `f` tells of it. -/
theorem exists_reachable {α : Type} {a : α} (provider : Provider) (settings : Settings)
    (size : Pool.Settings) (f : Session → α) (events : List Event)
    (h : ((Session.start settings size).after? provider events).map f = some a) :
    ∃ s, Reachable provider settings size s ∧ f s = a := by
  obtain ⟨s, hs, hf⟩ := Option.map_eq_some_iff.mp h
  exact ⟨s, Reachable.start.after? hs, hf⟩

theorem Reachable.settings_eq (h : Reachable provider settings size s) : s.settings = settings :=
  h.invariant (P := fun s => s.settings = settings) rfl fun _ hstep hs => hstep.settings_eq.trans hs

/-- The pool of a session is in a reachable state of its own. -/
theorem Reachable.pool (h : Reachable provider settings size s) : s.pool.Reachable size :=
  h.invariant (P := fun s => s.pool.Reachable size) .start fun _ hstep hp => by
    cases hstep with
    | connect _ _ _ hpool _ => exact hpool ▸ hp
    | move _ _ _ _ hpool _ => exact hpool ▸ hp
    | joint _ _ _ _ hpool _ => exact hp.step hpool
    | housekeeping _ _ _ hpool _ => exact hp.step hpool

end Thumbnailer.Session
