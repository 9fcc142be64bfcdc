/-
Every peer gets the answer to its own request, or nothing.

* **`answer`** — the bytes that answer a request;
* **`Tells`** — what a phase tells about the bytes that a connection's peer sent and will get;
* **`Sound`** — the bytes of a connection are what its phase tells;
* **`Move.sound`**, **`Joint.sound`** — whatever happens to a connection keeps it so;
* **`received_prefix_answer`** — whatever happens on other connections, what a peer gets begins the
  answer to the request that this peer sent, and the pool accepted just that request, once; or it
  gets nothing, and the pool accepted nothing of it.
-/
import Thumbnailer.Proofs.Link.Reading
import Thumbnailer.Proofs.Session.Linked

namespace Thumbnailer.Session

open Link (Progress Reading firstMessage firstMessage_append)

variable {provider : Provider} {settings : Settings} {size : Pool.Settings} {s t : Session}
  {limit id : Nat} {p : Pool Request} {c d : Connection} {e : Event}
  {f : Pool.Event Request}

/-- The bytes that answer a request. -/
def answer (provider : Provider) (request : Wire.Command) : List UInt8 :=
  Wire.frame (provider.respond request).response

/-- The bytes that a peer got or will get. -/
def Connection.output (c : Connection) : List UInt8 := c.received ++ c.outbox

/-- The bytes that the peer sent begin with a request. -/
def Connection.Brings (limit : Nat) (c : Connection) (request : Wire.Command) : Prop :=
  firstMessage limit c.sent = some (.ok request)

/-! ### What a phase tells -/

/-- What a phase tells about the bytes that a connection's peer sent and will get. -/
def Tells (provider : Provider) (limit : Nat) (c : Connection) : Phase → Prop
  | .reading r =>
    (∃ seen, c.sent = seen ++ c.inbox ∧
      Reading.start.feed limit seen = ((.waiting r, []) : Progress Wire.Command × List UInt8)) ∧
    c.output = []
  | .pushing request => c.Brings limit request ∧ c.output = []
  | .queued request => c.Brings limit request ∧ c.output = []
  | .rendering request => c.Brings limit request ∧ c.output = []
  | .answering request frame written =>
    c.Brings limit request ∧ frame = answer provider request ∧ written ≤ frame.length ∧
      c.output = frame.take written
  | .ended (.unreadable _) => c.output = []
  | .ended (.refused request) => c.Brings limit request ∧ c.output = []
  | .ended .abandoned => c.output = []
  | .ended (.answered request) => c.Brings limit request ∧ c.output = answer provider request
  | .ended (.unanswered request _) =>
    c.Brings limit request ∧ c.output <+: answer provider request

/-- The bytes of a connection are what its phase tells. -/
def Sound (provider : Provider) (limit : Nat) (c : Connection) : Prop :=
  Tells provider limit c c.phase

theorem Sound.tells {phase : Phase} (h : Sound provider limit c) (hp : c.phase = phase) :
    Tells provider limit c phase :=
  hp ▸ h

theorem sound_start (capacity : Nat) : Sound provider limit (.start capacity) :=
  ⟨⟨[], rfl, rfl⟩, rfl⟩

theorem Connection.Brings.extend {request : Wire.Command} (h : c.Brings limit request)
    {bytes : List UInt8} (hsent : d.sent = c.sent ++ bytes) : d.Brings limit request := by
  rw [Brings, hsent]
  exact firstMessage_append bytes h

/-- A peer that sends more, or reads what is there, changes nothing of what the phase tells. -/
theorem Sound.extend (h : Sound provider limit c) (bytes : List UInt8) (hphase : d.phase = c.phase)
    (hinbox : d.inbox = c.inbox ++ bytes) (hsent : d.sent = c.sent ++ bytes)
    (hout : d.output = c.output) : Sound provider limit d := by
  rw [Sound, hphase]
  cases hp : c.phase with
  | reading r =>
    obtain ⟨⟨seen, hseen, hfeed⟩, hnone⟩ := h.tells hp
    exact ⟨⟨seen, by rw [hsent, hinbox, hseen, List.append_assoc], hfeed⟩, hout.trans hnone⟩
  | answering request frame written =>
    obtain ⟨hbrings, hframe, hle, hwritten⟩ := h.tells hp
    exact ⟨hbrings.extend hsent, hframe, hle, hout.trans hwritten⟩
  | ended ending =>
    cases ending with
    | unreadable cause => exact hout.trans (h.tells hp)
    | abandoned => exact hout.trans (h.tells hp)
    | unanswered request cause => exact ⟨(h.tells hp).1.extend hsent, hout ▸ (h.tells hp).2⟩
    | _ => exact ⟨(h.tells hp).1.extend hsent, hout.trans (h.tells hp).2⟩
  | _ => exact ⟨(h.tells hp).1.extend hsent, hout.trans (h.tells hp).2⟩

theorem Connection.Brings.of_feed {r : Reading} {request : Wire.Command} {rest : List UInt8}
    (h : Sound provider limit c) (hr : c.phase = .reading r)
    (hfeed : r.feed limit c.inbox
      = ((.done (.ok request), rest) : Progress Wire.Command × List UInt8)) :
    c.Brings limit request := by
  obtain ⟨⟨seen, hseen, hstart⟩, -⟩ := h.tells hr
  rw [Brings, hseen, ← Reading.result?_feed_start, Reading.feed_append, hstart, Reading.resume,
    hfeed]
  rfl

/-- The next piece of an answer goes where the pieces before it ended. -/
theorem output_write {frame chunk : List UInt8} {written room : Nat}
    (hout : c.output = frame.take written) (hle : written ≤ frame.length)
    (hchunk : chunk = (frame.drop written).take room) :
    c.output ++ chunk = frame.take (written + chunk.length) ∧
      written + chunk.length ≤ frame.length := by
  have hlen : chunk.length = min room (frame.length - written) := by
    rw [hchunk, List.length_take, List.length_drop]
  refine ⟨?_, by omega⟩
  rw [hout, List.take_add, hlen, ← List.length_drop, ← List.take_eq_take_min, ← hchunk]

/-! ### Each step keeps it -/

theorem Move.sound {told : List Wire.Response} (h : Move provider limit p id e c told d)
    (hc : Agrees p id c) (hs : Sound provider limit c) : Sound provider limit d := by
  cases h with
  | send => exact hs.extend _ rfl rfl rfl rfl
  | endSending => exact hs.extend [] rfl (by simp) (by simp) rfl
  | leave => exact hs.extend [] rfl (by simp) (by simp) rfl
  | collect =>
    refine hs.extend [] rfl (by simp) (by simp) ?_
    rw [Connection.output, Connection.output, List.append_assoc, List.take_append_drop]
  | readOn hr hfeed =>
    cases Reading.feed_waiting hfeed
    -- what is read now goes behind what was read before
    obtain ⟨⟨seen, hseen, hstart⟩, hnone⟩ := hs.tells hr
    refine ⟨⟨seen ++ c.inbox, by simp [hseen], ?_⟩, hnone⟩
    rw [Reading.feed_append, hstart, Reading.resume, hfeed]
  | lost hr _ _ => exact (hs.tells hr).2
  | malformed hr _ => exact (hs.tells hr).2
  | late hr _ _ _ => exact (hs.tells hr).2
  | abandon hr => exact (hs.tells hr).2
  | respond ha hr =>
    -- the request that the worker answers is the one that this connection brought
    have hrunning := hc.running ha
    rw [hr] at hrunning
    cases hrunning
    obtain ⟨hbrings, hnone⟩ := hs.tells hr
    exact ⟨hbrings, rfl, Nat.zero_le _, hnone⟩
  | write _ hr hchunk =>
    obtain ⟨hbrings, hframe, hle, hout⟩ := hs.tells hr
    obtain ⟨hout, hle⟩ := output_write hout hle hchunk
    refine ⟨hbrings, hframe, hle, ?_⟩
    rw [← hout, Connection.output, Connection.output, List.append_assoc]

theorem Joint.sound (h : Joint limit p id e c f d) (hc : Agrees p id c)
    (hs : Sound provider limit c) : Sound provider limit d := by
  cases h with
  | push hr hfeed =>
    have hbrings := Connection.Brings.of_feed hs hr hfeed
    exact ⟨hbrings, (hs.tells hr).2⟩
  | abandon hr => exact (hs.tells hr).2
  | enqueue hr => exact hs.tells hr
  | refuse hr => exact hs.tells hr
  | take hq => exact hs.tells (hc.queued hq)
  | @answered _ _ _ _ _ frame _ _ hr hchunk hall =>
    obtain ⟨hbrings, hframe, hle, hout⟩ := hs.tells hr
    obtain ⟨hout, -⟩ := output_write hout hle hchunk
    refine ⟨hbrings, ?_⟩
    rw [← hframe, ← List.take_length (l := frame), ← hall, ← hout, Connection.output,
      Connection.output, List.append_assoc]
  | unanswered _ hr _ =>
    obtain ⟨hbrings, hframe, -, hout⟩ := hs.tells hr
    refine ⟨hbrings, ?_⟩
    rw [← hframe]
    exact hout ▸ List.take_prefix _ _

theorem Reachable.sound (h : Reachable provider settings size s) :
    ∀ c ∈ s.connections, Sound provider settings.maxFrameSize c :=
  h.forall_connections sound_start (fun hm hc hs => hm.sound hc hs) fun hj hc hs => hj.sound hc hs

/-! ### What a peer gets -/

/-- A connection is answered with its own request, or not at all. -/
theorem Sound.answered_or_silent (h : Sound provider limit c) :
    c.phase.requestAt? .accepted = none ∧ c.output = [] ∨
      ∃ request, c.phase.requestAt? .accepted = some request ∧ c.Brings limit request ∧
        c.output <+: answer provider request := by
  cases hp : c.phase with
  | reading r => exact .inl ⟨rfl, (h.tells hp).2⟩
  | pushing request => exact .inl ⟨rfl, (h.tells hp).2⟩
  | queued request =>
    obtain ⟨hbrings, hnone⟩ := h.tells hp
    exact .inr ⟨request, rfl, hbrings, hnone ▸ List.nil_prefix⟩
  | rendering request =>
    obtain ⟨hbrings, hnone⟩ := h.tells hp
    exact .inr ⟨request, rfl, hbrings, hnone ▸ List.nil_prefix⟩
  | answering request frame written =>
    obtain ⟨hbrings, hframe, -, hout⟩ := h.tells hp
    refine .inr ⟨request, rfl, hbrings, ?_⟩
    rw [hout, ← hframe]
    exact List.take_prefix _ _
  | ended ending =>
    cases ending with
    | unreadable cause => exact .inl ⟨rfl, h.tells hp⟩
    | refused request => exact .inl ⟨rfl, (h.tells hp).2⟩
    | abandoned => exact .inl ⟨rfl, h.tells hp⟩
    | answered request =>
      obtain ⟨hbrings, hwhole⟩ := h.tells hp
      exact .inr ⟨request, rfl, hbrings, hwhole ▸ List.prefix_rfl⟩
    | unanswered request cause => exact .inr ⟨request, rfl, h.tells hp⟩

theorem Phase.accepted?_eq_true_iff {phase : Phase} :
    phase.accepted? = some true ↔ phase.requestAt? .accepted = some .shutdown := by
  have hshutdown : ∀ request : Wire.Command, request.isShutdown = true ↔ request = .shutdown := by
    intro request
    cases request <;> simp [Wire.Command.isShutdown]
  cases phase with
  | ended ending => cases ending <;> simp [accepted?, requestAt?, hshutdown]
  | _ => simp [accepted?, requestAt?, hshutdown]

/-- **Everybody gets the answer to its own request.**  Of each connection, either the pool accepted
nothing and the peer gets nothing; or the pool accepted one request, once, namely the one that the
bytes of this peer begin with, and what the peer got, with what is on its way, begins the answer to
it.  If the writing was successful, that is the whole answer.  A peer whose request could not be
read or was refused gets nothing.  The worker is told to stop just if the accepted request says
so. -/
theorem received_prefix_answer (h : Reachable provider settings size s)
    (hc : s.connections[id]? = some c) :
    (s.pool.requestsOf id .accepted = [] ∧ c.received ++ c.outbox = [] ∨
      ∃ request, s.pool.requestsOf id .accepted = [⟨id, request⟩] ∧
        firstMessage settings.maxFrameSize c.sent = some (.ok request) ∧
        c.received ++ c.outbox <+: answer provider request) ∧
    (∀ request, c.phase = .ended (.answered request) →
      c.received ++ c.outbox = answer provider request) ∧
    (∀ cause, c.phase = .ended (.unreadable cause) →
      s.pool.requestsOf id .accepted = [] ∧ c.received ++ c.outbox = []) ∧
    (∀ request, ⟨id, request⟩ ∈ s.pool.refused →
      s.pool.requestsOf id .accepted = [] ∧ c.received ++ c.outbox = []) ∧
    (c.phase.accepted? = some true ↔ s.pool.requestsOf id .accepted = [⟨id, .shutdown⟩]) := by
  have hsound := h.sound c (List.mem_of_getElem? hc)
  have htasks : s.pool.requestsOf id .accepted = c.phase.requestsAt id .accepted :=
    h.linked.requestsOf hc
  have hsilent : c.phase.requestAt? .accepted = none →
      s.pool.requestsOf id .accepted = [] ∧ c.received ++ c.outbox = [] := by
    intro hnone
    obtain ⟨-, hout⟩ | ⟨request, hsome, -⟩ := hsound.answered_or_silent
    · exact ⟨by rw [htasks, Phase.requestsAt, hnone]; rfl, hout⟩
    · cases hnone.symm.trans hsome
  -- the pool tells the phase, and the phase tells the bytes
  refine ⟨?_, fun request hp => ?_, fun cause hp => hsilent (by rw [hp]; rfl),
    fun request hr => hsilent ?_, ?_⟩
  · obtain ⟨hnone, -⟩ | ⟨request, hsome, hbrings, hprefix⟩ := hsound.answered_or_silent
    · exact .inl (hsilent hnone)
    · refine .inr ⟨request, ?_, hbrings, hprefix⟩
      rw [htasks, Phase.requestsAt, hsome]
      rfl
  · exact (hsound.tells hp).2
  · have hrefused := h.linked.agrees hc .refused request hr
    cases hp : c.phase with
    | ended ending =>
      rw [hp] at hrefused
      cases ending <;> first | rfl | cases hrefused
    | _ =>
      rw [hp] at hrefused
      cases hrefused
  · rw [Phase.accepted?_eq_true_iff, htasks, Phase.requestsAt]
    cases c.phase.requestAt? .accepted <;> simp

/-- Two peers are served by one worker in turn; the second is answered first and asks it to stop. -/
theorem received_prefix_answer_two :
    ∃ s, Reachable ⟨fun _ _ => .images [], none, none⟩ .standard ⟨1, 2, 5⟩ s ∧
      s.connections.map (fun c => (c.received, c.outbox, c.phase.accepted?))
        = [([0, 1, 0, 2, 0], [0, 0, 0], some false), ([0, 1, 0, 4, 0, 0, 0, 0], [], some true)] ∧
      s.pool.requestsOf 1 .accepted = [⟨1, .shutdown⟩] := by
  obtain ⟨s, hs, hf⟩ := exists_reachable ⟨fun _ _ => .images [], none, none⟩ .standard ⟨1, 2, 5⟩
    (a := [([0, 1, 0, 2, 0], [0, 0, 0], some false), ([0, 1, 0, 4, 0, 0, 0, 0], [], some true)])
    (fun s => s.connections.map fun c => (c.received, c.outbox, c.phase.accepted?))
    [.connect 100, .connect 100, .send 1 [0, 1, 0, 3, 0, 0, 0, 0], .send 0 [0, 1, 0], .read 0,
      .read 1, .send 0 [1, 0, 0, 0, 0], .pool .grant, .enqueue 1, .read 0, .pool .grant, .enqueue 0,
      .take 0, .respond 0, .write 0, .collect 1 100, .take 0, .respond 0, .write 0, .collect 0 5]
    (by decide +kernel)
  obtain ⟨c, rest, hconn, -, hrest⟩ := List.map_eq_cons_iff.mp hf
  obtain ⟨d, rest, rfl, hd, -⟩ := List.map_eq_cons_iff.mp hrest
  have hsecond : s.connections[1]? = some d := by rw [hconn]; rfl
  obtain ⟨-, -, -, -, hstop⟩ := received_prefix_answer hs hsecond
  simp only [Prod.mk.injEq] at hd
  exact ⟨s, hs, hf, hstop.mp hd.2.2⟩

end Thumbnailer.Session
