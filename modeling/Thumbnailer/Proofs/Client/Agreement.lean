/-
A client and a worker understand each other.

A request goes through the frames of one side and the readers of the other, through the pool and the
provider, and its answer goes all the way back.  Both sides have a limit of their own.

* **`Provider.Answers`** — what the answer to a rendering task says;
* **`Client.Gets`** — what a call comes to, for each kind of request;
* **`Reachable.answered_of_ended`** — unless the transport failed or a deadline passed, a connection
  that is over was answered;
* **`Client.Smooth`** — a call that neither the transport nor a deadline spoils;
* **`Client.gets_answer`** — such a call comes to the very answer that the worker made, and each call
  can become one.
-/
import Thumbnailer.Client
import Thumbnailer.Proofs.Link.Sequence
import Thumbnailer.Proofs.Rendering.Answer
import Thumbnailer.Proofs.Service.Progress

namespace Thumbnailer

/-! ### What an answer says -/

namespace Provider

variable {p : Provider} {task : Task}

/-- What becomes of a task; it fails if the provider breaks down. -/
def outcome (p : Provider) (task : Task) : Outcome :=
  match (p.process task).result with
  | .ok outcome => outcome
  | .error _ => .failure task.sizes.length

theorem response_respond_render (p : Provider) (task : Task) :
    (p.respond (.render task)).response = .render (.ofOutcome (p.outcome task)) := by
  rw [respond, outcome]
  cases (p.process task).result with
  | ok outcome => rfl
  | error cause => rfl

/-- What is to be said of the answer to a task whose sizes the provider is given in this order. -/
structure Answers (p : Provider) (task : Task) (order : List (Size × ℕ)) (answer : Wire.Rendered) :
    Prop where
  perm : order.Perm task.sizes.zipIdx
  pairwise : order.Pairwise Precedes
  eq_outcome : answer = .ofOutcome (p.outcome task)
  /-- A provider that makes one picture for each size has each of them in the place of its size. -/
  made : task.sizes ≠ [] → ∀ images, p.render task.path (order.map Prod.fst) = .images images →
    images.length = task.sizes.length →
      answer.code = 0 ∧ answer.text = "OK" ∧ answer.images.length = task.sizes.length ∧
        order.map (fun a => answer.images[a.2]?) = images.map some
  /-- All else fails the task, and leaves the place of each size empty. -/
  failed : ¬ p.Serves task (order.map Prod.fst) →
    answer.code = 1 ∧ answer.text = "ERROR" ∧ answer.images = List.replicate task.sizes.length []

theorem outcome_of_ok {outcome : Outcome} (h : (p.process task).result = .ok outcome) :
    p.outcome task = outcome := by
  rw [Provider.outcome, h]

theorem outcome_of_not_serves (h : ¬ p.Serves task ((byWidth task.sizes).map Prod.fst)) :
    p.outcome task = .failure task.sizes.length := by
  obtain hfailed | ⟨cause, hpanic⟩ := result_process_of_not_serves h
  · exact outcome_of_ok hfailed
  · rw [outcome, hpanic]

theorem answers_ofOutcome (p : Provider) (task : Task) :
    p.Answers task (byWidth task.sizes) (.ofOutcome (p.outcome task)) where
  perm := byWidth_perm _
  pairwise := pairwise_byWidth _
  eq_outcome := rfl
  made hsizes images himages hlength := by
    obtain ⟨row, hrow, hrowlength, hplaces⟩ := exists_success_of_images hsizes himages hlength
    rw [outcome_of_ok hrow]
    exact ⟨rfl, rfl, hrowlength, hplaces⟩
  failed h := by
    rw [outcome_of_not_serves h]
    exact ⟨rfl, rfl, rfl⟩

end Provider

/-! ### What a call comes to -/

namespace Client

variable {client : Client} {provider : Provider} {request : Wire.Command} {reply : Reply}

/-- What the call for a request comes to if the worker answers it. -/
def Gets (client : Client) (provider : Provider) (reply : Reply) : Wire.Command → Prop
  | .hello => client.hello reply = .ok ()
  | .shutdown => client.shutdown reply = .ok ()
  | .formats => client.formats reply = .ok provider.formats
  | .render task => ∃ order answer, client.generate task reply = .ok answer ∧
      provider.Answers task order answer

/-- The worker answers each request with the kind of answer that its call takes. -/
theorem Gets.of_call (h : client.call reply = .ok (provider.respond request).response) :
    client.Gets provider reply request := by
  cases request with
  | hello =>
    rw [Gets, hello, h]
    rfl
  | shutdown =>
    rw [Gets, shutdown, h]
    rfl
  | formats =>
    rw [Gets, formats, h]
    rfl
  | render task =>
    refine ⟨byWidth task.sizes, .ofOutcome (provider.outcome task), ?_,
      provider.answers_ofOutcome task⟩
    rw [generate, h, Provider.response_respond_render]

end Client

/-! ### Frames -/

theorem Wire.firstMessage_frame_of_length {α : Type} [Side α] [LawfulSide α] {limit : ℕ} {m : α}
    (hword : (Side.payload m).length < 2 ^ 32) (hlimit : (Side.payload m).length ≤ limit) :
    Link.firstMessage limit (frame m) = some (.ok m) := by
  refine firstMessage_frame_eq_ok.mpr ⟨rfl, ?_, hlimit⟩
  rw [Nat.mod_eq_of_lt hword, List.take_length]

namespace Link

/-- Once the peer ended its side, everything is there. -/
theorem Line.before_eq_stream {l : Line} {t : ℕ} {e : ℕ × IoError}
    (h : l.ending t = some e) : l.before t = l.stream := by
  obtain ⟨ready, closed, coming⟩ := l
  induction coming generalizing ready closed t e with
  | nil =>
    cases closed with
    | some cause => rfl
    | none => cases h
  | cons a rest ih =>
    cases closed with
    | some cause => rfl
    | none =>
      rw [ending_cons] at h
      rw [before_cons, stream_cons]
      split at h
      · rename_i hwait
        obtain ⟨e', he', -⟩ := Option.map_eq_some_iff.mp h
        rw [if_pos hwait]
        exact ih _ _ he'
      · cases h

/-- Whoever has sent the beginning of a frame from which a message is read has sent all of it. -/
theorem eq_frame_of_firstMessage {α : Type} [Wire.Side α] {limit : ℕ} {m : α}
    (hword : (Wire.Side.payload m).length < 2 ^ 32) (hlimit : (Wire.Side.payload m).length ≤ limit)
    {bytes : List UInt8} (hbegins : bytes <+: Wire.frame m) {result : Except Error α}
    (h : firstMessage limit bytes = some result) : bytes = Wire.frame m := by
  have hneeded : needed limit bytes = (Wire.frame m).length := by
    obtain ⟨more, hmore⟩ := hbegins
    have hlong := (size_le_needed limit bytes).trans (needed_le_of_firstMessage h)
    have hframed := (Framed.ofMessage limit m hword hlimit).needed_append []
    rw [List.append_nil] at hframed
    rw [← needed_append more (Nat.not_lt.mpr hlong), hmore]
    exact hframed
  refine hbegins.eq_of_length_le ?_
  rw [← hneeded]
  exact needed_le_of_firstMessage h

end Link

namespace Session

variable {provider : Provider} {limit id : ℕ} {p : Pool Request} {c d : Connection} {e : Event}
  {f : Pool.Event Request} {request : Wire.Command}

/-! ### How a connection ends -/

/-- Whether an error is a failure of the transport, or a deadline that passed. -/
def isTransport : Error → Bool
  | .io _ => true
  | .late _ => true
  | _ => false

/-- Whether the serving of a connection ended with a failure of the transport or at a deadline. -/
def Ending.isTransport : Ending → Bool
  | unreadable cause => Session.isTransport cause
  | unanswered _ cause => Session.isTransport cause
  | _ => false

theorem Move.not_abandoned {told : List Wire.Response} (h : Move provider limit p id e c told d)
    (he : Service.isOwn e = true) (hc : c.phase ≠ .ended .abandoned) :
    d.phase ≠ .ended .abandoned := by
  cases h with
  | send _ => exact hc
  | endSending => exact hc
  | leave => exact hc
  | collect => exact hc
  | abandon _ => cases he
  | _ => simp

theorem Joint.not_abandoned (h : Joint limit p id e c f d) (he : Service.isOwn e = true) :
    d.phase ≠ .ended .abandoned := by
  cases h with
  | abandon _ => cases he
  | _ => simp

/-- Of a peer that sends one request, nothing else is answered. -/
theorem Sound.output_prefix_answer (h : Sound provider limit c)
    (hsent : Link.firstMessage limit c.sent = some (.ok request)) :
    c.received ++ c.outbox <+: answer provider request := by
  obtain ⟨-, hnone⟩ | ⟨other, -, hbrings, hbegins⟩ := h.answered_or_silent
  · rw [← Connection.output, hnone]
    exact List.nil_prefix
  · cases hbrings.symm.trans hsent
    exact hbegins

end Session

namespace Service

open Session (Connection answer)

variable {provider : Provider} {settings : Session.Settings} {size : Pool.Settings}
  {s : Service} {id : ℕ} {c : Connection} {request : Wire.Command}

/-- A service gives up no connection whose request it has not queued. -/
theorem Reachable.not_abandoned (h : Reachable provider settings size s) :
    ∀ c ∈ s.session.connections, c.phase ≠ .ended .abandoned := by
  refine h.invariant (P := fun s => ∀ c ∈ s.session.connections, c.phase ≠ .ended .abandoned)
    (fun c hc => by cases hc) ?_
  intro s e t _ hstep hs d hd
  obtain ⟨i, hi⟩ := List.mem_iff_getElem?.mp hd
  obtain ⟨capacity, rfl⟩ | ⟨c, hc, rfl | ⟨e, -, hown, hchanged⟩⟩ := hstep.connection hi
  · simp [Connection.start]
  · exact hs d (List.mem_of_getElem? hc)
  · have hbefore := hs c (List.mem_of_getElem? hc)
    cases hchanged with
    | kept => exact hbefore
    | move hmove => exact hmove.not_abandoned hown hbefore
    | joint hjoint => exact hjoint.not_abandoned hown

/-- A connection that brought a request and is over was answered, unless the transport failed or a
deadline passed. -/
theorem Reachable.answered_of_ended (h : Reachable provider settings size s)
    (hw : 1 ≤ size.workers) (hc : s.session.connections[id]? = some c)
    (hsent : Link.firstMessage settings.maxFrameSize c.sent = some (.ok request))
    {ending : Session.Ending} (hp : c.phase = .ended ending) (hok : ending.isTransport = false) :
    c.received ++ c.outbox = answer provider request := by
  have hmem := List.mem_of_getElem? hc
  obtain ⟨hsound, hexplained⟩ := h.session.explained c hmem
  obtain ⟨-, hexcused⟩ := h.session.excused c hmem
  cases ending with
  | unreadable cause => exact absurd hsent ((hexplained cause hp).not_brings request)
  | refused other =>
    have hnone := h.session.linked.requestAt?_eq_none .refused (h.handed (.inl hw)).refused hc
    rw [hp] at hnone
    cases hnone
  | abandoned => exact absurd hp (h.not_abandoned c hmem)
  | answered other =>
    obtain ⟨hbrings, hwhole⟩ := hsound.tells hp
    cases hbrings.symm.trans hsent
    exact hwhole
  | unanswered other cause =>
    -- there is no other reason for an answer not to be written
    obtain ⟨rfl, -⟩ | ⟨rfl, -⟩ := hexcused other cause hp
    · cases hok
    · cases hok

end Service

/-! ### The whole way -/

section Agreement

open Relation (ReflTransGen)

variable {provider : Provider} {settings : Session.Settings} {size : Pool.Settings}
  {s : Service} {id : ℕ} {c : Session.Connection} {client : Client} {request : Wire.Command}
  {l : Link.Line}

/-- A call over a connection that neither the transport nor a deadline spoils; `l` brings the client
what is written. -/
structure Client.Smooth (client : Client) (c : Session.Connection) (request : Wire.Command)
    (l : Link.Line) : Prop where
  /-- The request was sent to its end. -/
  sent : c.sent = Wire.frame request
  /-- The serving met with no failure of the transport, and no deadline passed there. -/
  undisturbed : ∀ ending, c.phase = .ended ending → ending.isTransport = false
  /-- The client gets what is written. -/
  stream : l.stream <+: c.received ++ c.outbox
  /-- It finds its connection closed only if the serving is over, and behind all this. -/
  closed : ∀ e, l.ending client.settings.readTimeout = some e →
    c.phase.isOver = true ∧ l.stream = c.received ++ c.outbox
  /-- Its own deadline does not pass. -/
  in_time : ∀ late, client.call (.line l) ≠ .error (.late late)

/-- A call whose answer was written to its end, and is there at once, is smooth. -/
theorem Client.smooth_of_answered (client : Client) (hsent : c.sent = Wire.frame request)
    (hp : c.phase = .ended (.answered request)) {answer : Wire.Response}
    (hword : answer.payload.length < 2 ^ 32)
    (hlimit : answer.payload.length ≤ client.settings.maxFrameSize)
    (hwritten : c.received ++ c.outbox = Wire.frame answer) :
    client.Smooth c request ⟨Wire.frame answer, some .earlyEnd, []⟩ := by
  have hstream : Link.Line.stream ⟨Wire.frame answer, some .earlyEnd, []⟩ = c.received ++ c.outbox :=
    (List.append_nil _).trans hwritten.symm
  have hfirst : Link.firstMessage client.settings.maxFrameSize (Wire.frame answer)
      = some (.ok answer) := Wire.firstMessage_frame_of_length hword hlimit
  rw [← Link.Line.before_closed (Wire.frame answer) .earlyEnd [] client.settings.readTimeout]
    at hfirst
  obtain ⟨hresult, -⟩ := (Link.Line.verdict_receive client.settings.maxFrameSize
    client.settings.readTimeout _).of_firstMessage hfirst
  exact {
    sent := hsent
    undisturbed := fun ending hended => by
      cases hp.symm.trans hended
      rfl
    stream := hstream ▸ List.prefix_rfl
    closed := fun _ _ => ⟨by rw [hp]; rfl, hstream⟩
    in_time := fun late hlate => by cases hlate.symm.trans hresult }

/-- A smooth call comes to the answer of the service. -/
theorem Client.Smooth.call_eq (hs : client.Smooth c request l)
    (h : Service.Reachable provider settings size s) (hw : 1 ≤ size.workers)
    (hc : s.session.connections[id]? = some c)
    (hsent : Link.firstMessage settings.maxFrameSize c.sent = some (.ok request))
    (hanswer : Link.firstMessage client.settings.maxFrameSize
      (Session.answer provider request) = some (.ok (provider.respond request).response)) :
    client.call (.line l) = .ok (provider.respond request).response := by
  obtain ⟨elapsed, hverdict⟩ : ∃ elapsed, l.Verdict client.settings.maxFrameSize
      client.settings.readTimeout (client.call (.line l)) elapsed :=
    ⟨_, Link.Line.verdict_receive _ _ l⟩
  have hlate := hs.in_time
  generalize client.call (.line l) = result at hverdict hlate ⊢
  cases hverdict with
  | found hfirst _ =>
    -- whatever is there is the beginning of the answer
    have hbegins := (h.session.sound c (List.mem_of_getElem? hc)).output_prefix_answer hsent
    obtain ⟨more, hmore⟩ := (Link.Line.before_prefix_stream l _).trans (hs.stream.trans hbegins)
    have hwhole := Link.firstMessage_append more hfirst
    rw [hmore, hanswer] at hwhole
    exact (Option.some.inj hwhole).symm
  | closed hmissing hend =>
    -- the service is done with the connection, so the whole answer is there
    obtain ⟨hover, hstream⟩ := hs.closed _ hend
    obtain ⟨ending, hp⟩ : ∃ ending, c.phase = .ended ending := by
      cases hp : c.phase with
      | ended ending => exact ⟨ending, rfl⟩
      | _ =>
        rw [hp] at hover
        cases hover
    have hwhole := h.answered_of_ended hw hc hsent hp (hs.undisturbed ending hp)
    rw [Link.Line.before_eq_stream hend, hstream, hwhole] at hmissing
    exact absurd (Link.needed_le_of_firstMessage hanswer) (Nat.not_le.mpr hmissing)
  | late _ _ => exact absurd rfl (hlate _)

/-- **A client and a worker agree from end to end.**  Let a client call a service whose pool has
workers and slots, and let both payloads be countable by a word and within the limit of the side that
reads them.  As long as no transport fails and no deadline passes, the call comes to the answer of the
service: a greeting, the consent to a shutdown, the formats of the provider, or for a rendering task
the answer that is made of its outcome — each picture of the provider in the place of its size, or a
failure with an empty place for each size.  And wherever the service is, if nothing has gone wrong so
far, it can come to this. -/
theorem Client.gets_answer (h : Service.Reachable provider settings size s) (hw : 1 ≤ size.workers)
    (hslots : 1 ≤ size.slots) (hc : s.session.connections[id]? = some c)
    (hrequest : request.payload.length < 2 ^ 32 ∧ request.payload.length ≤ settings.maxFrameSize)
    (hanswer : (provider.respond request).response.payload.length < 2 ^ 32 ∧
      (provider.respond request).response.payload.length ≤ client.settings.maxFrameSize) :
    (∀ l, client.Smooth c request l → client.Gets provider (.line l) request) ∧
    (c.Promising request → ∃ t d l, ReflTransGen (Session.Own provider) s.session t ∧
      t.connections[id]? = some d ∧ client.Smooth d request l ∧
      client.Gets provider (.line l) request) := by
  have hanswered : Link.firstMessage client.settings.maxFrameSize
      (Session.answer provider request) = some (.ok (provider.respond request).response) :=
    Wire.firstMessage_frame_of_length hanswer.1 hanswer.2
  have hframe : Link.firstMessage settings.maxFrameSize (Wire.frame request) = some (.ok request) :=
    Wire.firstMessage_frame_of_length hrequest.1 hrequest.2
  constructor
  · intro l hs
    have hsent : Link.firstMessage settings.maxFrameSize c.sent = some (.ok request) := by
      rw [hs.sent]
      exact hframe
    exact .of_call (hs.call_eq h hw hc hsent hanswered)
  · intro hp
    obtain ⟨t, d, ht, hd, hpd, hended, -⟩ := h.leads_answered hw hslots hframe hc hp
    have hreached : Service.Reachable provider settings size ⟨t, s.loop⟩ := h.own ht
    obtain ⟨hbrings, hwritten⟩ :=
      (hreached.session.sound d (List.mem_of_getElem? hd)).tells hended
    have hsent := Link.eq_frame_of_firstMessage hrequest.1 hrequest.2 hpd.sent hbrings
    have hs := client.smooth_of_answered hsent hended hanswer.1 hanswer.2 hwritten
    exact ⟨t, d, _, ht, hd, hs, .of_call (hs.call_eq hreached hw hd hbrings hanswered)⟩

/-- A task with a path that is no text goes over a pipe that holds one byte, to a pool of one worker
and one slot; each side has just the limit that is needed. -/
theorem Client.gets_answer_byte :
    ∃ c l, Client.Smooth ⟨"", ⟨9, 9, 19⟩⟩ c (.render ⟨[97, 255], [⟨30, 7⟩]⟩) l ∧
      Client.generate ⟨"", ⟨9, 9, 19⟩⟩ ⟨[97, 255], [⟨30, 7⟩]⟩ (.line l) = .ok ⟨0, "OK", [[7]]⟩ := by
  obtain ⟨s, hs, hc⟩ := Service.exists_reachable
    ⟨fun _ sizes => .images (sizes.map fun z => [.ofNat z.height.toNat]), none, none⟩ ⟨9, 9, 18⟩
    ⟨1, 1, 5⟩ (a := some (Session.Connection.start 1)) (fun s => s.session.connections[0]?)
    [.accept 1] rfl
  have hrequest : (Wire.Command.render ⟨[97, 255], [⟨30, 7⟩]⟩).payload.length < 2 ^ 32 ∧
      (Wire.Command.render ⟨[97, 255], [⟨30, 7⟩]⟩).payload.length ≤ 18 := by decide +kernel
  have hanswer : (Provider.respond
        ⟨fun _ sizes => .images (sizes.map fun z => [.ofNat z.height.toNat]), none, none⟩
        (.render ⟨[97, 255], [⟨30, 7⟩]⟩)).response.payload.length < 2 ^ 32 ∧
      (Provider.respond
        ⟨fun _ sizes => .images (sizes.map fun z => [.ofNat z.height.toNat]), none, none⟩
        (.render ⟨[97, 255], [⟨30, 7⟩]⟩)).response.payload.length
          ≤ (⟨"", ⟨9, 9, 19⟩⟩ : Client).settings.maxFrameSize := by decide +kernel
  have hfresh : Session.Connection.Promising (.render ⟨[97, 255], [⟨30, 7⟩]⟩) (.start 1) := {
    sent := List.nil_prefix
    ended := rfl
    gone := rfl
    capacity := Nat.one_pos
    ending := fun _ h => by cases h }
  obtain ⟨-, hgoes⟩ := Client.gets_answer hs (Nat.le_refl 1) (Nat.le_refl 1) hc hrequest hanswer
  obtain ⟨t, d, l, -, -, hsmooth, order, answer, hcall, hanswers⟩ := hgoes hfresh
  have hmade : answer = ⟨0, "OK", [[7]]⟩ := hanswers.eq_outcome.trans (by decide +kernel)
  exact ⟨d, l, hsmooth, hmade ▸ hcall⟩

end Agreement

end Thumbnailer
