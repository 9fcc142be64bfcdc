/-
Every accepted request is answered once before a session has drained.

A worker of a session answers each request that it takes, whatever the provider does, and the
writing of an answer ends, well or not.  So no worker ever breaks down, and whoever is the last to
leave the pool leaves nothing behind.

* **`Phase.begun?`**, **`Replied`** — the answers that were begun for a connection are those that
  its phase tells;
* **`Excused`** — an answer that was not written to its end was late, or its peer had left;
* **`Reachable.panicked_eq_nil`** — no request ever breaks a worker;
* **`drained_answered`** — when a session has drained, each request that the pool accepted has been
  answered once, with an answer of its own kind, and the writing has ended.
-/
import Thumbnailer.Proofs.Pool.Replacement
import Thumbnailer.Proofs.Session.Isolation

namespace Thumbnailer

/-- Whether an answer is of the kind that a request asks for. -/
def Wire.Command.asksFor : Command → Response → Bool
  | .hello, .hello => true
  | .shutdown, .shutdown => true
  | .formats, .formats _ => true
  | .render _, .render _ => true
  | _, _ => false

theorem Provider.asksFor_respond (provider : Provider) (request : Wire.Command) :
    request.asksFor (provider.respond request).response = true := by
  cases request with
  | render task =>
    rw [respond]
    cases (provider.process task).result <;> rfl
  | _ => rfl

namespace Session

variable {provider : Provider} {settings : Settings} {size : Pool.Settings} {s t : Session}
  {limit id : Nat} {p : Pool Request} {c d : Connection} {e : Event}
  {f : Pool.Event Request}

/-! ### The answers of a connection -/

/-- The request of a connection, once its answer has begun to be written. -/
def Phase.begun? : Phase → Option Wire.Command
  | answering request _ _ => some request
  | ended (.answered request) => some request
  | ended (.unanswered request _) => some request
  | _ => none

/-- The answers that the phase of a connection tells of. -/
def Phase.answers (provider : Provider) (phase : Phase) : List Wire.Response :=
  phase.begun?.toList.map fun request => (provider.respond request).response

/-- The answers that were begun for a connection, in order. -/
def answersTo (s : Session) (id : Nat) : List Wire.Response :=
  (s.answers.filter (·.1 == id)).map (·.2)

/-- The answers that were begun for a connection are those that its phase tells of. -/
def Replied (provider : Provider) (s : Session) : Prop :=
  ∀ id, s.answersTo id = (s.connections[id]?).elim [] (·.phase.answers provider)

theorem Move.answers {told : List Wire.Response} (h : Move provider limit p id e c told d) :
    d.phase.answers provider = c.phase.answers provider ++ told := by
  cases h with
  | send => exact (List.append_nil _).symm
  | endSending => exact (List.append_nil _).symm
  | leave => exact (List.append_nil _).symm
  | collect => exact (List.append_nil _).symm
  | readOn hr _ => rw [hr]; rfl
  | lost hr _ _ => rw [hr]; rfl
  | malformed hr _ => rw [hr]; rfl
  | late hr _ _ _ => rw [hr]; rfl
  | abandon hr => rw [hr]; rfl
  | respond _ hr => rw [hr]; rfl
  | write _ hr _ => rw [hr]; rfl

theorem Joint.answers (h : Joint limit p id e c f d) (hc : Agrees p id c) :
    d.phase.answers provider = c.phase.answers provider := by
  cases h with
  | push hr _ => rw [hr]; rfl
  | abandon hr => rw [hr]; rfl
  | enqueue hr => rw [hr]; rfl
  | refuse hr => rw [hr]; rfl
  | take hq => rw [hc.queued hq]; rfl
  | answered _ hr _ _ => rw [hr]; rfl
  | unanswered _ hr _ => rw [hr]; rfl

theorem answersTo_append {told : List Wire.Response}
    (ht : t.answers = s.answers ++ told.map (id, ·)) (i : Nat) :
    t.answersTo i = s.answersTo i ++ if i = id then told else [] := by
  rw [answersTo, answersTo, ht, List.filter_append, List.map_append]
  congr 1
  by_cases hi : i = id
  · subst hi
    rw [if_pos rfl, List.filter_eq_self.mpr (by simp), List.map_map]
    exact List.map_id _
  · rw [if_neg hi, List.filter_eq_nil_iff.mpr (by simp [Ne.symm hi]), List.map_nil]

theorem answersTo_congr (ht : t.answers = s.answers) (i : Nat) : t.answersTo i = s.answersTo i := by
  rw [answersTo, answersTo, ht]

theorem Replied.step (hl : Linked s) (hs : Replied provider s) (h : Step provider s e t) :
    Replied provider t := by
  intro i
  cases h with
  | connect _ _ hconn _ htold =>
    -- no answer was begun for a connection that is new
    rw [answersTo_congr htold, hs i, hconn, elim_concat _ rfl]
  | @move _ _ id c d told _ hc hmove hconn _ htold =>
    rw [answersTo_append htold, hs i, hconn, elim_set _ hc]
    by_cases hi : i = id
    · subst hi
      rw [if_pos rfl, if_pos rfl, hc, Option.elim_some, hmove.answers]
    · rw [if_neg hi, if_neg hi, List.append_nil]
  | @joint _ _ id c d _ _ hc hjoint hconn _ htold =>
    rw [answersTo_congr htold, hs i, hconn, elim_set _ hc]
    by_cases hi : i = id
    · subst hi
      rw [if_pos rfl, hc, Option.elim_some, hjoint.answers (hl.agrees hc)]
    · rw [if_neg hi]
  | housekeeping _ _ hconn _ htold => rw [answersTo_congr htold, hs i, hconn]

theorem Reachable.replied (h : Reachable provider settings size s) : Replied provider s :=
  h.invariant (P := Replied provider) (fun _ => rfl) fun hr hstep hs => hs.step hr.linked hstep

/-! ### How the writing of an answer ends -/

/-- An answer that was not written to its end was late, when it was `due`, or its peer had left. -/
def Excused (provider : Provider) (due : Prop) (c : Connection) : Prop :=
  ∀ request cause, c.phase = .ended (.unanswered request cause) →
    cause = .io .pipeBroken ∧ c.gone = true ∨
      cause = .late (.writing (answer provider request).length) ∧ due

section Due

variable {due due' : Prop}

theorem excused_start (capacity : Nat) : Excused provider due (.start capacity) := by
  intro request cause hp
  cases hp

theorem Excused.imp (h : Excused provider due c) (hdue : c.phase.isOver = true → due → due') :
    Excused provider due' c := by
  intro request cause hp
  exact (h request cause hp).imp_right (And.imp_right (hdue (by rw [hp]; rfl)))

theorem Move.excused {told : List Wire.Response} (h : Move provider limit p id e c told d)
    (hc : Excused provider due c) : Excused provider due d := by
  intro request cause hd
  cases h with
  | send => exact hc request cause hd
  | endSending => exact hc request cause hd
  | leave => exact (hc request cause hd).imp_left fun hleft => ⟨hleft.1, rfl⟩
  | collect => exact hc request cause hd
  | _ => cases hd

theorem Joint.excused (h : Joint limit p id e c f d) (hs : Sound provider limit c)
    (hdue : ∀ worker request, e = .writeLate worker →
      p.activity? worker = some (.running ⟨id, request⟩) → due) : Excused provider due d := by
  intro request cause hd
  cases h with
  | unanswered ha hr hcause =>
    cases hd
    -- what is written is the answer to the request
    obtain ⟨-, hframe, -⟩ := hs.tells hr
    rw [hframe] at hcause
    obtain ⟨-, hbroken⟩ | ⟨he, hlate⟩ := hcause
    · exact .inl hbroken
    · exact .inr ⟨hlate, hdue _ _ he ha⟩
  | _ => cases hd

end Due

theorem Reachable.excused (h : Reachable provider settings size s) :
    ∀ c ∈ s.connections, Sound provider settings.maxFrameSize c ∧ Excused provider True c :=
  h.forall_connections (fun capacity => ⟨sound_start capacity, excused_start capacity⟩)
    (fun hm hc hs => ⟨hm.sound hc hs.1, hm.excused hs.2⟩)
    fun hj hc hs => ⟨hj.sound hc hs.1, hj.excused hs.1 fun _ _ _ _ => trivial⟩

/-! ### No worker breaks down -/

theorem Joint.panicking (h : Joint limit p id e c f d) : p.panicking f = [] := by
  cases h <;> rfl

theorem Reachable.panicked_eq_nil (h : Reachable provider settings size s) :
    s.pool.panicked = [] := by
  refine h.invariant (P := fun s => s.pool.panicked = []) rfl ?_
  intro s e t hr hstep hs
  cases hstep with
  | connect _ _ _ hpool _ => rwa [hpool]
  | move _ _ _ _ hpool _ => rwa [hpool]
  | joint _ _ hjoint _ hpool _ =>
    rw [Pool.panicked_step hpool, hs, hjoint.panicking, List.nil_append]
  | housekeeping _ hk _ hpool _ =>
    have hnone := (List.append_eq_nil_iff.mp (flow_of_isHousekeeping (p := s.pool) hk .running).2).2
    rw [Pool.panicked_step hpool, hs, hnone, List.nil_append]

theorem Reachable.isBroken_eq_false (h : Reachable provider settings size s) :
    ∀ w ∈ s.pool.workers, w.activity.isBroken = false := by
  have hcount := h.pool.countP_restarts
  rw [h.panicked_eq_nil, List.length_nil, Nat.add_eq_zero_iff] at hcount
  exact fun w hw => eq_false_of_ne_true (List.countP_eq_zero.mp hcount.2 w hw)

/-- A session whose pool has workers does not lose them all by breakdowns. -/
theorem Reachable.not_isDeserted (h : Reachable provider settings size s)
    (hw : 1 ≤ size.workers) : ¬ s.pool.IsDeserted := by
  rintro ⟨-, hlength, hbroken⟩
  rw [h.pool.staffed.settings] at hlength
  obtain ⟨w, hmem⟩ := List.exists_mem_of_length_pos (Nat.lt_of_lt_of_eq hw hlength.symm)
  have hnot := h.isBroken_eq_false w hmem
  rw [hbroken w hmem] at hnot
  cases hnot

/-! ### The end of a session -/

theorem Linked.exists_connection (hl : Linked s) (place : Pool.Place) {request : Wire.Command}
    (hm : ⟨id, request⟩ ∈ s.pool.tasksAt place) :
    ∃ c, s.connections[id]? = some c ∧ c.phase.requestAt? place = some request := by
  have hmem := Pool.mem_requestsOf.mpr ⟨hm, rfl⟩
  rw [hl id place, requestsAt] at hmem
  cases hc : s.connections[id]? with
  | none =>
    rw [hc] at hmem
    cases hmem
  | some c => exact ⟨c, rfl, hl.agrees hc place request hm⟩

/-- Nobody is in a place of the pool that is empty. -/
theorem Linked.requestAt?_eq_none (hl : Linked s) (place : Pool.Place)
    (hp : s.pool.tasksAt place = []) (hc : s.connections[id]? = some c) :
    c.phase.requestAt? place = none := by
  have hnone : s.pool.requestsOf id place = c.phase.requestsAt id place := hl.requestsOf hc
  rw [Pool.requestsOf, hp, List.filter_nil, Phase.requestsAt] at hnone
  cases hr : c.phase.requestAt? place with
  | none => rfl
  | some request =>
    rw [hr] at hnone
    cases hnone

/-- An accepted request that neither is queued nor runs has been answered, well or not. -/
theorem Phase.ended_of_requestAt? {phase : Phase} {request : Wire.Command}
    (haccepted : phase.requestAt? .accepted = some request)
    (hqueue : phase.requestAt? .queue = none) (hrunning : phase.requestAt? .running = none) :
    phase = .ended (.answered request) ∨ ∃ cause, phase = .ended (.unanswered request cause) := by
  cases phase with
  | ended ending =>
    cases ending with
    | answered other =>
      cases haccepted
      exact .inl rfl
    | unanswered other cause =>
      cases haccepted
      exact .inr ⟨cause, rfl⟩
    | _ => cases haccepted
  | queued other => cases hqueue
  | rendering other => cases hrunning
  | answering other frame written => cases hrunning
  | _ => cases haccepted

theorem Reachable.ended_of_isDrained (h : Reachable provider settings size s)
    (hw : 1 ≤ size.workers) (hd : s.pool.isDrained = true) {request : Wire.Command}
    (hm : ⟨id, request⟩ ∈ s.pool.accepted) :
    ∃ c, s.connections[id]? = some c ∧ (c.phase = .ended (.answered request) ∨
      ∃ cause, c.phase = .ended (.unanswered request cause)) := by
  obtain ⟨c, hc, haccepted⟩ := h.linked.exists_connection .accepted hm
  obtain ⟨hrunning, hqueue | hdeserted⟩ := h.pool.queue_of_isDrained hd
  · exact ⟨c, hc, Phase.ended_of_requestAt? haccepted
      (h.linked.requestAt?_eq_none .queue hqueue hc)
      (h.linked.requestAt?_eq_none .running hrunning hc)⟩
  · exact absurd hdeserted (h.not_isDeserted hw)

/-- A worker that has a request begins to answer it, whatever the provider does, and goes on
working. -/
theorem exists_respond {worker : Nat} {request old : Wire.Command}
    (ha : s.pool.activity? worker = some (.running ⟨id, request⟩))
    (hc : s.connections[id]? = some c) (hp : c.phase = .rendering old) :
    ∃ t, s.step? provider (.respond worker) = some t ∧ t.pool = s.pool ∧
      t.answers = s.answers ++ [(id, (provider.respond request).response)] := by
  have hserved : s.served? worker = some (⟨id, request⟩, c) := by
    simp [served?, ha, hc, Pool.Activity.task?]
  let begun := { s.setPhase id
      (.answering request (Wire.frame (provider.respond request).response) 0) with
    answers := s.answers ++ [(id, (provider.respond request).response)]
    asked := s.asked ++ (provider.respond request).asked
    notices := s.notices ++ (provider.respond request).notices }
  refine ⟨begun, ?_, rfl, rfl⟩
  rw [step?, stepRespond, hserved]
  simp only [Option.bind_eq_bind, Option.bind_some, hp]
  rfl

/-- **A drained session has answered everything.**  Whatever the provider does, no worker breaks down:
one that has a request begins to answer it and goes on working.  So when the pool of a session has
drained, each request that it accepted has been answered once, with an answer of the kind that it
asks for, and the writing has ended: the whole answer was written, or the peer had left, or it was
late. -/
theorem drained_answered (h : Reachable provider settings size s) :
    (s.pool.panicked = [] ∧ ∀ w ∈ s.pool.workers, w.activity.isBroken = false) ∧
    (∀ worker id request c, s.pool.activity? worker = some (.running ⟨id, request⟩) →
      s.connections[id]? = some c → c.phase = .rendering request →
      ∃ t, s.step? provider (.respond worker) = some t ∧ t.pool = s.pool ∧
        t.answers = s.answers ++ [(id, (provider.respond request).response)]) ∧
    (1 ≤ size.workers → s.pool.isDrained = true → ∀ id request,
      ⟨id, request⟩ ∈ s.pool.accepted →
      s.answersTo id = [(provider.respond request).response] ∧
      request.asksFor (provider.respond request).response = true ∧
      ∃ c, s.connections[id]? = some c ∧
        (c.phase = .ended (.answered request) ∧
            c.received ++ c.outbox = answer provider request ∨
          ∃ cause, c.phase = .ended (.unanswered request cause) ∧
            (cause = .io .pipeBroken ∨
              cause = .late (.writing (answer provider request).length)) ∧
            c.received ++ c.outbox <+: answer provider request)) := by
  refine ⟨⟨h.panicked_eq_nil, h.isBroken_eq_false⟩, ?_, ?_⟩
  · intro worker id request c ha hc hp
    exact exists_respond ha hc hp
  intro hw hd id request hm
  obtain ⟨c, hc, hended⟩ := h.ended_of_isDrained hw hd hm
  obtain ⟨hsound, hexcused⟩ := h.excused c (List.mem_of_getElem? hc)
  have hreplied := h.replied id
  rw [hc, Option.elim_some] at hreplied
  refine ⟨?_, provider.asksFor_respond request, c, hc, ?_⟩
  · obtain hp | ⟨cause, hp⟩ := hended
    · rw [hreplied, hp]
      rfl
    · rw [hreplied, hp]
      rfl
  · obtain hp | ⟨cause, hp⟩ := hended
    · exact .inl ⟨hp, (hsound.tells hp).2⟩
    · exact .inr ⟨cause, hp, (hexcused request cause hp).imp And.left And.left,
        (hsound.tells hp).2⟩

/-- The only worker answers a request on which the provider breaks down, and then a shutdown whose
peer has left; the session is closed, told to stop and dropped before that, and drains. -/
theorem drained_answered_panicked :
    ∃ s, Reachable ⟨fun _ _ => .panicked .value, none, none⟩ .standard ⟨1, 2, 5⟩ s ∧
      s.pool.isDrained = true ∧
      s.pool.accepted = [⟨0, .render ⟨[97], [⟨10, 10⟩]⟩⟩, ⟨1, .shutdown⟩] ∧
      s.pool.panicked = [] ∧ s.answersTo 0 = [.render ⟨1, "ERROR", [[]]⟩] ∧
      s.answersTo 1 = [.shutdown] ∧
      ∃ c, s.connections[1]? = some c ∧
        (c.phase = .ended (.answered .shutdown) ∨
          ∃ cause, c.phase = .ended (.unanswered .shutdown cause)) := by
  obtain ⟨s, hs, hf⟩ := exists_reachable ⟨fun _ _ => .panicked .value, none, none⟩ .standard
    ⟨1, 2, 5⟩ (a := (true, [⟨0, .render ⟨[97], [⟨10, 10⟩]⟩⟩, ⟨1, .shutdown⟩]))
    (fun s => (s.pool.isDrained, s.pool.accepted))
    [.connect 100, .send 0 [0, 1, 0, 5, 0, 0, 0, 17, 0, 0, 0, 1, 97, 0, 0, 0, 1, 0, 0, 0, 10, 0, 0,
      0, 10], .read 0, .pool .grant, .enqueue 0, .pool .watch, .connect 100,
      .send 1 [0, 1, 0, 3, 0, 0, 0, 0], .take 0, .read 1, .pool .grant, .enqueue 1, .leave 1,
      .pool .close, .pool .signal, .pool .drop, .respond 0, .write 0, .take 0, .respond 0, .write 0,
      .pool (.leave 0), .pool .dismiss] (by decide +kernel)
  simp only [Prod.mk.injEq] at hf
  obtain ⟨hdrained, haccepted⟩ := hf
  obtain ⟨⟨hpanicked, -⟩, -, hanswered⟩ := drained_answered hs
  have hanswered := hanswered (Nat.le_refl 1) hdrained
  obtain ⟨hfirst, -⟩ := hanswered 0 (.render ⟨[97], [⟨10, 10⟩]⟩) (by simp [haccepted])
  obtain ⟨hsecond, -, c, hc, hended⟩ := hanswered 1 .shutdown (by simp [haccepted])
  refine ⟨s, hs, hdrained, haccepted, hpanicked, hfirst.trans (by decide +kernel), hsecond, c, hc,
    ?_⟩
  obtain ⟨hp, -⟩ | ⟨cause, hp, -⟩ := hended
  · exact .inl hp
  · exact .inr ⟨cause, hp⟩

end Session

end Thumbnailer
