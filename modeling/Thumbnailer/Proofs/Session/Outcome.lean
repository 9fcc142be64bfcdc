/-
What becomes of a connection, and what stays known of it.

* **`Changed`** — what one event may make of a connection;
* **`Step.changed`** — it makes that of every connection that is there;
* **`Changed.accepted?`**, **`Changed.phase_eq`** — what is known of a request stays known, and a
  connection that is over stays as it ended;
* **`Faulty`** — why no request could be read from a connection;
* **`Connection.request?`**, **`brought?_eq_request?`** — once it is known what became of a
  connection, it has brought just the request that its bytes begin with;
* **`inOrder`** — requests in the order of their connections;
* **`Handed`** — what the connections brought was pushed in their order, and nothing was refused or
  given up.
-/
import Thumbnailer.Proofs.Session.Answers

namespace Thumbnailer.Session

open Link (Progress Reading firstMessage firstMessage_append)

variable {provider : Provider} {settings : Settings} {size : Pool.Settings} {s t : Session}
  {limit id : Nat} {p : Pool Request} {c d : Connection} {e : Event} {f : Pool.Event Request}

/-! ### One event and one connection -/

/-- What one event may make of a connection. -/
inductive Changed (provider : Provider) (limit : Nat) (p : Pool Request) (id : Nat) (e : Event)
    (c : Connection) : Connection → Prop
  | kept : Changed provider limit p id e c c
  | move {d : Connection} {told : List Wire.Response} :
    Move provider limit p id e c told d → Changed provider limit p id e c d
  | joint {d : Connection} {f : Pool.Event Request} :
    Joint limit p id e c f d → Changed provider limit p id e c d

theorem Step.changed (h : Step provider s e t) (hc : s.connections[id]? = some c) :
    ∃ d, t.connections[id]? = some d ∧
      Changed provider s.settings.maxFrameSize s.pool id e c d := by
  have hlt := (List.getElem?_eq_some_iff.mp hc).1
  cases h with
  | connect _ _ hconn _ _ =>
    exact ⟨c, by rw [hconn, List.getElem?_append_left hlt, hc], .kept⟩
  | @move _ _ i c' d _ _ hc' hmove hconn _ _ =>
    by_cases hi : i = id
    · subst hi
      cases hc'.symm.trans hc
      exact ⟨d, by rw [hconn, List.getElem?_set_self hlt], .move hmove⟩
    · exact ⟨c, by rw [hconn, List.getElem?_set_ne hi, hc], .kept⟩
  | @joint _ _ i c' d _ _ hc' hjoint hconn _ _ =>
    by_cases hi : i = id
    · subst hi
      cases hc'.symm.trans hc
      exact ⟨d, by rw [hconn, List.getElem?_set_self hlt], .joint hjoint⟩
    · exact ⟨c, by rw [hconn, List.getElem?_set_ne hi, hc], .kept⟩
  | housekeeping _ _ hconn _ _ => exact ⟨c, by rw [hconn, hc], .kept⟩

/-- Whether a shutdown was accepted stays known. -/
theorem Changed.accepted? {b : Bool} (h : Changed provider limit p id e c d) (hc : Agrees p id c)
    (hb : c.phase.accepted? = some b) : d.phase.accepted? = some b := by
  cases h with
  | kept => exact hb
  | move h =>
    cases h with
    | send _ => exact hb
    | endSending => exact hb
    | leave => exact hb
    | collect => exact hb
    | respond ha hr =>
      have hrunning := hc.running ha
      rw [hr] at hrunning hb
      cases hrunning
      exact hb
    | write _ hr _ =>
      rw [hr] at hb
      exact hb
    | readOn hr _ => rw [hr] at hb; cases hb
    | lost hr _ _ => rw [hr] at hb; cases hb
    | malformed hr _ => rw [hr] at hb; cases hb
    | late hr _ _ _ => rw [hr] at hb; cases hb
    | abandon hr => rw [hr] at hb; cases hb
  | joint h =>
    cases h with
    | take hq =>
      rw [hc.queued hq] at hb
      exact hb
    | answered _ hr _ _ =>
      rw [hr] at hb
      exact hb
    | unanswered _ hr _ =>
      rw [hr] at hb
      exact hb
    | push hr _ => rw [hr] at hb; cases hb
    | abandon hr => rw [hr] at hb; cases hb
    | enqueue hr => rw [hr] at hb; cases hb
    | refuse hr => rw [hr] at hb; cases hb

/-- A connection that is over stays as it ended. -/
theorem Changed.phase_eq {ending : Ending} (h : Changed provider limit p id e c d)
    (hc : Agrees p id c) (ho : c.phase = .ended ending) : d.phase = .ended ending := by
  cases h with
  | kept => exact ho
  | move h =>
    cases h with
    | send _ => exact ho
    | endSending => exact ho
    | leave => exact ho
    | collect => exact ho
    | respond _ hr => cases hr.symm.trans ho
    | write _ hr _ => cases hr.symm.trans ho
    | readOn hr _ => cases hr.symm.trans ho
    | lost hr _ _ => cases hr.symm.trans ho
    | malformed hr _ => cases hr.symm.trans ho
    | late hr _ _ _ => cases hr.symm.trans ho
    | abandon hr => cases hr.symm.trans ho
  | joint h =>
    cases h with
    | take hq => cases (hc.queued hq).symm.trans ho
    | answered _ hr _ _ => cases hr.symm.trans ho
    | unanswered _ hr _ => cases hr.symm.trans ho
    | push hr _ => cases hr.symm.trans ho
    | abandon hr => cases hr.symm.trans ho
    | enqueue hr => cases hr.symm.trans ho
    | refuse hr => cases hr.symm.trans ho

/-! ### Why no request could be read -/

/-- Why no request could be read: the bytes begin with something else; or there are too few of them,
and the peer ended; or there are too few of them, and they were `due`. -/
inductive Faulty (limit : Nat) (due : Prop) (c : Connection) : Error → Prop
  | malformed {cause : Error} :
    firstMessage limit c.sent = some (.error cause : Except Error Wire.Command) →
    Faulty limit due c cause
  | lost : c.ended = true ∨ c.gone = true →
    firstMessage limit c.sent = (none : Option (Except Error Wire.Command)) →
    Faulty limit due c (.io .earlyEnd)
  | late {r : Reading} : due →
    Reading.start.feed limit c.sent = ((.waiting r, []) : Progress Wire.Command × List UInt8) →
    Faulty limit due c r.late

/-- If no request could be read, then for one of these reasons. -/
def Explained (limit : Nat) (due : Prop) (c : Connection) : Prop :=
  ∀ cause, c.phase = .ended (.unreadable cause) → Faulty limit due c cause

/-- Reading on comes to what reading all bytes at once comes to. -/
theorem Sound.feed_start {r : Reading} {progress : Progress Wire.Command} {rest : List UInt8}
    (h : Sound provider limit c) (hr : c.phase = .reading r)
    (hfeed : r.feed limit c.inbox = (progress, rest)) :
    Reading.start.feed limit c.sent = (progress, rest) := by
  obtain ⟨⟨seen, hseen, hstart⟩, -⟩ := h.tells hr
  rw [hseen, Reading.feed_append, hstart, Reading.resume, hfeed]

theorem Sound.firstMessage_eq {r : Reading} {progress : Progress Wire.Command} {rest : List UInt8}
    (h : Sound provider limit c) (hr : c.phase = .reading r)
    (hfeed : r.feed limit c.inbox = (progress, rest)) :
    firstMessage limit c.sent = progress.result? := by
  rw [← Reading.result?_feed_start, h.feed_start hr hfeed]

section Due

variable {due due' : Prop}

theorem Faulty.congr {cause : Error} (h : Faulty limit due c cause) (hsent : d.sent = c.sent)
    (hgone : c.ended = true ∨ c.gone = true → d.ended = true ∨ d.gone = true) :
    Faulty limit due d cause := by
  cases h with
  | malformed hfirst => exact .malformed (hsent ▸ hfirst)
  | lost hend hnone => exact .lost (hgone hend) (hsent ▸ hnone)
  | late hdue hfeed => exact .late hdue (hsent ▸ hfeed)

/-- Whatever the reason, the bytes do not begin with a request. -/
theorem Faulty.not_brings {cause : Error} (h : Faulty limit due c cause) (request : Wire.Command) :
    ¬ c.Brings limit request := by
  intro hbrings
  cases h with
  | malformed hfirst => cases hfirst.symm.trans hbrings
  | lost _ hnone => cases hnone.symm.trans hbrings
  | late _ hfeed =>
    rw [Connection.Brings, ← Reading.result?_feed_start, hfeed] at hbrings
    cases hbrings

theorem explained_start (capacity : Nat) : Explained limit due (.start capacity) := by
  intro cause hp
  cases hp

theorem Explained.imp (h : Explained limit due c) (hdue : c.phase.isOver = true → due → due') :
    Explained limit due' c := by
  intro cause hp
  cases h cause hp with
  | malformed hfirst => exact .malformed hfirst
  | lost hend hnone => exact .lost hend hnone
  | late hpast hfeed => exact .late (hdue (by rw [hp]; rfl) hpast) hfeed

theorem Move.explained {told : List Wire.Response} (h : Move provider limit p id e c told d)
    (hs : Sound provider limit c) (hc : Explained limit due c) (hdue : e = .expire id → due) :
    Explained limit due d := by
  intro cause hd
  cases h with
  | send hover =>
    have hd : c.phase = .ended (.unreadable cause) := hd
    rw [hd] at hover
    cases hover
  | endSending => exact (hc cause hd).congr rfl fun _ => .inl rfl
  | leave => exact (hc cause hd).congr rfl fun _ => .inr rfl
  | collect => exact (hc cause hd).congr rfl fun hend => hend
  | lost hr hfeed hend =>
    cases hd
    exact .lost hend (hs.firstMessage_eq hr hfeed)
  | malformed hr hfeed =>
    cases hd
    exact .malformed (hs.firstMessage_eq hr hfeed)
  | late hr hfeed _ _ =>
    cases hd
    cases Reading.feed_waiting hfeed
    exact .late (hdue rfl) (hs.feed_start hr hfeed)
  | _ => cases hd

theorem Joint.explained (h : Joint limit p id e c f d) : Explained limit due d := by
  intro cause hd
  cases h <;> cases hd

end Due

theorem Reachable.explained (h : Reachable provider settings size s) :
    ∀ c ∈ s.connections,
      Sound provider settings.maxFrameSize c ∧ Explained settings.maxFrameSize True c :=
  h.forall_connections
    (fun capacity => ⟨sound_start capacity, explained_start capacity⟩)
    (fun hm hc hs => ⟨hm.sound hc hs.1, hm.explained hs.1 hs.2 fun _ => trivial⟩)
    fun hj hc hs => ⟨hj.sound hc hs.1, hj.explained⟩

/-! ### Requests in the order of their connections -/

/-- The request that a connection brought, unless it was given up. -/
def Phase.brought? : Phase → Option Wire.Command
  | pushing request => some request
  | queued request => some request
  | rendering request => some request
  | answering request _ _ => some request
  | ended (.refused request) => some request
  | ended (.answered request) => some request
  | ended (.unanswered request _) => some request
  | _ => none

/-- Whoever has brought nothing once it is known what became of it was not readable. -/
theorem Phase.eq_unreadable {phase : Phase} {shutdown : Bool} (h : phase.accepted? = some shutdown)
    (hb : phase.brought? = none) : ∃ cause, phase = .ended (.unreadable cause) := by
  cases phase with
  | ended ending =>
    cases ending with
    | unreadable cause => exact ⟨cause, rfl⟩
    | abandoned => cases h
    | _ => cases hb
  | reading r => cases h
  | _ => cases hb

theorem Sound.brings {request : Wire.Command} (h : Sound provider limit c)
    (hb : c.phase.brought? = some request) : c.Brings limit request := by
  cases hp : c.phase with
  | reading r => rw [hp] at hb; cases hb
  | pushing other => rw [hp] at hb; cases hb; exact (h.tells hp).1
  | queued other => rw [hp] at hb; cases hb; exact (h.tells hp).1
  | rendering other => rw [hp] at hb; cases hb; exact (h.tells hp).1
  | answering other frame written => rw [hp] at hb; cases hb; exact (h.tells hp).1
  | ended ending =>
    rw [hp] at hb
    cases ending with
    | unreadable cause => cases hb
    | refused other => cases hb; exact (h.tells hp).1
    | abandoned => cases hb
    | answered other => cases hb; exact (h.tells hp).1
    | unanswered other cause => cases hb; exact (h.tells hp).1

/-- The request that the bytes of a connection begin with. -/
def Connection.request? (limit : Nat) (c : Connection) : Option Wire.Command :=
  (firstMessage limit c.sent).bind Except.toOption

theorem Connection.request?_eq_some_iff {request : Wire.Command} :
    c.request? limit = some request ↔ c.Brings limit request := by
  rw [request?, Brings, Option.bind_eq_some_iff]
  constructor
  · rintro ⟨result, hfirst, hok⟩
    cases result with
    | error cause => cases hok
    | ok other =>
      cases hok
      exact hfirst
  · intro hfirst
    exact ⟨_, hfirst, rfl⟩

/-- Once it is known what became of a connection, it has brought just the request that its bytes begin
with. -/
theorem Sound.brought?_eq_request? {due : Prop} {shutdown : Bool} (h : Sound provider limit c)
    (hc : Explained limit due c) (hknown : c.phase.accepted? = some shutdown) :
    c.phase.brought? = c.request? limit := by
  cases hb : c.phase.brought? with
  | some request => exact (Connection.request?_eq_some_iff.mpr (h.brings hb)).symm
  | none =>
    -- it was not readable, so its bytes begin with no request
    obtain ⟨cause, hp⟩ := Phase.eq_unreadable hknown hb
    refine (Option.eq_none_iff_forall_not_mem.mpr fun request hr => ?_).symm
    exact (hc cause hp).not_brings request (Connection.request?_eq_some_iff.mp hr)

/-- The requests of some connections, in the order of these. -/
def inOrder (tells : Connection → Option Wire.Command) (connections : List Connection) :
    List Request :=
  connections.zipIdx.flatMap fun (c, id) => (tells c).toList.map (Request.mk id)

variable {tells : Connection → Option Wire.Command} {l : List Connection}

theorem mem_inOrder {request : Wire.Command} :
    ⟨id, request⟩ ∈ inOrder tells l ↔ ∃ c, l[id]? = some c ∧ tells c = some request := by
  simp only [inOrder, List.mem_flatMap, Prod.exists, List.mk_mem_zipIdx_iff_getElem?, List.mem_map,
    Option.mem_toList, Request.mk.injEq]
  constructor
  · rintro ⟨c, i, hc, r, hr, rfl, rfl⟩
    exact ⟨c, hc, hr⟩
  · rintro ⟨c, hc, hr⟩
    exact ⟨c, id, hc, request, hr, rfl, rfl⟩

theorem inOrder_concat (hc : tells c = none) :
    inOrder tells (l ++ [c]) = inOrder tells l := by
  simp [inOrder, List.zipIdx_append, hc]

/-- What a connection newly tells goes to the end, if it is the last one. -/
theorem inOrder_set {new : List Request} (tells : Connection → Option Wire.Command)
    (hc : l[id]? = some c)
    (hnew : (tells d).toList.map (Request.mk id) = (tells c).toList.map (Request.mk id) ++ new)
    (hlast : new = [] ∨ id + 1 = l.length) :
    inOrder tells (l.set id d) = inOrder tells l ++ new := by
  obtain ⟨hlt, rfl⟩ := List.getElem?_eq_some_iff.mp hc
  rw [List.set_eq_take_append_cons_drop, if_pos hlt]
  have hsplit : inOrder tells l
      = inOrder tells (l.take id ++ l[id] :: l.drop (id + 1)) := by
    rw [List.getElem_cons_drop, List.take_append_drop]
  have hlen : (l.take id).length = id := List.length_take_of_le (Nat.le_of_lt hlt)
  rw [hsplit]
  simp only [inOrder, List.zipIdx_append, List.zipIdx_cons, List.flatMap_append, List.flatMap_cons,
    hlen, Nat.zero_add, hnew, List.append_assoc]
  obtain rfl | hlast := hlast
  · simp
  · -- nobody comes after the last connection
    rw [List.drop_eq_nil_of_le (Nat.le_of_eq hlast.symm)]
    simp

theorem inOrder_set_of_eq (tells : Connection → Option Wire.Command) (hc : l[id]? = some c)
    (hsame : tells d = tells c) : inOrder tells (l.set id d) = inOrder tells l := by
  rw [inOrder_set tells hc (by rw [hsame, List.append_nil]) (.inl rfl), List.append_nil]

/-! ### What was handed to the pool -/

/-- Whether an event gives a request up that was not queued yet. -/
def Event.givesUp : Event → Bool
  | abandon _ => true
  | refuse _ _ => true
  | _ => false

theorem Move.brought? {told : List Wire.Response} (h : Move provider limit p id e c told d)
    (hc : Agrees p id c) : d.phase.brought? = c.phase.brought? := by
  cases h with
  | send _ => rfl
  | endSending => rfl
  | leave => rfl
  | collect => rfl
  | respond ha hr =>
    have hrunning := hc.running ha
    rw [hr] at hrunning ⊢
    cases hrunning
    rfl
  | write _ hr _ => rw [hr]; rfl
  | readOn hr _ => rw [hr]; rfl
  | lost hr _ _ => rw [hr]; rfl
  | malformed hr _ => rw [hr]; rfl
  | late hr _ _ _ => rw [hr]; rfl
  | abandon hr => rw [hr]; rfl

/-- What a connection newly brings is pushed, and what is queued newly is accepted. -/
theorem Joint.brought? (h : Joint limit p id e c f d) (hc : Agrees p id c)
    (he : e.givesUp = false) :
    d.phase.brought?.toList.map (Request.mk id)
        = c.phase.brought?.toList.map (Request.mk id) ++ f.pushed ∧
      (d.phase.requestAt? .accepted).toList.map (Request.mk id)
        = (c.phase.requestAt? .accepted).toList.map (Request.mk id) ++ f.accepted ∧
      (f.pushed = [] ∧ f.accepted = [] ∨ c.phase.accepted? = none) := by
  cases h with
  | push hr _ => rw [hr]; exact ⟨rfl, rfl, .inr rfl⟩
  | abandon hr => cases he
  | enqueue hr => rw [hr]; exact ⟨rfl, rfl, .inr rfl⟩
  | refuse hr => cases he
  | take hq => rw [hc.queued hq]; exact ⟨rfl, rfl, .inl ⟨rfl, rfl⟩⟩
  | answered _ hr _ _ => rw [hr]; exact ⟨rfl, rfl, .inl ⟨rfl, rfl⟩⟩
  | unanswered _ hr _ => rw [hr]; exact ⟨rfl, rfl, .inl ⟨rfl, rfl⟩⟩

theorem Joint.lost_eq_nil (h : Joint limit p id e c f d) (he : e.givesUp = false) :
    f.refused = [] ∧ f.abandoned = [] := by
  cases h with
  | abandon _ => cases he
  | refuse _ => cases he
  | _ => exact ⟨rfl, rfl⟩

theorem records_of_isHousekeeping (h : isHousekeeping f = true) :
    f.pushed = [] ∧ f.accepted = [] ∧ f.refused = [] ∧ f.abandoned = [] := by
  cases f <;> first | exact ⟨rfl, rfl, rfl, rfl⟩ | cases h

/-- What is known of a request that the pool did not refuse. -/
theorem Phase.known {phase : Phase} {shutdown : Bool} (h : phase.accepted? = some shutdown)
    (hr : phase.requestAt? .refused = none) :
    (∃ cause, phase = .ended (.unreadable cause) ∧ shutdown = false) ∨
      ∃ request, phase.brought? = some request ∧ phase.requestAt? .accepted = some request ∧
        shutdown = request.isShutdown := by
  cases phase with
  | reading r => cases h
  | pushing request => cases h
  | queued request =>
    cases h
    exact .inr ⟨request, rfl, rfl, rfl⟩
  | rendering request =>
    cases h
    exact .inr ⟨request, rfl, rfl, rfl⟩
  | answering request frame written =>
    cases h
    exact .inr ⟨request, rfl, rfl, rfl⟩
  | ended ending =>
    cases ending with
    | unreadable cause =>
      cases h
      exact .inl ⟨cause, rfl, rfl⟩
    | refused request => cases hr
    | abandoned => cases h
    | answered request =>
      cases h
      exact .inr ⟨request, rfl, rfl, rfl⟩
    | unanswered request cause =>
      cases h
      exact .inr ⟨request, rfl, rfl, rfl⟩

/-- What the connections brought was handed to the pool in their order, and so it was accepted; the
pool refuses nothing, and nothing is given up. -/
structure Handed (s : Session) : Prop where
  pushed : s.pool.pushed = inOrder (·.phase.brought?) s.connections
  accepted : s.pool.accepted = inOrder (·.phase.requestAt? .accepted) s.connections
  refused : s.pool.refused = []
  abandoned : s.pool.abandoned = []

/-- This is kept if nothing is given up, and if only of the last connection it is not known what
becomes of its request. -/
theorem Handed.step (hs : Handed s) (hl : Linked s) (h : Step provider s e t)
    (he : e.givesUp = false)
    (hlast : ∀ id c, s.connections[id]? = some c → c.phase.accepted? = none →
      id + 1 = s.connections.length) : Handed t := by
  cases h with
  | connect _ _ hconn hpool _ =>
    exact {
      pushed := by rw [hpool, hconn, inOrder_concat rfl, hs.pushed]
      accepted := by rw [hpool, hconn, inOrder_concat rfl, hs.accepted]
      refused := by rw [hpool, hs.refused]
      abandoned := by rw [hpool, hs.abandoned] }
  | move _ hc hmove hconn hpool _ =>
    have ha := hl.agrees hc
    exact {
      pushed := by rw [hpool, hconn, inOrder_set_of_eq _ hc (hmove.brought? ha), hs.pushed]
      accepted := by
        rw [hpool, hconn, inOrder_set_of_eq _ hc (hmove.requestAt? ha .accepted), hs.accepted]
      refused := by rw [hpool, hs.refused]
      abandoned := by rw [hpool, hs.abandoned] }
  | joint _ hc hjoint hconn hpool _ =>
    obtain ⟨hbrought, haccepted, hnew⟩ := hjoint.brought? (hl.agrees hc) he
    obtain ⟨hrefused, habandoned⟩ := hjoint.lost_eq_nil he
    -- what is new comes from the last connection
    have hnew := hnew.imp_right (hlast _ _ hc)
    exact {
      pushed := by
        rw [Pool.pushed_step hpool, hconn, inOrder_set _ hc hbrought (hnew.imp_left And.left),
          hs.pushed]
      accepted := by
        rw [Pool.accepted_step hpool, hconn,
          inOrder_set _ hc haccepted (hnew.imp_left And.right), hs.accepted]
      refused := by rw [Pool.refused_step hpool, hs.refused, hrefused, List.append_nil]
      abandoned := by rw [Pool.abandoned_step hpool, hs.abandoned, habandoned, List.append_nil] }
  | housekeeping _ hk hconn hpool _ =>
    obtain ⟨hpushed, haccepted, hrefused, habandoned⟩ := records_of_isHousekeeping hk
    exact {
      pushed := by rw [Pool.pushed_step hpool, hconn, hs.pushed, hpushed, List.append_nil]
      accepted := by
        rw [Pool.accepted_step hpool, hconn, hs.accepted, haccepted, List.append_nil]
      refused := by rw [Pool.refused_step hpool, hs.refused, hrefused, List.append_nil]
      abandoned := by rw [Pool.abandoned_step hpool, hs.abandoned, habandoned, List.append_nil] }

end Thumbnailer.Session
