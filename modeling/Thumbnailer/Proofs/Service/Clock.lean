/-
A worker on a clock is a run of its service.

A timeline picks one event after another, and takes only those that can happen, and at no deadline
before it has come.  So whatever it picks, and whenever, what has been proved about all runs of a
service on a clock holds of a worker.

* **`Timeline.clocked`** — the service on a clock that a timeline shows;
* **`Timeline.Leads`** — time passes and events of the session's own happen from one timeline to
  another;
* **`Timeline.leads_tick?`**, **`Timeline.leads_settle`**, **`Timeline.leads_runUntil`** — picking
  an event, letting all happen that needs no time, and moving the clock lead to such a timeline;
* **`Timeline.Runs.visit`** — one connection on a timeline is a run of the session;
* **`Worker.Runs.exchange`** — one connection of a worker is a run of the service;
* **`Worker.reachable_after`** — so is every sequence of connections.
-/
import Thumbnailer.Proofs.Service.Deadlines
import Thumbnailer.Service.Worker

namespace Thumbnailer

open Relation (ReflTransGen)

namespace Session

open Service (Clocked isOwn)

/-- The moments from which the deadlines of a visit count. -/
def Visit.moments (v : Visit) : Service.Moments := ⟨v.begins, v.answering?⟩

namespace Timeline

variable {t u v : Timeline} {e : Event} {id worker : ℕ} {c : Connection}

/-- The service on a clock that a timeline shows. -/
def clocked (t : Timeline) (loop : Service.Loop) : Clocked :=
  ⟨⟨t.session, loop⟩, t.now, t.visits.map Visit.moments⟩

/-- Time passes and events of the session's own happen from one timeline to another. -/
def Leads (t u : Timeline) : Prop :=
  u.provider = t.provider ∧
    ∀ loop, ReflTransGen (Clocked.Passes t.provider) (t.clocked loop) (u.clocked loop)

theorem Leads.trans (h : Leads t u) (h' : Leads u v) : Leads t v := by
  obtain ⟨hprovider, hpasses⟩ := h
  obtain ⟨hprovider', hpasses'⟩ := h'
  rw [hprovider] at hpasses'
  exact ⟨hprovider'.trans hprovider, fun loop => (hpasses loop).trans (hpasses' loop)⟩

theorem Leads.refl (t : Timeline) : Leads t t := ⟨rfl, fun _ => .refl⟩

/-- Nothing is different but what the timeline alone keeps in mind. -/
theorem Leads.idle (hprovider : u.provider = t.provider) (hsession : u.session = t.session)
    (hnow : u.now = t.now) (hvisits : u.visits.map Visit.moments = t.visits.map Visit.moments) :
    Leads t u := by
  refine ⟨hprovider, fun loop => ?_⟩
  rw [clocked, clocked, hsession, hnow, hvisits]

/-- The clock may go on. -/
theorem Leads.wait {moment : ℕ} (h : t.now ≤ moment) : Leads t { t with now := moment } := by
  refine ⟨rfl, fun loop => ?_⟩
  have hwait : Clocked.Passes t.provider (t.clocked loop) _ := .wait (moment - t.now)
  have hnow : (t.clocked loop).now + (moment - t.now) = moment := Nat.add_sub_cancel' h
  rw [hnow] at hwait
  exact .single hwait

/-- What is read off a list after a change is changed likewise. -/
theorem map_modify {α β : Type} {f : α → α} {g : α → β} {k : β → β} (h : ∀ a, g (f a) = k (g a))
    (l : List α) (i : ℕ) : (l.modify i f).map g = (l.map g).modify i k := by
  refine List.ext_getElem? fun j => ?_
  simp only [List.getElem?_map, List.getElem?_modify, Option.map_eq_map, Option.map_map]
  congr 1
  funext a
  by_cases hi : i = j <;> simp [hi, h]

/-- What is kept in mind of a visit may change. -/
theorem leads_update (t : Timeline) (i : ℕ) (f : Visit → Visit)
    (hf : ∀ v, (f v).moments = v.moments) : Leads t (t.update i f) := by
  refine .idle rfl rfl rfl ?_
  have hvisits := map_modify (k := id) hf t.visits i
  rwa [List.modify_id] at hvisits

/-- No deadline stands in the way of an event, and none counts from it. -/
def Timeless (e : Event) : Prop :=
  ∀ s : Clocked, s.isDue (.session e) = true ∧ s.momentsAfter (.session e) = s.moments

theorem leads_of_isDue (he : isOwn e = true) (h : t.after? e = some u)
    (hdue : ∀ loop, (t.clocked loop).isDue (.session e) = true)
    (hmoments : ∀ loop, (t.clocked loop).momentsAfter (.session e) = (t.clocked loop).moments) :
    Leads t u := by
  obtain ⟨s, hs, rfl⟩ := Option.map_eq_some_iff.mp h
  refine ⟨rfl, fun loop => ?_⟩
  have hpasses := Clocked.Passes.session (s := t.clocked loop) he (hdue loop) hs
  rw [hmoments] at hpasses
  exact .single hpasses

theorem leads_after? (he : isOwn e = true) (htimeless : Timeless e) (h : t.after? e = some u) :
    Leads t u :=
  leads_of_isDue he h (fun _ => (htimeless _).1) fun _ => (htimeless _).2

theorem leads_apply (he : isOwn e = true) (htimeless : Timeless e) : Leads t (t.apply e) := by
  rw [apply]
  cases h : t.after? e with
  | none => exact .refl t
  | some u => exact leads_after? he htimeless h

/-! ### What is known of a visit -/

theorem mem_rows {v : Visit} (h : (id, v, c) ∈ t.rows) : t.visits[id]? = some v := by
  obtain ⟨⟨⟨v', c'⟩, i⟩, hrow, heq⟩ := List.mem_map.mp h
  cases heq
  exact (List.getElem?_zip_eq_some.mp (List.mk_mem_zipIdx_iff_getElem?.mp hrow)).1

theorem mem_busy (h : (worker, id) ∈ t.busy) (loop : Service.Loop) :
    (t.clocked loop).servedBy? worker = some id := by
  obtain ⟨w, -, hw⟩ := List.mem_filterMap.mp h
  obtain ⟨served, hserved, heq⟩ := Option.map_eq_some_iff.mp hw
  cases heq
  exact Option.map_eq_some_iff.mpr ⟨served, hserved, rfl⟩

theorem readBy?_clocked {v : Visit} (hv : t.visits[id]? = some v) (loop : Service.Loop) :
    (t.clocked loop).readBy? id = some (t.readBy v) := by
  rw [Clocked.readBy?, clocked, List.getElem?_map, hv]
  rfl

theorem writeBy?_clocked {v : Visit} (hv : t.visits[id]? = some v) (loop : Service.Loop) :
    (t.clocked loop).writeBy? id = t.writeBy? v := by
  rw [Clocked.writeBy?, clocked, List.getElem?_map, hv]
  rfl

/-! ### What can happen at a moment -/

theorem leads_begin? (h : t.begin? = some u) : Leads t u := by
  obtain ⟨row, -, h⟩ := Option.bind_eq_some_iff.mp h
  cases h
  have hbegun := leads_update t row.1 (fun v => { v with begun := true }) fun _ => rfl
  exact hbegun.trans (leads_apply rfl fun _ => ⟨rfl, rfl⟩)

theorem leads_expire? (h : t.expire? = some u) : Leads t u := by
  obtain ⟨⟨id, v, c⟩, hrow, h⟩ := List.exists_of_findSome?_eq_some h
  obtain ⟨hdue, h⟩ := Option.ite_none_right_eq_some.mp h
  obtain ⟨-, hdue⟩ := Bool.and_eq_true_iff.mp hdue
  refine leads_of_isDue rfl h (fun loop => Clocked.any_eq_true_iff_hasCome.mpr ?_) fun _ => rfl
  exact ⟨t.readBy v, readBy?_clocked (mem_rows hrow) loop, of_decide_eq_true hdue⟩

theorem leads_writeLate? (h : t.writeLate? = some u) : Leads t u := by
  obtain ⟨⟨worker, id⟩, hbusy, h⟩ := List.exists_of_findSome?_eq_some h
  obtain ⟨v, hv, h⟩ := Option.bind_eq_some_iff.mp h
  obtain ⟨moment, hmoment, h⟩ := Option.bind_eq_some_iff.mp h
  obtain ⟨hdue, h⟩ := Option.ite_none_right_eq_some.mp h
  refine leads_of_isDue rfl h (fun loop => Clocked.any_eq_true_iff_hasCome.mpr ?_) fun _ => rfl
  rw [mem_busy hbusy loop, Option.bind_some, writeBy?_clocked hv loop]
  exact ⟨moment, hmoment, of_decide_eq_true hdue⟩

/-- What happens in a pool on its own neither closes nor drops it. -/
theorem isOwn_of_mem_internal {p : Pool Request} {f : Pool.Event Request} (h : f ∈ p.internal) :
    isOwn (.pool f) = true := by
  cases f <;> first | rfl | simp [Pool.internal] at h

theorem leads_poolStep? (h : t.poolStep? = some u) : Leads t u := by
  obtain ⟨f, hf, h⟩ := List.exists_of_findSome?_eq_some h
  cases f with
  | enqueue r => exact leads_after? rfl (fun _ => ⟨rfl, rfl⟩) h
  | refuse stage r => exact leads_after? rfl (fun _ => ⟨rfl, rfl⟩) h
  | take worker => exact leads_after? rfl (fun _ => ⟨rfl, rfl⟩) h
  | _ => exact leads_after? (isOwn_of_mem_internal hf) (fun _ => ⟨rfl, rfl⟩) h

theorem leads_write? (h : t.write? = some u) : Leads t u := by
  obtain ⟨row, -, h⟩ := List.exists_of_findSome?_eq_some h
  exact leads_after? rfl (fun _ => ⟨rfl, rfl⟩) h

/-- Whoever begins to answer has from then on until the deadline. -/
theorem leads_begun (hbusy : (worker, id) ∈ t.busy) (h : t.after? (.respond worker) = some u) :
    Leads t (u.update id fun v => { v with answering? := some t.now }) := by
  obtain ⟨s, hs, rfl⟩ := Option.map_eq_some_iff.mp h
  refine ⟨rfl, fun loop => ?_⟩
  have hpasses := Clocked.Passes.session (s := t.clocked loop) rfl rfl hs
  rw [Clocked.momentsAfter, mem_busy hbusy loop, Option.elim_some] at hpasses
  have hvisits : (t.visits.modify id fun v => { v with answering? := some t.now }).map Visit.moments
      = (t.visits.map Visit.moments).modify id fun m => { m with answering? := some t.now } := by
    refine map_modify (fun v => ?_) _ _
    rfl
  refine .single ?_
  show Clocked.Passes t.provider (t.clocked loop) ⟨⟨s, loop⟩, t.now, List.map _ (List.modify ..)⟩
  rw [hvisits]
  exact hpasses

theorem leads_respond? (h : t.respond? = some u) : Leads t u := by
  obtain ⟨⟨worker, id⟩, hbusy, h⟩ := List.exists_of_findSome?_eq_some h
  obtain ⟨begun, hbegun, h⟩ := Option.bind_eq_some_iff.mp h
  cases h
  exact (leads_begun hbusy hbegun).trans (leads_apply rfl fun _ => ⟨rfl, rfl⟩)

theorem leads_read? (h : t.read? = some u) : Leads t u := by
  obtain ⟨row, -, h⟩ := List.exists_of_findSome?_eq_some h
  exact leads_after? rfl (fun _ => ⟨rfl, rfl⟩) (Option.ite_none_right_eq_some.mp h).2

theorem leads_act? {rest : List Deed} {deed : Deed} (h : t.act? id c rest deed = some u) :
    Leads t u := by
  cases deed with
  | wait ms =>
    cases h
    exact leads_update t id _ fun _ => rfl
  | say bytes =>
    simp only [act?] at h
    split at h
    · cases h
      exact leads_update t id _ fun _ => rfl
    · split at h
      · cases h
      · obtain ⟨sent, hsent, rfl⟩ := Option.map_eq_some_iff.mp h
        exact (leads_after? rfl (fun _ => ⟨rfl, rfl⟩) hsent).trans (leads_update _ id _ fun _ => rfl)
  | endSending =>
    cases h
    exact (leads_apply rfl fun _ => ⟨rfl, rfl⟩).trans (leads_update _ id _ fun _ => rfl)
  | leave =>
    cases h
    exact (leads_apply rfl fun _ => ⟨rfl, rfl⟩).trans (leads_update _ id _ fun _ => rfl)
  | listen =>
    simp only [act?] at h
    split at h
    · exact leads_after? rfl (fun _ => ⟨rfl, rfl⟩) h
    · split at h
      · cases h
        exact leads_update t id _ fun _ => rfl
      · cases h

theorem leads_peer? (h : t.peer? = some u) : Leads t u := by
  obtain ⟨⟨id, v, c⟩, -, h⟩ := List.exists_of_findSome?_eq_some h
  simp only at h
  split at h
  · exact leads_act? h
  · cases h

theorem leads_noteReturns (t : Timeline) : Leads t t.noteReturns := by
  refine .idle rfl rfl rfl (List.ext_getElem? fun i => ?_)
  simp only [noteReturns, List.getElem?_map, List.getElem?_mapIdx, Option.map_map]
  congr 1
  funext v
  simp only [Function.comp_apply]
  split
  · rfl
  · rfl

/-- Whatever is picked is an event of the session's own. -/
theorem leads_tick? (h : t.tick? = some u) : Leads t u := by
  obtain ⟨picked, hpicked, rfl⟩ := Option.map_eq_some_iff.mp h
  suffices hpick : Leads t picked from hpick.trans (leads_noteReturns picked)
  simp only [Option.orElse_eq_orElse, Option.orElse_eq_or, Option.or_eq_some_iff] at hpicked
  obtain h | ⟨-, h | ⟨-, h | ⟨-, h | ⟨-, h | ⟨-, h | ⟨-, h | ⟨-, h⟩⟩⟩⟩⟩⟩⟩ := hpicked
  · exact leads_begin? h
  · exact leads_expire? h
  · exact leads_writeLate? h
  · exact leads_poolStep? h
  · exact leads_respond? h
  · exact leads_write? h
  · exact leads_read? h
  · exact leads_peer? h

theorem leads_settleWithin (fuel : ℕ) (t : Timeline) : Leads t (settleWithin fuel t) := by
  induction fuel generalizing t with
  | zero => exact .refl t
  | succ fuel ih =>
    rw [settleWithin]
    cases h : t.tick? with
    | none => exact .refl t
    | some u => exact (leads_tick? h).trans (ih u)

theorem leads_settle (t : Timeline) : Leads t t.settle := leads_settleWithin _ t

/-! ### The clock -/

theorem lt_of_next? {moment : ℕ} (h : t.next? = some moment) : t.now < moment :=
  of_decide_eq_true (List.mem_filter.mp (List.min?_mem h)).2

theorem leads_jump {moment : ℕ} (h : t.now ≤ moment) : Leads t (t.jump moment) := by
  refine ((Leads.wait h).trans ?_).trans (leads_settle _)
  refine .idle rfl rfl rfl ?_
  rw [List.map_map]
  refine List.map_congr_left fun v _ => ?_
  rw [Function.comp_apply]
  split
  · split
    · rfl
    · rfl
  · rfl

theorem leads_runWithin (holds : Timeline → Bool) (limit fuel : ℕ) (t : Timeline) :
    Leads t (runWithin holds limit fuel t) := by
  induction fuel generalizing t with
  | zero => exact .refl t
  | succ fuel ih =>
    rw [runWithin]
    split
    · exact .refl t
    · split
      · rename_i moment hnext
        split
        · exact (leads_jump (Nat.le_of_lt (lt_of_next? hnext))).trans (ih _)
        · exact .wait (Nat.le_max_left _ _)
      · exact .wait (Nat.le_max_left _ _)

theorem leads_runUntil (t : Timeline) (limit : ℕ) (holds : Timeline → Bool) :
    Leads t (t.runUntil limit holds) :=
  leads_runWithin _ _ _ t

theorem leads_serve (t : Timeline) (plan : Plan) : Leads (t.expect plan) (t.serve plan) :=
  (leads_settle _).trans (leads_runUntil _ _ _)

theorem leads_conclude (t u : Timeline) (id : ℕ) : Leads u (t.conclude id u).1 :=
  leads_runUntil _ _ _

/-! ### Runs of the session -/

variable {provider : Provider} {settings : Settings} {size : Pool.Settings}

/-- Some run of the session leads to where a timeline is. -/
structure Runs (provider : Provider) (settings : Settings) (size : Pool.Settings)
    (t : Timeline) : Prop where
  provider_eq : t.provider = provider
  reachable : Reachable provider settings size t.session

theorem runs_start : Runs provider settings size (.start provider settings size) where
  provider_eq := rfl
  reachable := .start

theorem Runs.leads (h : Runs provider settings size t) (hu : t.Leads u) :
    Runs provider settings size u := by
  obtain ⟨hprovider, hpasses⟩ := hu
  rw [h.provider_eq] at hpasses
  exact ⟨hprovider.trans h.provider_eq,
    h.reachable.own (Clocked.own_of_passes (hpasses .accepting))⟩

theorem Runs.apply (h : Runs provider settings size t) (e : Event) :
    Runs provider settings size (t.apply e) := by
  rw [Timeline.apply, after?]
  cases hs : t.session.step? t.provider e with
  | none => exact h
  | some s =>
    rw [h.provider_eq] at hs
    exact ⟨h.provider_eq, h.reachable.next e hs⟩

/-- One connection, whether it is served to its end or given up, is a run of the session. -/
theorem Runs.visit (h : Runs provider settings size t) (plan : Plan) :
    Runs provider settings size (t.visit plan).1 := by
  obtain ⟨hprovider, hreachable⟩ := h.apply (.connect plan.capacity)
  have hexpected : Runs provider settings size ((t.apply (.connect plan.capacity)).expect plan) :=
    ⟨hprovider, hreachable⟩
  have hserved := hexpected.leads (leads_serve _ plan)
  rw [Timeline.visit]
  refine Runs.leads ?_ (leads_conclude _ _ _)
  split
  · exact hserved
  · exact (hserved.apply _).leads (leads_settle _)

end Timeline

end Session

namespace Worker

open Service (Clocked)

variable {provider : Provider} {settings : Session.Settings} {size : Pool.Settings} {w : Worker}

/-- The service on a clock that a worker is. -/
def clocked (w : Worker) : Clocked := w.timeline.clocked w.loop

/-- Some run of the service on a clock leads to where a worker is. -/
structure Runs (provider : Provider) (settings : Session.Settings) (size : Pool.Settings)
    (w : Worker) : Prop where
  provider_eq : w.timeline.provider = provider
  reachable : Clocked.Reachable provider settings size w.clocked

theorem runs_start : Runs provider settings size (.start provider settings size) where
  provider_eq := rfl
  reachable := .start

/-- The clock may go on. -/
theorem Runs.timeline (h : Runs provider settings size w) {u : Session.Timeline}
    (hu : w.timeline.Leads u) : Runs provider settings size { w with timeline := u } := by
  obtain ⟨hprovider, hpasses⟩ := hu
  rw [h.provider_eq] at hpasses
  exact ⟨hprovider.trans h.provider_eq, h.reachable.passes (hpasses w.loop)⟩

theorem apply_eq {e : Service.Event} {s : Service}
    (hs : w.service.step? w.timeline.provider e = some s) :
    w.apply e = ⟨{ w.timeline with session := s.session }, s.loop⟩ := by
  simp only [Worker.apply, hs]

/-- The next connection is accepted, and its time begins. -/
theorem Runs.accept (h : Runs provider settings size w) (hloop : w.loop = .accepting)
    (deeds : List Session.Deed) : Runs provider settings size
      { w.apply (.accept socketCapacity) with
        timeline := (w.apply (.accept socketCapacity)).timeline.expect ⟨socketCapacity, deeds, 0⟩ } := by
  obtain ⟨s, hs⟩ := h.reachable.service.accepts hloop socketCapacity
  have hreachable := h.reachable.step (.service rfl hs)
  rw [← h.provider_eq] at hs
  rw [apply_eq hs]
  refine ⟨h.provider_eq, ?_⟩
  have hmoments : (w.timeline.expect ⟨socketCapacity, deeds, 0⟩).visits.map Session.Visit.moments
      = w.clocked.momentsAfter (.accept socketCapacity) := List.map_append
  rw [← hmoments] at hreachable
  exact hreachable

/-- The loop goes on, if it can. -/
theorem Runs.apply (h : Runs provider settings size w) {e : Service.Event}
    (he : e = .turn ∨ e = .finish) : Runs provider settings size (w.apply e) := by
  cases hs : w.service.step? w.timeline.provider e with
  | none =>
    rw [Worker.apply, hs]
    exact h
  | some s =>
    rw [apply_eq hs]
    rw [h.provider_eq] at hs
    refine ⟨h.provider_eq, ?_⟩
    obtain rfl | rfl := he
    · have hturned := h.reachable.step (.service rfl hs)
      exact hturned
    · have hfinished := h.reachable.step (.service rfl hs)
      exact hfinished

theorem Runs.seeOut (h : Runs provider settings size w) : Runs provider settings size w.seeOut :=
  (h.timeline ((Session.Timeline.leads_settle _).trans
    (Session.Timeline.leads_runUntil _ _ _))).apply (.inr rfl)

/-- One connection of a worker is a run of the service. -/
theorem Runs.exchange (h : Runs provider settings size w) (deeds : List Session.Deed) :
    Runs provider settings size (w.exchange deeds).1 := by
  rw [Worker.exchange]
  split
  · rename_i hloop
    have hserved := (h.accept hloop deeds).timeline ((Session.Timeline.leads_serve _ _).trans
      (Session.Timeline.leads_conclude (w.apply (.accept socketCapacity)).timeline _
        (w.apply (.accept socketCapacity)).timeline.visits.length))
    have hturned := hserved.apply (.inl rfl)
    rw [Worker.attend]
    simp only
    split
    · exact hturned.seeOut
    · exact hturned
  · exact h

theorem Runs.call (h : Runs provider settings size w) (request : Wire.Command) :
    Runs provider settings size (w.call request).1 := by
  rw [Worker.call]
  split
  · exact h.exchange _
  · exact h
  · exact h

/-- The worker after some connections, whose peers do what they like. -/
def after (w : Worker) (peers : List (List Session.Deed)) : Worker :=
  peers.foldl (fun w deeds => (w.exchange deeds).1) w

theorem Runs.after (h : Runs provider settings size w) (peers : List (List Session.Deed)) :
    Runs provider settings size (w.after peers) := by
  induction peers generalizing w with
  | nil => exact h
  | cons deeds rest ih => exact ih (h.exchange deeds)

/-- **A worker on a clock is a run of its service on a clock**, whatever those who connect to it
do. -/
theorem reachable_after (peers : List (List Session.Deed)) :
    Clocked.Reachable provider settings size
      ((start provider settings size).after peers).clocked :=
  (runs_start.after peers).reachable

end Worker

end Thumbnailer
