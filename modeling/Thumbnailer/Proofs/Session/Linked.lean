/-
The requests in the pool, and the connections they came from.

A connection has at most one request in the pool, and the phase of its serving tells where: among
the pushes under way, in the queue, or with a worker.  The same holds of the records of what the
pool accepted and refused.

* **`Phase.requestAt?`** — the request that a connection should have at a place of the pool;
* **`Linked`** — at every place, the pool has of each connection just what its phase tells;
* **`Linked.step`** — every step keeps it, since what comes to a place and what leaves it belongs
  to the one connection that changes, and is what its change of phase tells;
* **`Reachable.forall_connections`** — what is kept by whatever happens to a connection holds of all
  connections in every reachable state.
-/
import Thumbnailer.Proofs.Pool.Flow
import Thumbnailer.Proofs.Session.Step

namespace Thumbnailer

variable {provider : Provider} {p q : Pool Session.Request}

/-- The tasks of a connection at a place of the pool. -/
def Pool.requestsOf (p : Pool Session.Request) (id : Nat) (place : Pool.Place) :
    List Session.Request :=
  (p.tasksAt place).filter (·.connection == id)

theorem Pool.mem_requestsOf {id : Nat} {place : Pool.Place} {r : Session.Request} :
    r ∈ p.requestsOf id place ↔ r ∈ p.tasksAt place ∧ r.connection = id := by
  rw [requestsOf, List.mem_filter, beq_iff_eq]

theorem Pool.requestsOf_step {e : Pool.Event Session.Request} (hd : Pool.Distinct p.workers)
    (h : Pool.Step p e q) (id : Nat) (place : Pool.Place) :
    ((p.leaving e place).filter (·.connection == id) ++ q.requestsOf id place).Perm
      ((p.joining e place).filter (·.connection == id) ++ p.requestsOf id place) := by
  simp only [requestsOf, ← List.filter_append]
  exact (tasksAt_step hd h place).filter _

namespace Session

variable {limit id : Nat} {c d : Connection} {s t : Session} {place : Pool.Place}
  {e : Event} {f : Pool.Event Request}

namespace Phase

/-- The request that a connection should have at a place of the pool. -/
def requestAt? : Phase → Pool.Place → Option Wire.Command
  | pushing request, .underWay => some request
  | queued request, .queue => some request
  | rendering request, .running => some request
  | answering request _ _, .running => some request
  | queued request, .accepted => some request
  | rendering request, .accepted => some request
  | answering request _ _, .accepted => some request
  | ended (.answered request), .accepted => some request
  | ended (.unanswered request _), .accepted => some request
  | ended (.refused request), .refused => some request
  | _, _ => none

/-- The same as a task of the pool. -/
def requestsAt (phase : Phase) (id : Nat) (place : Pool.Place) : List Request :=
  (phase.requestAt? place).toList.map (⟨id, ·⟩)

theorem eq_queued {phase : Phase} {request : Wire.Command}
    (h : phase.requestAt? .queue = some request) : phase = .queued request := by
  cases phase with
  | queued other =>
    cases h
    rfl
  | ended ending => cases ending <;> cases h
  | _ => cases h

end Phase

/-- The requests that a connection should have at a place of the pool, if it is there at all. -/
def requestsAt (s : Session) (id : Nat) (place : Pool.Place) : List Request :=
  (s.connections[id]?).elim [] (·.phase.requestsAt id place)

/-- At every place, the pool has of each connection just what its phase tells. -/
def Linked (s : Session) : Prop := ∀ id place, s.pool.requestsOf id place = s.requestsAt id place

/-- What the pool has of a connection is what its phase tells. -/
def Agrees (p : Pool Request) (id : Nat) (c : Connection) : Prop :=
  ∀ place request, ⟨id, request⟩ ∈ p.tasksAt place → c.phase.requestAt? place = some request

theorem Linked.requestsOf (h : Linked s) (hc : s.connections[id]? = some c) :
    s.pool.requestsOf id place = c.phase.requestsAt id place := by
  rw [h id place, requestsAt, hc, Option.elim_some]

theorem Linked.agrees (h : Linked s) (hc : s.connections[id]? = some c) :
    Agrees s.pool id c := by
  intro place request hr
  have hmem := Pool.mem_requestsOf.mpr ⟨hr, rfl⟩
  rw [h.requestsOf hc] at hmem
  obtain ⟨other, ho, heq⟩ := List.mem_map.mp hmem
  cases heq
  exact Option.mem_toList.mp ho

theorem Agrees.running {worker : Nat} {request : Wire.Command} (h : Agrees p id c)
    (ha : p.activity? worker = some (.running ⟨id, request⟩)) :
    c.phase.requestAt? .running = some request := by
  obtain ⟨w, hw, hact⟩ := Option.map_eq_some_iff.mp ha
  refine h .running request (List.mem_filterMap.mpr ⟨w, List.mem_of_find?_eq_some hw, ?_⟩)
  rw [hact]
  rfl

theorem Agrees.queued {request : Wire.Command} (h : Agrees p id c)
    (hq : p.queue.head? = some ⟨id, request⟩) : c.phase = .queued request :=
  Phase.eq_queued (h .queue request (List.mem_of_head? hq))

/-! ### Each step keeps the link -/

/-- While the pool stays as it is, so does what the phase of a connection tells of it. -/
theorem Move.requestAt? {told : List Wire.Response} (h : Move provider limit p id e c told d)
    (hc : Agrees p id c) (place : Pool.Place) :
    d.phase.requestAt? place = c.phase.requestAt? place := by
  cases h with
  | send => rfl
  | endSending => rfl
  | leave => rfl
  | collect => rfl
  | respond ha hr =>
    -- the worker has the request that the phase names
    have hrunning := hc.running ha
    rw [hr] at hrunning ⊢
    cases hrunning
    cases place <;> rfl
  | write _ hr _ =>
    rw [hr]
    cases place <;> rfl
  | readOn hr _ => rw [hr]; cases place <;> rfl
  | lost hr _ _ => rw [hr]; cases place <;> rfl
  | malformed hr _ => rw [hr]; cases place <;> rfl
  | late hr _ _ _ => rw [hr]; cases place <;> rfl
  | abandon hr => rw [hr]; cases place <;> rfl

/-- What comes to a place and what leaves it is what the change of phase tells. -/
theorem Joint.flow (h : Joint limit p id e c f d) (hc : Agrees p id c) (place : Pool.Place) :
    p.joining f place ++ c.phase.requestsAt id place
      = p.leaving f place ++ d.phase.requestsAt id place := by
  cases h with
  | push hr _ => rw [hr]; cases place <;> rfl
  | abandon hr => rw [hr]; cases place <;> rfl
  | enqueue hr => rw [hr]; cases place <;> rfl
  | refuse hr => rw [hr]; cases place <;> rfl
  | take hq =>
    -- the first request of the queue is the one that the phase names
    obtain ⟨rest, hrest⟩ := List.head?_eq_some_iff.mp hq
    rw [hc.queued hq]
    cases place with
    | queue => simp [Pool.taken_take hrest, Phase.requestsAt, Phase.requestAt?]
    | running =>
      simp [Pool.taken_take hrest, Pool.finishing, Pool.panicking, Phase.requestsAt,
        Phase.requestAt?]
    | _ => rfl
  | answered ha hr _ _ =>
    have hrunning := hc.running ha
    rw [hr] at hrunning ⊢
    cases hrunning
    cases place with
    | running =>
      simp [Pool.taken, Pool.finishing_finish ha, Pool.panicking, Phase.requestsAt,
        Phase.requestAt?]
    | _ => rfl
  | unanswered ha hr _ =>
    have hrunning := hc.running ha
    rw [hr] at hrunning ⊢
    cases hrunning
    cases place with
    | running =>
      simp [Pool.taken, Pool.finishing_finish ha, Pool.panicking, Phase.requestsAt,
        Phase.requestAt?]
    | _ => rfl

/-- What comes to a place and what leaves it belongs to the connection that changes. -/
theorem Joint.own (h : Joint limit p id e c f d) (place : Pool.Place) :
    (∀ r ∈ p.joining f place, r.connection = id) ∧ ∀ r ∈ p.leaving f place, r.connection = id := by
  cases h with
  | take hq =>
    obtain ⟨rest, hrest⟩ := List.head?_eq_some_iff.mp hq
    cases place <;> simp [Pool.taken_take hrest, Pool.finishing, Pool.panicking]
  | answered ha _ _ _ =>
    cases place <;> simp [Pool.finishing_finish ha, Pool.taken, Pool.panicking]
  | unanswered ha _ _ =>
    cases place <;> simp [Pool.finishing_finish ha, Pool.taken, Pool.panicking]
  | _ => cases place <;> simp [Pool.taken, Pool.finishing, Pool.panicking]

theorem flow_of_isHousekeeping (h : isHousekeeping f = true) (place : Pool.Place) :
    p.joining f place = [] ∧ p.leaving f place = [] := by
  cases place <;> cases f <;> first | exact ⟨rfl, rfl⟩ | cases h

theorem Phase.eq_requestsAt {l : List Request} {phase : Phase}
    (h : l.Perm (phase.requestsAt id place)) : l = phase.requestsAt id place := by
  unfold requestsAt at h ⊢
  generalize phase.requestAt? place = request at h ⊢
  cases request with
  | none => exact List.perm_nil.mp h
  | some request => exact List.perm_singleton.mp h

theorem eq_requestsAt {l : List Request} (h : l.Perm (s.requestsAt id place)) :
    l = s.requestsAt id place := by
  unfold requestsAt at h ⊢
  generalize s.connections[id]? = connection at h ⊢
  cases connection with
  | none => exact List.perm_nil.mp h
  | some c => exact Phase.eq_requestsAt h

/-- What is read off a connection that changes is read off what it changes to; the others stay. -/
theorem elim_set {α : Type} {l : List Connection} (f : Connection → List α) (hc : l[id]? = some c)
    (i : Nat) : ((l.set id d)[i]?).elim [] f = if i = id then f d else (l[i]?).elim [] f := by
  have hlt := (List.getElem?_eq_some_iff.mp hc).1
  by_cases hi : i = id
  · subst hi
    rw [List.getElem?_set_self hlt, if_pos rfl, Option.elim_some]
  · rw [List.getElem?_set_ne (Ne.symm hi), if_neg hi]

/-- A new connection of which there is nothing to read changes nothing. -/
theorem elim_concat {α : Type} {l : List Connection} (f : Connection → List α) (hf : f c = [])
    (i : Nat) : ((l ++ [c])[i]?).elim [] f = (l[i]?).elim [] f := by
  obtain hi | rfl | hi := Nat.lt_trichotomy i l.length
  · rw [List.getElem?_append_left hi]
  · rw [List.getElem?_concat_length, List.getElem?_eq_none (Nat.le_refl _), Option.elim_some, hf]
    rfl
  · rw [List.getElem?_eq_none (by simp; omega), List.getElem?_eq_none (by omega)]

theorem requestsAt_set (hc : s.connections[id]? = some c)
    (ht : t.connections = s.connections.set id d) (i : Nat) (place : Pool.Place) :
    t.requestsAt i place
      = if i = id then d.phase.requestsAt i place else s.requestsAt i place := by
  rw [requestsAt, ht, elim_set _ hc]
  rfl

theorem requestsAt_connect {capacity : Nat}
    (ht : t.connections = s.connections ++ [.start capacity]) (id : Nat) (place : Pool.Place) :
    t.requestsAt id place = s.requestsAt id place := by
  rw [requestsAt, ht, elim_concat _ (by cases place <;> rfl)]
  rfl

theorem linked_start (settings : Settings) (size : Pool.Settings) :
    Linked (Session.start settings size) := by
  intro id place
  cases place <;> simp [Pool.requestsOf, Pool.tasksAt, Pool.underWay, Pool.running, Session.start,
    Pool.start, requestsAt, Pool.Activity.task?]

theorem Linked.step (hd : Pool.Distinct s.pool.workers) (hs : Linked s)
    (h : Step provider s e t) : Linked t := by
  intro i place
  -- of the connection that changes, what comes and what leaves agrees with its phases; of the
  -- others nothing comes and nothing leaves
  cases h with
  | connect _ _ hconn hpool _ => rw [hpool, hs i place, requestsAt_connect hconn]
  | @move _ _ id c d _ _ hc hmove hconn hpool _ =>
    rw [hpool]
    by_cases hi : i = id
    · subst hi
      rw [requestsAt_set hc hconn, if_pos rfl, hs.requestsOf hc, Phase.requestsAt,
        Phase.requestsAt, hmove.requestAt? (hs.agrees hc)]
    · rw [hs i place, requestsAt_set hc hconn, if_neg hi]
  | @joint _ _ id c d _ _ hc hjoint hconn hpool _ =>
    have hflow := Pool.requestsOf_step hd hpool i place
    obtain ⟨hjoin, hleave⟩ := hjoint.own place
    refine eq_requestsAt ?_
    by_cases hi : i = id
    · subst hi
      rw [List.filter_eq_self.mpr (by simpa using hleave),
        List.filter_eq_self.mpr (by simpa using hjoin), hs.requestsOf hc,
        hjoint.flow (hs.agrees hc)] at hflow
      rw [requestsAt_set hc hconn, if_pos rfl]
      exact (List.perm_append_left_iff _).mp hflow
    · have hne : ∀ r : Request, r.connection = id → ¬ (r.connection == i) = true := by
        intro r hr heq
        exact hi ((beq_iff_eq.mp heq).symm.trans hr)
      rw [List.filter_eq_nil_iff.mpr fun r hr => hne r (hjoin r hr),
        List.filter_eq_nil_iff.mpr fun r hr => hne r (hleave r hr), hs i place] at hflow
      rw [requestsAt_set hc hconn, if_neg hi]
      exact hflow
  | housekeeping _ hk hconn hpool _ =>
    have hflow := Pool.requestsOf_step hd hpool i place
    obtain ⟨hjoin, hleave⟩ := flow_of_isHousekeeping (p := s.pool) hk place
    rw [hjoin, hleave, hs i place] at hflow
    refine eq_requestsAt ?_
    rw [requestsAt, hconn]
    exact hflow

variable {settings : Settings} {size : Pool.Settings}

theorem Reachable.linked (h : Reachable provider settings size s) : Linked s :=
  h.invariant (linked_start settings size) fun hr hstep hs =>
    hs.step hr.pool.accounted.distinct hstep

/-- What holds of a new connection and is kept by whatever happens to one holds of all. -/
theorem Reachable.forall_connections {P : Connection → Prop}
    (hstart : ∀ capacity, P (.start capacity))
    (hmove : ∀ {p id e c told d}, Move provider settings.maxFrameSize p id e c told d →
      Agrees p id c → P c → P d)
    (hjoint : ∀ {p id e c f d}, Joint settings.maxFrameSize p id e c f d →
      Agrees p id c → P c → P d)
    (h : Reachable provider settings size s) : ∀ c ∈ s.connections, P c := by
  refine h.invariant (P := fun s => ∀ c ∈ s.connections, P c) (by simp [Session.start]) ?_
  intro s e t hr hstep hs c hc
  have hlimit := hr.settings_eq
  cases hstep with
  | connect _ _ hconn _ _ =>
    rw [hconn] at hc
    obtain hc | hc := List.mem_append.mp hc
    · exact hs c hc
    · cases List.mem_singleton.mp hc
      exact hstart _
  | @move _ _ id old new _ _ hold hm hconn _ _ =>
    rw [hconn] at hc
    obtain hc | rfl := List.mem_or_eq_of_mem_set hc
    · exact hs c hc
    · rw [hlimit] at hm
      exact hmove hm (hr.linked.agrees hold) (hs old (List.mem_of_getElem? hold))
  | @joint _ _ id old new _ _ hold hj hconn _ _ =>
    rw [hconn] at hc
    obtain hc | rfl := List.mem_or_eq_of_mem_set hc
    · exact hs c hc
    · rw [hlimit] at hj
      exact hjoint hj (hr.linked.agrees hold) (hs old (List.mem_of_getElem? hold))
  | housekeeping _ _ hconn _ _ =>
    rw [hconn] at hc
    exact hs c hc

end Session

end Thumbnailer
