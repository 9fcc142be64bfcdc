/-
A round of the monitor, from its first look to its last.

* **`Swept`**, **`swept_sweep`** — what a round makes of some workers if nothing else happens meanwhile;
* **`after?_round`** — looking at one worker after another comes to the same;
* **`Round`** — a round during which workers take tasks, finish them, break down or leave;
  **`Round.halfway`** — where it is, whatever happens;
* **`Attended`** — what such a round makes of the workers;
* **`tended_once`** — a round ends, and treats every worker exactly once.
-/
import Thumbnailer.Proofs.Pool.Look

namespace Thumbnailer.Pool

variable {τ : Type}

/-! ### A round during which nothing else happens -/

/-- What a whole round makes of some workers, and what it tells the operator. -/
structure Swept (ws after : List (Worker τ)) (notices : List Notice) : Prop where
  /-- Every worker is looked at, and none twice. -/
  seen : ∃ seen : List (Worker τ), seen.Perm ws ∧ after = seen.filterMap Worker.tended ∧
    notices = seen.flatMap Worker.told
  distinct : Distinct after
  live : ∀ w ∈ after, w.activity.isLive = true
  /-- Whoever left is gone, a fresh worker has the number of one that broke down, and everybody else
  goes on with what they did. -/
  activity : ∀ id, activityOf after id = (activityOf ws id).bind Activity.tended
  restarted : ∀ id, notices.count (.workerRestarted id)
    = if (activityOf ws id).any (·.isBroken) then 1 else 0

section
variable {ws seen now : List (Worker τ)} {i : Nat}

theorem sweepFrom_of_lt (hi : i < ws.length) :
    sweepFrom ws i = ((sweepFrom (lookAt ws i).1 (lookAt ws i).2.1).1,
      (lookAt ws i).2.2 ++ (sweepFrom (lookAt ws i).1 (lookAt ws i).2.1).2) := by
  rw [sweepFrom, if_pos hi]

theorem sweepFrom_of_le (hi : ws.length ≤ i) : sweepFrom ws i = (ws, []) := by
  rw [sweepFrom, if_neg (by omega)]

/-- The rest of a round finishes what its first part began. -/
theorem Halfway.finish (h : Halfway Eq ws seen now i) :
    ∃ all : List (Worker τ), all.Perm ws ∧ (sweepFrom now i).1 = all.filterMap Worker.tended ∧
      seen.flatMap Worker.told ++ (sweepFrom now i).2 = all.flatMap Worker.told := by
  induction now, i using sweepFrom.induct generalizing seen with
  | case1 now i hi rest notices _ ih =>
    obtain ⟨all, hall, hleft, htold⟩ := ih (h.look hi)
    rw [sweepFrom_of_lt hi]
    refine ⟨all, hall, hleft, ?_⟩
    rw [← htold]
    simp [told_lookAt hi]
  | case2 now i hi =>
    -- nobody is due any more
    have hdrop : now.drop i = [] := List.drop_eq_nil_of_le (by omega)
    have htake : now.take i = now := List.take_of_length_le (by omega)
    obtain ⟨grown, hws, hperm⟩ := h.once
    have hbehind := h.behind
    rw [List.forall₂_eq_eq_eq] at hws hbehind
    rw [hdrop, List.append_nil, ← hws] at hperm
    rw [htake] at hbehind
    rw [sweepFrom_of_le (by omega)]
    exact ⟨seen, hperm.symm, hbehind.symm, List.append_nil _⟩

theorem swept_sweep (hd : Distinct ws) : Swept ws (sweep ws).1 (sweep ws).2 := by
  obtain ⟨seen, hperm, hleft, htold⟩ := (halfway_begin (R := Eq) ws).finish
  rw [List.flatMap_nil, List.nil_append] at htold
  show Swept ws (sweepFrom ws 0).1 (sweepFrom ws 0).2
  rw [hleft, htold]
  have hds := hd.perm hperm
  have hmem : ∀ id a, ⟨id, a⟩ ∈ seen ↔ ⟨id, a⟩ ∈ ws := fun id a => hperm.mem_iff
  have hsame : ∀ id, activityOf seen id = activityOf ws id := fun id =>
    activityOf_congr hds hd (hmem id)
  refine ⟨⟨seen, hperm, rfl, rfl⟩, hds.tended, ?_, ?_, ?_⟩
  · rintro ⟨id, b⟩ hw
    obtain ⟨a, -, ha⟩ := mem_tended.mp hw
    exact Activity.isLive_of_tended ha
  · intro id
    rw [activityOf_tended hds, hsame]
  · intro id
    rw [count_restarted hds, hsame]

end

section
variable [DecidableEq τ] {p q : Pool τ} {i : Nat}

theorem step?_look_of_watching (hm : p.monitor = .watching) :
    p.step? .look = some { p with monitor := .looking 0 } :=
  step?_eq_some_iff.mpr (.beginRound hm)

theorem step?_look_of_lt (hm : q.monitor = .looking i) (hi : i < q.workers.length) :
    q.step? .look = some { q with
      workers := (lookAt q.workers i).1, monitor := .looking (lookAt q.workers i).2.1
      notices := q.notices ++ (lookAt q.workers i).2.2 } :=
  step?_eq_some_iff.mpr (.look hm hi)

theorem step?_look_of_le (hm : q.monitor = .looking i) (hi : q.workers.length ≤ i) :
    q.step? .look = some { q with monitor := .watching } :=
  step?_eq_some_iff.mpr (.endRound hm hi)

/-- As many looks as there are workers due, and one that finds none. -/
theorem after?_looks (hm : p.monitor = .looking i) :
    p.after? (List.replicate (p.workers.length - i + 1) .look) = some { p with
      workers := (sweepFrom p.workers i).1, monitor := .watching
      notices := p.notices ++ (sweepFrom p.workers i).2 } := by
  generalize hw : p.workers = ws
  induction ws, i using sweepFrom.induct generalizing p with
  | case1 ws i hi rest notices _ ih =>
    have hstep : p.step? .look = some { p with
        workers := (lookAt ws i).1, monitor := .looking (lookAt ws i).2.1
        notices := p.notices ++ (lookAt ws i).2.2 } := by
      subst hw
      exact step?_look_of_lt hm hi
    -- one worker fewer is due
    have hdue : (lookAt ws i).1.length - (lookAt ws i).2.1 + 1 = ws.length - i := by
      have hlen := (drop_lookAt_perm hi).length_eq
      rw [List.length_drop, List.length_drop] at hlen
      omega
    rw [after?, List.replicate_succ, List.foldlM_cons, hstep, ← hdue]
    refine (ih rfl rfl).trans ?_
    simp [sweepFrom_of_lt hi]
  | case2 ws i hi =>
    have hstep : p.step? .look = some { p with monitor := .watching } := by
      subst hw
      exact step?_look_of_le hm (by omega)
    rw [show ws.length - i + 1 = 1 by omega, after?, List.replicate_one, List.foldlM_cons, hstep,
      sweepFrom_of_le (by omega), ← hw]
    simp

/-- Looking at one worker after another comes to the same as a whole round. -/
theorem after?_round (hm : p.monitor = .watching) :
    p.after? (List.replicate (p.workers.length + 2) .look) = p.step? .round := by
  rw [after?, List.replicate_succ, List.foldlM_cons, step?_look_of_watching hm,
    step?_eq_some_iff.mpr (.round hm)]
  refine (after?_looks (p := { p with monitor := .looking 0 }) rfl).trans ?_
  simp [hm, sweep]

end

/-! ### A round during which workers go on -/

/-- What may become of a worker without the monitor: whoever does not live stays as it is. -/
def Ages (w v : Worker τ) : Prop := v.id = w.id ∧ (w.activity.isLive = false → v = w)

instance : Std.Refl (Ages (τ := τ)) where
  refl _ := ⟨rfl, fun _ => rfl⟩

instance : IsTrans (Worker τ) Ages where
  trans u w v := by
    rintro ⟨hid, hdead⟩ ⟨hid', hdead'⟩
    refine ⟨hid'.trans hid, fun hu => ?_⟩
    have hw := hdead hu
    subst hw
    exact hdead' hu

theorem forall₂_ages_setActivity {p : Pool τ} {worker : Nat} {a : Activity τ}
    (hd : Distinct p.workers) (ha : p.activity? worker = some a) (hl : a.isLive = true)
    (b : Activity τ) : List.Forall₂ Ages p.workers (p.setActivity worker b).workers := by
  obtain ⟨l, r, hs, hb⟩ := exists_split hd ha
  rw [hs, hb]
  have hages : Ages (⟨worker, a⟩ : Worker τ) ⟨worker, b⟩ := ⟨rfl, fun h => by simp [hl] at h⟩
  exact List.rel_append (List.forall₂_refl l) (.cons hages (List.forall₂_refl r))

section
variable {ws ws' seen now : List (Worker τ)} {i : Nat}

/-- What a round makes of the workers `ws` of its beginning, if it looked at those in `seen`, as they
were then. -/
structure Attended (ws seen after : List (Worker τ)) : Prop where
  /-- The round looked at every worker, and at none twice. -/
  ids : (seen.map (·.id)).Perm (ws.map (·.id))
  /-- Whoever did not live when the round began was seen so. -/
  dead : ∀ w ∈ ws, w.activity.isLive = false → w ∈ seen
  /-- What the looks left is there, gone on since then, and nobody else. -/
  left : List.Forall₂ Ages (seen.filterMap Worker.tended) after
  distinct : Distinct after
  removed : ∀ id, ⟨id, .gone⟩ ∈ ws → id ∉ after.map (·.id)
  restarted : ∀ id, (seen.flatMap Worker.told).count (.workerRestarted id)
    = if (activityOf seen id).any (·.isBroken) then 1 else 0

theorem ids_of_ages (h : List.Forall₂ Ages ws ws') : ws'.map (·.id) = ws.map (·.id) := by
  have hids : List.Forall₂ Eq (ws'.map (·.id)) (ws.map (·.id)) := by
    rw [List.forall₂_map_left_iff, List.forall₂_map_right_iff]
    exact (h.imp fun _ _ hwv => hwv.1).flip
  rwa [List.forall₂_eq_eq_eq] at hids

theorem mem_of_ages {w : Worker τ} (h : List.Forall₂ Ages ws ws') (hw : w ∈ ws)
    (hdead : w.activity.isLive = false) : w ∈ ws' := by
  induction h with
  | nil => cases hw
  | cons hages _ ih =>
    rcases List.mem_cons.mp hw with rfl | hw
    · exact hages.2 hdead ▸ List.mem_cons_self
    · exact List.mem_cons_of_mem _ (ih hw)

theorem Halfway.attended (h : Halfway Ages ws seen now i) (hi : now.length ≤ i) (hd : Distinct ws)
    (hdn : Distinct now) : Attended ws seen now := by
  obtain ⟨grown, hws, hperm⟩ := h.once
  have hleft := h.behind
  rw [List.drop_eq_nil_of_le hi, List.append_nil] at hperm
  rw [List.take_of_length_le hi] at hleft
  have hids : (seen.map (·.id)).Perm (ws.map (·.id)) := ids_of_ages hws ▸ (hperm.map _).symm
  have hds : Distinct seen := hids.nodup_iff.mpr hd
  have hdead : ∀ w ∈ ws, w.activity.isLive = false → w ∈ seen := fun w hw hl =>
    hperm.mem_iff.mp (mem_of_ages hws hw hl)
  refine ⟨hids, hdead, hleft, hdn, ?_, count_restarted hds⟩
  intro id hgone hid
  rw [ids_of_ages hleft] at hid
  obtain ⟨⟨_, b⟩, hb, rfl⟩ := List.mem_map.mp hid
  obtain ⟨a, ha, hab⟩ := mem_tended.mp hb
  -- the only worker of that number left
  have hsame := List.inj_on_of_nodup_map hds ha (hdead _ hgone rfl) rfl
  cases hsame
  cases hab

end

section
variable [DecidableEq τ] {p q r : Pool τ} {e : Event τ} {seen : List (Worker τ)} {i : Nat}

/-- A round that began in the state `p`, has looked at the workers in `seen` and is now in the state
`q`.  Anything that the others do may happen between two looks. -/
inductive Round (p : Pool τ) : List (Worker τ) → Pool τ → Prop
  | begins {q : Pool τ} : p.monitor = .watching → p.step? .look = some q → Round p [] q
  | meanwhile {seen : List (Worker τ)} {q r : Pool τ} {e : Event τ} :
    Round p seen q → e ≠ .look → q.step? e = some r → Round p seen r
  | looks {seen : List (Worker τ)} {q r : Pool τ} {i : Nat} (hi : i < q.workers.length) :
    Round p seen q → q.monitor = .looking i → q.step? .look = some r →
      Round p (seen ++ [q.workers[i]]) r

/-- What the others do while the monitor is in a round. -/
theorem Step.meanwhile (hd : Distinct q.workers) (h : Step q e r) (he : e ≠ .look)
    (hm : q.monitor = .looking i) :
    r.monitor = .looking i ∧ r.notices = q.notices ∧ List.Forall₂ Ages q.workers r.workers := by
  cases h with
  | take ha _ => exact ⟨hm, rfl, forall₂_ages_setActivity hd ha rfl _⟩
  | finish ha => exact ⟨hm, rfl, forall₂_ages_setActivity hd ha rfl _⟩
  | panic ha => exact ⟨hm, rfl, forall₂_ages_setActivity hd ha rfl _⟩
  | leave ha _ _ => exact ⟨hm, rfl, forall₂_ages_setActivity hd ha rfl _⟩
  | beginRound _ => exact absurd rfl he
  | look _ _ => exact absurd rfl he
  | endRound _ _ => exact absurd rfl he
  | watch hs =>
    rw [hm] at hs
    cases hs
  | round hs =>
    rw [hm] at hs
    cases hs
  | dismiss hs _ =>
    rw [hm] at hs
    cases hs
  | _ => exact ⟨hm, rfl, List.forall₂_refl _⟩

/-- Where a round is, whatever happens during it. -/
theorem Round.halfway (hd : Distinct p.workers) (h : Round p seen q) :
    ∃ i, q.monitor = .looking i ∧ Distinct q.workers ∧
      Halfway Ages p.workers seen q.workers i ∧
      q.notices = p.notices ++ seen.flatMap Worker.told := by
  induction h with
  | begins hm hq =>
    rw [step?_look_of_watching hm] at hq
    cases hq
    exact ⟨0, rfl, hd, halfway_begin _, by simp⟩
  | meanwhile _ he hr ih =>
    obtain ⟨i, hm, hdq, hhalf, htold⟩ := ih
    have hstep := Step.of_step? hr
    obtain ⟨hm', hsame, hages⟩ := hstep.meanwhile hdq he hm
    exact ⟨i, hm', distinct_step hdq hstep, hhalf.meanwhile hages, hsame.trans htold⟩
  | looks hi _ hm hr ih =>
    obtain ⟨j, hj, hdq, hhalf, htold⟩ := ih
    cases hm.symm.trans hj
    have hdr := distinct_step hdq (.of_step? hr)
    rw [step?_look_of_lt hm hi] at hr
    cases hr
    refine ⟨_, rfl, hdr, hhalf.look hi, ?_⟩
    show _ ++ _ = _
    rw [told_lookAt hi, htold]
    simp

/-- As long as a worker is due, a look takes the round on to it. -/
theorem Round.goes_on (hd : Distinct p.workers) (h : Round p seen q)
    (hdue : seen.length < p.workers.length) :
    ∃ w r, q.step? .look = some r ∧ Round p (seen ++ [w]) r := by
  obtain ⟨i, hm, -, hhalf, -⟩ := h.halfway hd
  have hi : i < q.workers.length := by
    have hlen := hhalf.length
    omega
  exact ⟨q.workers[i], _, step?_look_of_lt hm hi, .looks hi h hm (step?_look_of_lt hm hi)⟩

/-- When nobody is due any more, the next look ends the round. -/
theorem Round.ends (hd : Distinct p.workers) (h : Round p seen q)
    (hdue : seen.length = p.workers.length) :
    q.step? .look = some { q with monitor := .watching } ∧
      Attended p.workers seen q.workers ∧ q.notices = p.notices ++ seen.flatMap Worker.told := by
  obtain ⟨i, hm, hdq, hhalf, htold⟩ := h.halfway hd
  have hi : q.workers.length ≤ i := by
    have hlen := hhalf.length
    omega
  exact ⟨step?_look_of_le hm hi, hhalf.attended hi hd hdq, htold⟩

/-- **A round treats every worker exactly once.**  If nothing else happens meanwhile, it leaves those
that had not left, with a fresh worker for each that broke down, and comes to an end after one look at
each.  A round during which workers go on ends after as many looks, and has then seen each of them. -/
theorem tended_once {ws : List (Worker τ)} (hd : Distinct ws) :
    Swept ws (sweep ws).1 (sweep ws).2 ∧
    ∀ p : Pool τ, p.workers = ws → p.monitor = .watching →
      p.after? (List.replicate (ws.length + 2) .look) = p.step? .round ∧
      ∀ seen q, Round p seen q →
        seen.length ≤ ws.length ∧
        (seen.length < ws.length → ∃ w r, q.step? .look = some r ∧ Round p (seen ++ [w]) r) ∧
        (seen.length = ws.length → q.step? .look = some { q with monitor := .watching } ∧
          Attended ws seen q.workers ∧ q.notices = p.notices ++ seen.flatMap Worker.told) := by
  refine ⟨swept_sweep hd, fun p hw hm => ?_⟩
  subst hw
  refine ⟨after?_round hm, fun seen q hround => ⟨?_, hround.goes_on hd, hround.ends hd⟩⟩
  obtain ⟨i, -, -, hhalf, -⟩ := hround.halfway hd
  have hlen := hhalf.length
  omega

end

/-- Workers of every kind: the last of them left, and comes to be looked at in the place of the first,
which left too. -/
def mixed : List (Worker Nat) :=
  [⟨0, .gone⟩, ⟨1, .running 5⟩, ⟨2, .panicked .value⟩, ⟨3, .gone⟩]

/-- A round over such workers; in another one, worker 1 breaks down behind the monitor's back, but
before its turn. -/
theorem tended_once_mixed :
    Distinct mixed ∧ (∀ w ∈ (sweep mixed).1, w.activity.isLive = true) ∧
    [0, 1, 2, 3].map (activityOf (sweep mixed).1) = [none, some (.running 5), some .idle, none] ∧
    ∃ p seen q, p.workers = mixed ∧ Round p seen q ∧ Attended mixed seen q.workers ∧
      q.notices = [.workerPanicked 2 .value, .workerRestarted 2,
        .workerPanicked 1 .value, .workerRestarted 1] := by
  have hd : Distinct mixed := by
    rw [Distinct]
    decide
  obtain ⟨hswept, hrounds⟩ := tended_once hd
  refine ⟨hd, hswept.live, ?_, ?_⟩
  · simp only [List.map_cons, List.map_nil, hswept.activity]
    rfl
  · let p : Pool Nat := { start ⟨4, 8, 5000⟩ with workers := mixed, monitor := .watching }
    have hbegin : Round p [] _ := .begins rfl rfl
    have hfirst := hbegin.looks (i := 0) (by decide) rfl rfl
    have hlast := hfirst.looks (i := 0) (by decide) rfl rfl
    have hbroken := hlast.meanwhile (e := .panic 1 .value) (by decide) rfl
    have htwo := hbroken.looks (i := 0) (by decide) rfl rfl
    have hone := htwo.looks (i := 1) (by decide) rfl rfl
    obtain ⟨-, hatt, htold⟩ := ((hrounds p rfl rfl).2 _ _ hone).2.2 rfl
    exact ⟨p, _, _, rfl, hone, hatt, htold⟩

end Thumbnailer.Pool
