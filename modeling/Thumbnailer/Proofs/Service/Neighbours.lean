/-
What servers at one path do to each other.

Only a socket is ever taken away or replaced, and only at the path of the servers.  Whose socket it is
does not matter to anyone: a server that comes takes away the socket of one that still listens, and a
server that stops takes away the socket of one that came after it.

* **`Step`** — the rules of the servers;
* **`Sound`** — what holds in every reachable state: whoever looked at the path finds a socket or
  nothing there, and once somebody listened it is the socket of the last who did, or nothing;
* **`exists_own_bind`** — the steps of one server alone are those of `Folder.bind`;
* **`sockets_of_reachable`** — what is spared, and what is not.
-/
import Mathlib.Logic.Relation
import Thumbnailer.Proofs.Folder.Entries
import Thumbnailer.Service.Neighbours

namespace Thumbnailer.Neighbours

open Folder
open Relation (ReflTransGen)

variable {α : Type} {path : String} {f g : Folder α} {s t : Neighbours α} {id : Nat} {act : Act}
  {stage : Stage}

/-! ### The rules -/

@[simp] theorem stage_move_self (s : Neighbours α) (id : Nat) (stage : Stage) :
    (s.move id stage).stage id = stage := if_pos rfl

theorem stage_move_of_ne (s : Neighbours α) {other : Nat} (stage : Stage) (h : other ≠ id) :
    (s.move id stage).stage other = s.stage other := if_neg h

/-- What a step of a server does, and when it can be taken. -/
inductive Step (path : String) (s : Neighbours α) (id : Nat) : Act → Neighbours α → Prop
  | taken : s.stage id = .waiting → s.folder.isTaken path = .ok true →
    Step path s id .look (s.move id .clearing)
  | free : s.stage id = .waiting → s.folder.isTaken path = .ok false →
    Step path s id .look (s.move id .landing)
  | refused {e : Error} : s.stage id = .waiting → s.folder.isTaken path = .error e →
    Step path s id .look (s.move id (.failed e))
  | cleared {g : Folder α} : s.stage id = .clearing → s.folder.clear path = .ok g →
    Step path s id .clear { s.move id .landing with folder := g }
  | uncleared {e : Error} : s.stage id = .clearing → s.folder.clear path = .error e →
    Step path s id .clear (s.move id (.failed e))
  | landed {g : Folder α} : s.stage id = .landing → s.folder.listen path id = .ok g →
    Step path s id .listen { s.move id .opened with folder := g, bound := s.bound ++ [id] }
  | missed {e : IoError} : s.stage id = .landing → s.folder.listen path id = .error e →
    Step path s id .listen (s.move id (.failed (.illegalState (.bind path e))))
  | restricted {e : Entry α} : s.stage id = .opened → s.folder.look path = .ok e →
    Step path s id .restrict (s.move id .listening)
  | unrestricted {e : OsError} : s.stage id = .opened → s.folder.look path = .error e →
    Step path s id .restrict (s.move id (.failed (.io (.system e))))
  | left : s.stage id = .listening →
    Step path s id .leave { s.move id .left with folder := s.folder.remove path }

theorem Step.of_step? (h : s.step? path id act = some t) : Step path s id act t := by
  unfold step? at h
  split at h
  · split at h <;> cases h
    · exact .taken ‹_› ‹_›
    · exact .free ‹_› ‹_›
    · exact .refused ‹_› ‹_›
  · split at h <;> cases h
    · exact .cleared ‹_› ‹_›
    · exact .uncleared ‹_› ‹_›
  · split at h <;> cases h
    · exact .landed ‹_› ‹_›
    · exact .missed ‹_› ‹_›
  · split at h <;> cases h
    · exact .restricted ‹_› ‹_›
    · exact .unrestricted ‹_› ‹_›
  · cases h
    exact .left ‹_›
  · cases h

/-- The rules say what `step?` computes. -/
theorem step?_eq_some_iff : s.step? path id act = some t ↔ Step path s id act t := by
  refine ⟨Step.of_step?, fun h => ?_⟩
  cases h <;> simp_all [step?]

theorem Step.stage_of_ne {other : Nat} (h : Step path s id act t) (hne : other ≠ id) :
    t.stage other = s.stage other := by
  cases h <;> exact stage_move_of_ne s _ hne

/-! ### What is at the path -/

namespace Stage

/-- Whether a server has looked at the path, and nothing else than a socket was there. -/
def hasSeen : Stage → Bool
  | waiting => false
  | failed _ => false
  | _ => true

/-- Whether a server has made itself a socket. -/
def hasBound : Stage → Bool
  | opened => true
  | listening => true
  | left => true
  | _ => false

end Stage

/-- What holds in every reachable state. -/
structure Sound (path : String) (s : Neighbours α) : Prop where
  seen : ∀ id, (s.stage id).hasSeen = true → ∀ e, s.folder.look path = .ok e → ∃ o, e = .socket o
  bound : ∀ id, (s.stage id).hasBound = true → id ∈ s.bound
  short : s.bound ≠ [] → path.utf8ByteSize < socketPathLimit
  walk : s.bound ≠ [] → s.folder.walk path = .ok ()
  latest : s.bound ≠ [] → ∀ e, s.folder.at? path = some e → ∃ o ∈ s.bound.getLast?, e = .socket o

theorem sound_start (path : String) (f : Folder α) : (start f).Sound path where
  seen _ h := nomatch h
  bound _ h := nomatch h
  short h := absurd rfl h
  walk h := absurd rfl h
  latest h := absurd rfl h

namespace Sound

theorem move (h : s.Sound path)
    (hseen : stage.hasSeen = true → ∀ e, s.folder.look path = .ok e → ∃ o, e = .socket o)
    (hbound : stage.hasBound = true → id ∈ s.bound) : (s.move id stage).Sound path where
  seen other hother := by
    by_cases hid : other = id
    · subst hid
      rw [stage_move_self] at hother
      exact hseen hother
    · rw [stage_move_of_ne s stage hid] at hother
      exact h.seen other hother
  bound other hother := by
    by_cases hid : other = id
    · subst hid
      rw [stage_move_self] at hother
      exact hbound hother
    · rw [stage_move_of_ne s stage hid] at hother
      exact h.bound other hother
  short := h.short
  walk := h.walk
  latest := h.latest

theorem unlink (h : s.Sound path) (hg : s.folder.unlink path = .ok g) :
    Sound path { s with folder := g } where
  seen _ _ e he := by
    have hat := (look_eq_ok_iff.mp he).2
    rw [(at?_of_unlink hg).2] at hat
    cases hat
  bound := h.bound
  short := h.short
  walk _ := (at?_of_unlink hg).1
  latest _ e he := by
    rw [(at?_of_unlink hg).2] at he
    cases he

theorem listen (h : s.Sound path) (hg : s.folder.listen path id = .ok g) :
    Sound path { s with folder := g, bound := s.bound ++ [id] } where
  seen _ _ e he := by
    have hat := (look_eq_ok_iff.mp he).2
    rw [(at?_of_listen hg).2] at hat
    exact ⟨id, (Option.some.inj hat).symm⟩
  bound other hother := List.mem_append_left _ (h.bound other hother)
  short _ := (listen_eq_ok_iff.mp hg).1
  walk _ := (at?_of_listen hg).1
  latest _ e he := by
    rw [(at?_of_listen hg).2] at he
    exact ⟨id, by simp, (Option.some.inj he).symm⟩

theorem remove (h : s.Sound path) : Sound path { s with folder := s.folder.remove path } := by
  obtain hunlink | ⟨hkept, -⟩ := s.folder.remove_eq_or path
  · exact h.unlink hunlink
  · rw [hkept]
    exact h

theorem step (h : s.Sound path) (hstep : Step path s id act t) : t.Sound path := by
  cases hstep with
  | taken hstage htaken =>
    obtain ⟨o, hlook⟩ := isTaken_eq_true_iff.mp htaken
    refine h.move (fun _ e he => ⟨o, ?_⟩) nofun
    rw [hlook] at he
    exact (Except.ok.inj he).symm
  | free hstage hfree =>
    refine h.move (fun _ e he => ?_) nofun
    rw [isTaken_eq_false_iff.mp hfree] at he
    cases he
  | refused hstage he => exact h.move nofun nofun
  | cleared hstage hclear =>
    have hg := h.unlink (clear_eq_ok_iff.mp hclear)
    exact hg.move (fun _ => hg.seen id (by rw [hstage]; rfl)) nofun
  | uncleared hstage he => exact h.move nofun nofun
  | landed hstage hlisten =>
    have hg := h.listen hlisten
    exact hg.move (fun _ => hg.seen id (by rw [hstage]; rfl)) fun _ => by simp
  | missed hstage he => exact h.move nofun nofun
  | restricted hstage hlook =>
    exact h.move (fun _ => h.seen id (by rw [hstage]; rfl)) fun _ => h.bound id (by rw [hstage]; rfl)
  | unrestricted hstage he => exact h.move nofun nofun
  | left hstage =>
    have hg := h.remove
    exact hg.move (fun _ => hg.seen id (by rw [hstage]; rfl))
      fun _ => hg.bound id (by rw [hstage]; rfl)

end Sound

theorem Reachable.sound (h : Reachable path f s) : s.Sound path := by
  induction h with
  | start => exact sound_start path f
  | next id act _ hstep ih => exact ih.step (.of_step? hstep)

/-! ### What a step changes -/

/-- A step changes the folder as a removal by somebody who looked at the path, or as a new socket. -/
theorem Step.folder (h : Step path s id act t) : t.folder = s.folder ∨
    ((s.stage id).hasSeen = true ∧ s.folder.unlink path = .ok t.folder) ∨
      s.folder.listen path id = .ok t.folder := by
  cases h with
  | cleared hstage hclear =>
    exact .inr (.inl ⟨by rw [hstage]; rfl, clear_eq_ok_iff.mp hclear⟩)
  | landed hstage hlisten => exact .inr (.inr hlisten)
  | left hstage =>
    obtain hunlink | ⟨hkept, -⟩ := s.folder.remove_eq_or path
    · exact .inr (.inl ⟨by rw [hstage]; rfl, hunlink⟩)
    · exact .inl hkept
  | _ => exact .inl rfl

/-- Other paths are not touched. -/
theorem Step.get?_of_ne (h : Step path s id act t) {p : String} (hp : p ≠ cleanPath path) :
    t.folder.get? p = s.folder.get? p := by
  obtain hsame | ⟨-, hunlink⟩ | hlisten := h.folder
  · rw [hsame]
  · exact get?_of_unlink hunlink hp
  · exact get?_of_listen hlisten hp

/-- Whatever is no socket stays. -/
theorem Sound.keeps (hs : s.Sound path) (h : Step path s id act t) {p : String} {e : Entry α}
    (he : s.folder.get? p = some e) (hsocket : ∀ o, e ≠ .socket o) : t.folder.get? p = some e := by
  by_cases hp : p = cleanPath path
  · obtain hsame | ⟨hseen, hunlink⟩ | hlisten := h.folder
    · rwa [hsame]
    · obtain ⟨⟨found, hlook, hfolder⟩, -⟩ := unlink_eq_ok_iff.mp hunlink
      obtain ⟨o, rfl⟩ := hs.seen id hseen found hlook
      have hat := (look_eq_ok_iff.mp hlook).2
      rw [← get?_of_at? (by simp [hat]), ← hp, he] at hat
      exact absurd (Option.some.inj hat) (hsocket o)
    · have hat := (listen_eq_ok_iff.mp hlisten).2.2.1
      rw [← get?_of_at? (by simp [hat]), ← hp, he] at hat
      cases hat
  · rw [h.get?_of_ne hp, he]

/-- Once a server has stopped, nothing is at the path. -/
theorem Sound.at?_remove (hs : s.Sound path) (hbound : s.bound ≠ []) :
    (s.folder.remove path).at? path = none := by
  obtain hunlink | ⟨hkept, e, herror⟩ := s.folder.remove_eq_or path
  · exact (at?_of_unlink hunlink).2
  · rw [hkept, Option.eq_none_iff_forall_ne_some]
    intro found hat
    -- a socket could have been taken away
    obtain ⟨o, -, rfl⟩ := hs.latest hbound found hat
    rw [unlink_eq_ok_iff.mpr ⟨⟨_, look_eq_ok_iff.mpr ⟨hs.walk hbound, hat⟩, nofun⟩, rfl⟩] at herror
    cases herror

/-! ### The steps of one server -/

/-- A step of a server leads from one state to another. -/
def Own (path : String) (id : Nat) (s t : Neighbours α) : Prop :=
  ∃ act, s.step? path id act = some t

theorem Step.own (h : Step path s id act t) : Own path id s t := ⟨act, step?_eq_some_iff.mpr h⟩

theorem Reachable.own (h : Reachable path f s) (hown : ReflTransGen (Own path id) s t) :
    Reachable path f t := by
  induction hown with
  | refl => exact h
  | tail _ hown ih =>
    obtain ⟨act, ht⟩ := hown
    exact ih.next id act ht

@[simp] theorem move_move (s : Neighbours α) (id : Nat) (first second : Stage) :
    (s.move id first).move id second = s.move id second := by
  rw [move, move, move]
  congr 1
  funext other
  by_cases h : other = id <;> simp [h]

/-- The state once a server's attempt to listen came to something. -/
def settled (s : Neighbours α) (id : Nat) : Folder α × Except Error Unit → Neighbours α
  | (folder, .ok ()) => { s.move id .opened with folder := folder, bound := s.bound ++ [id] }
  | (folder, .error e) => { s.move id (.failed e) with folder := folder }

theorem settled_move (s : Neighbours α) (id : Nat) (stage : Stage) (g : Folder α)
    (result : Folder α × Except Error Unit) :
    settled { s.move id stage with folder := g } id result = s.settled id result := by
  have hmove (last : Stage) := congrArg Neighbours.stage (move_move s id stage last)
  obtain ⟨folder, e | _⟩ := result
  · exact congrArg (Neighbours.mk folder · s.bound) (hmove (.failed e))
  · exact congrArg (Neighbours.mk folder · (s.bound ++ [id])) (hmove .opened)

theorem own_listen (hstage : s.stage id = .landing) (hrelease : f.release path = .ok s.folder) :
    Own path id s (s.settled id (f.bind path id)) := by
  rw [Folder.bind, hrelease]
  cases hlisten : s.folder.listen path id with
  | ok g =>
    simp only [hlisten]
    exact (Step.landed hstage hlisten).own
  | error e =>
    simp only [hlisten]
    exact (Step.missed hstage hlisten).own

/-- Left alone, a server comes as far as an attempt to listen does. -/
theorem own_bind (path : String) (hstage : s.stage id = .waiting) :
    ReflTransGen (Own path id) s (s.settled id (s.folder.bind path id)) := by
  cases htaken : s.folder.isTaken path with
  | error e =>
    have hbind : s.folder.bind path id = (s.folder, .error e) := by
      rw [Folder.bind, release, htaken]
      rfl
    rw [hbind]
    exact .single (Step.refused hstage htaken).own
  | ok taken =>
    cases taken with
    | false =>
      have hrelease : s.folder.release path = .ok s.folder := by
        rw [release, htaken]
        rfl
      have hlisten := own_listen (s := s.move id .landing) (stage_move_self s id _) hrelease
      rw [← settled_move s id .landing s.folder]
      exact .tail (.single (Step.free hstage htaken).own) hlisten
    | true =>
      have hclearing : Own path id s (s.move id .clearing) := (Step.taken hstage htaken).own
      cases hclear : s.folder.clear path with
      | error e =>
        have hbind : s.folder.bind path id = (s.folder, .error e) := by
          rw [Folder.bind, release, htaken]
          simp only [Bind.bind, Except.bind, if_true, hclear]
        have hstep := (Step.uncleared (s := s.move id .clearing) (stage_move_self s id _) hclear).own
        rw [move_move] at hstep
        rw [hbind]
        exact .tail (.single hclearing) hstep
      | ok g =>
        have hrelease : s.folder.release path = .ok g := by
          rw [release, htaken]
          exact hclear
        have hstep := (Step.cleared (s := s.move id .clearing) (stage_move_self s id _) hclear).own
        rw [move_move] at hstep
        have hlisten := own_listen (s := { s.move id .landing with folder := g })
          (stage_move_self s id _) hrelease
        rw [settled_move] at hlisten
        exact .tail (.tail (.single hclearing) hstep) hlisten

/-- A server that comes where another one has been ends up listening, with the only socket. -/
theorem Sound.exists_listening (hs : s.Sound path) (hbound : s.bound ≠ [])
    (hstage : s.stage id = .waiting) :
    ∃ t, ReflTransGen (Own path id) s t ∧ t.stage = (s.move id .listening).stage ∧
      t.bound = s.bound ++ [id] ∧ t.folder.at? path = some (.socket id) := by
  have hat : s.folder.at? path = none ∨ ∃ o, s.folder.at? path = some (.socket o) := by
    cases hat : s.folder.at? path with
    | none => exact .inl rfl
    | some e =>
      obtain ⟨o, -, rfl⟩ := hs.latest hbound e hat
      exact .inr ⟨o, rfl⟩
  obtain ⟨g, hbind, hwalk, hat⟩ := bind_of_usable (hs.short hbound) (hs.walk hbound) hat id
  have hown := own_bind path hstage
  rw [hbind] at hown
  have hlook : g.look path = .ok (.socket id) := look_eq_ok_iff.mpr ⟨hwalk, hat⟩
  have hopened : (s.settled id (g, .ok ())).stage id = .opened := stage_move_self s id _
  have hrestrict := (Step.restricted hopened hlook).own
  have hmove := congrArg Neighbours.stage (move_move s id .opened .listening)
  exact ⟨_, hown.tail hrestrict, hmove, rfl, hat⟩

theorem stage_of_own {other : Nat} (hown : ReflTransGen (Own path id) s t) (hne : other ≠ id) :
    t.stage other = s.stage other := by
  induction hown with
  | refl => rfl
  | tail _ hstep ih =>
    obtain ⟨act, ht⟩ := hstep
    rw [(Step.of_step? ht).stage_of_ne hne, ih]

/-- **What servers at one path take away.**  Whatever the path and the folder to begin with, in each
state that servers come to by some run:

* no step of a server touches another path, or takes away or replaces anything but a socket;
* what a server takes away when it stops is the socket of the last who listened, so it is its own just
  if nobody listened after it;
* wherever a server listens and another one waits, this one can come to listen by its own steps, with
  the only socket at the path; and when the first then stops, it takes that socket away, while the
  other one goes on listening without it. -/
theorem sockets_of_reachable (path : String) {f : Folder α} {s : Neighbours α}
    (h : Reachable path f s) :
    (∀ id act t, s.step? path id act = some t →
      (∀ p, p ≠ cleanPath path → t.folder.get? p = s.folder.get? p) ∧
      ∀ p e, s.folder.get? p = some e → (∀ o, e ≠ .socket o) → t.folder.get? p = some e) ∧
    (∀ a t, s.step? path a .leave = some t → a ∈ s.bound ∧ t.folder.at? path = none ∧
      ∀ e, s.folder.at? path = some e → ∃ o ∈ s.bound.getLast?, e = .socket o) ∧
    (∀ a b, s.stage a = .listening → s.stage b = .waiting →
      ∃ t u, ReflTransGen (Own path b) s t ∧ t.bound = s.bound ++ [b] ∧
        t.stage a = .listening ∧ t.stage b = .listening ∧ t.folder.at? path = some (.socket b) ∧
        t.step? path a .leave = some u ∧ u.stage b = .listening ∧ u.folder.at? path = none) := by
  have hs := h.sound
  refine ⟨fun id act t ht => ?_, fun a t ht => ?_, fun a b ha hb => ?_⟩
  · have hstep := Step.of_step? ht
    exact ⟨fun p => hstep.get?_of_ne, fun p e => hs.keeps hstep⟩
  · cases Step.of_step? ht with
    | left hstage =>
      have ha : a ∈ s.bound := hs.bound a (by rw [hstage]; rfl)
      have hbound : s.bound ≠ [] := List.ne_nil_of_mem ha
      exact ⟨ha, hs.at?_remove hbound, hs.latest hbound⟩
  · have hne : a ≠ b := by
      rintro rfl
      rw [ha] at hb
      cases hb
    have hbound : s.bound ≠ [] := List.ne_nil_of_mem (hs.bound a (by rw [ha]; rfl))
    obtain ⟨t, hown, hstage, hlast, hat⟩ := hs.exists_listening hbound hb
    have hta : t.stage a = .listening := by rw [stage_of_own hown hne, ha]
    have htb : t.stage b = .listening := by rw [hstage, stage_move_self]
    have hleave : Step path t a .leave _ := .left hta
    refine ⟨t, _, hown, hlast, hta, htb, hat, step?_eq_some_iff.mpr hleave, ?_, ?_⟩
    · rw [hleave.stage_of_ne hne.symm, htb]
    · exact (h.own hown).sound.at?_remove (by simp [hlast])

/-- One server listens where nothing was, and another one waits. -/
theorem sockets_of_reachable_two :
    ∃ s t u : Neighbours Unit, Reachable "w.sock" ⟨[]⟩ s ∧ ReflTransGen (Own "w.sock" 1) s t ∧
      t.folder.at? "w.sock" = some (.socket 1) ∧ t.step? "w.sock" 0 .leave = some u ∧
      u.stage 1 = .listening ∧ u.folder.at? "w.sock" = none := by
  obtain ⟨s, hreachable, hlistening, hwaiting⟩ : ∃ s : Neighbours Unit,
      Reachable "w.sock" ⟨[]⟩ s ∧ s.stage 0 = .listening ∧ s.stage 1 = .waiting :=
    ⟨_, ((Reachable.start.next 0 .look (by rfl)).next 0 .listen (by rfl)).next 0 .restrict (by rfl),
      by rfl, by rfl⟩
  obtain ⟨t, u, hown, -, -, -, hat, hleave, hstage, hgone⟩ :=
    (sockets_of_reachable "w.sock" hreachable).2.2 0 1 hlistening hwaiting
  exact ⟨s, t, u, hreachable, hown, hat, hleave, hstage, hgone⟩

end Thumbnailer.Neighbours
