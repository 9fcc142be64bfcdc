/-
What a folder holds before and after each of its operations.

A folder is looked into by clean paths, with `get?`.  This module says of each operation when it is
done and what it makes of the entries, so that nothing else needs to know how a folder is stored.

* **`walk_eq_ok_iff`** — a path can be gone through if there is a folder at each path before its end;
* **`Takes`** — that a file can be written at a path; **`write_eq_ok_iff`**: then it is;
* **`unlink_eq_ok_iff`**, **`listen_eq_ok_iff`** — the same for taking away, and for sockets;
* **`bind_of_usable`** — where nothing or a socket is, one can listen;
* **`cleanPath_join_inj`** — different names in one folder have different clean paths.
-/
import Thumbnailer.Folder
import Thumbnailer.Proofs.Attempt

namespace Thumbnailer.Folder

variable {α : Type} {f g : Folder α} {path p q : String} {e : Entry α} {content : α} {owner : Nat}

/-! ### Entries -/

@[simp] theorem get?_erase_self (f : Folder α) (path : String) : (f.erase path).get? path = none := by
  rw [get?, Option.map_eq_none_iff, List.find?_eq_none]
  intro entry hentry
  have hother := (List.mem_filter.mp hentry).2
  simpa using hother

theorem get?_erase_of_ne (f : Folder α) (h : q ≠ p) : (f.erase p).get? q = f.get? q := by
  rw [get?, erase, List.find?_filter, get?]
  congr 2
  funext entry
  by_cases hq : entry.1 = q
  · simp [hq, h]
  · simp [hq]

@[simp] theorem get?_insert_self (f : Folder α) (path : String) (e : Entry α) :
    (f.insert path e).get? path = some e := by
  simp [get?, insert]

theorem get?_insert_of_ne (f : Folder α) (e : Entry α) (h : q ≠ p) :
    (f.insert p e).get? q = f.get? q := by
  have hne : (p == q) = false := beq_eq_false_iff_ne.mpr h.symm
  rw [← get?_erase_of_ne f h]
  simp only [get?, insert, List.find?_cons, hne]

/-! ### Ways through a folder -/

theorem enter_eq_ok_iff : f.enter path = .ok () ↔ f.get? path = some .folder := by
  rw [enter]
  cases f.get? path with
  | none => simp
  | some e => cases e <;> simp

theorem walk_eq_ok_iff : f.walk path = .ok () ↔ path.isEmpty = false ∧
    (∀ p ∈ ancestors path, f.get? p = some .folder) ∧
      (pathParts path).any (maxName < ·.utf8ByteSize) = false := by
  simp only [← enter_eq_ok_iff]
  rw [← forM_eq_ok_iff, walk]
  cases path.isEmpty with
  | true => simp [Bind.bind, Except.bind, throw, throwThe, MonadExceptOf.throw]
  | false =>
    cases (ancestors path).forM f.enter with
    | error e => simp [Bind.bind, Except.bind]
    | ok u =>
      cases (pathParts path).any (maxName < ·.utf8ByteSize) <;>
        simp [Bind.bind, Except.bind, pure, Except.pure, throw, throwThe, MonadExceptOf.throw]

/-- Where there were folders on the way, and still are, a path can still be gone through. -/
theorem walk_of_folders (h : f.walk path = .ok ())
    (hkept : ∀ p, f.get? p = some .folder → g.get? p = some .folder) : g.walk path = .ok () := by
  obtain ⟨hne, hfolders, hshort⟩ := walk_eq_ok_iff.mp h
  exact walk_eq_ok_iff.mpr ⟨hne, fun p hp => hkept p (hfolders p hp), hshort⟩

theorem at?_of_parts (h : pathParts path ≠ []) : f.at? path = f.get? (cleanPath path) := by
  have hparts : (pathParts path).isEmpty = false := by simpa using h
  rw [at?, hparts]
  rfl

theorem parts_of_at? (h : f.at? path ≠ some .folder) : pathParts path ≠ [] := by
  intro hparts
  rw [at?, hparts] at h
  exact h rfl

/-- What is at a path is what is at its clean path, unless that is the folder itself. -/
theorem get?_of_at? (h : f.at? path ≠ some .folder) : f.get? (cleanPath path) = f.at? path :=
  (at?_of_parts (parts_of_at? h)).symm

/-! ### Operations -/

theorem look_eq_ok_iff : f.look path = .ok e ↔ f.walk path = .ok () ∧ f.at? path = some e := by
  rw [look]
  cases f.walk path with
  | error cause => simp [Bind.bind, Except.bind]
  | ok u => cases f.at? path <;> simp [Bind.bind, Except.bind, pure, Except.pure, throw, throwThe,
      MonadExceptOf.throw]

theorem read_eq_ok_iff :
    f.read path = .ok content ↔ f.walk path = .ok () ∧ f.at? path = some (.file content) := by
  rw [← look_eq_ok_iff, read]
  cases f.look path with
  | error cause => simp [Bind.bind, Except.bind]
  | ok e => cases e <;> simp [Bind.bind, Except.bind, pure, Except.pure, throw, throwThe,
      MonadExceptOf.throw]

/-- A file can be written at a path: there are folders on the way, and nothing else than a file at its
end. -/
structure Takes (f : Folder α) (path : String) : Prop where
  walk : f.walk path = .ok ()
  free : ∀ e, f.at? path = some e → ∃ content, e = .file content

theorem Takes.not_folder (h : f.Takes path) : f.at? path ≠ some .folder := by
  intro hat
  obtain ⟨content, hfile⟩ := h.free .folder hat
  cases hfile

theorem write_eq_ok_iff : f.write path content = .ok g ↔
    f.Takes path ∧ g = f.insert (cleanPath path) (.file content) := by
  constructor
  · intro h
    rw [write] at h
    cases hwalk : f.walk path with
    | error cause => simp [hwalk, Bind.bind, Except.bind] at h
    | ok u =>
      simp only [hwalk, Bind.bind, Except.bind] at h
      split at h
      · cases h
      · cases h
      · cases h
      · rename_i hfolder hsocket hlink
        cases h
        refine ⟨⟨hwalk, fun e hat => ?_⟩, rfl⟩
        cases e with
        | file content => exact ⟨content, rfl⟩
        | folder => exact absurd hat hfolder
        | socket owner => exact absurd hat (hsocket owner)
        | link => exact absurd hat hlink
  · rintro ⟨⟨hwalk, hfree⟩, rfl⟩
    rw [write, hwalk]
    cases hat : f.at? path with
    | none => rfl
    | some e =>
      obtain ⟨content, rfl⟩ := hfree e hat
      rfl

theorem at?_insert_of_ne (f : Folder α) (e : Entry α) (h : cleanPath path ≠ p) :
    (f.insert p e).at? path = f.at? path := by
  rw [at?, at?, get?_insert_of_ne f e h]

/-- A file where no folder is stands in no other file's way. -/
theorem takes_insert_file_iff (hfolder : f.get? p ≠ some .folder) (hne : cleanPath path ≠ p) :
    (f.insert p (.file content)).Takes path ↔ f.Takes path := by
  have hfolders : ∀ q, (f.insert p (.file content)).get? q = some .folder ↔
      f.get? q = some .folder := by
    intro q
    by_cases hq : q = p
    · simp [hq, hfolder]
    · rw [get?_insert_of_ne f _ hq]
  have hat : (f.insert p (.file content)).at? path = f.at? path := at?_insert_of_ne f _ hne
  constructor
  · rintro ⟨hwalk, hfree⟩
    exact ⟨walk_of_folders hwalk fun q => (hfolders q).mp, hat ▸ hfree⟩
  · rintro ⟨hwalk, hfree⟩
    exact ⟨walk_of_folders hwalk fun q => (hfolders q).mpr, hat ▸ hfree⟩

theorem unlink_eq_ok_iff : f.unlink path = .ok g ↔
    (∃ e, f.look path = .ok e ∧ e ≠ .folder) ∧ g = f.erase (cleanPath path) := by
  rw [unlink]
  cases f.look path with
  | error cause => simp [Bind.bind, Except.bind]
  | ok e => cases e <;> simp [Bind.bind, Except.bind, pure, Except.pure, throw, throwThe,
      MonadExceptOf.throw, eq_comm]

theorem get?_of_unlink (h : f.unlink path = .ok g) (hp : p ≠ cleanPath path) :
    g.get? p = f.get? p := by
  obtain ⟨-, rfl⟩ := unlink_eq_ok_iff.mp h
  exact get?_erase_of_ne f hp

/-- What was taken away was no folder, so the way to it is the same as before. -/
theorem at?_of_unlink (h : f.unlink path = .ok g) : g.walk path = .ok () ∧ g.at? path = none := by
  obtain ⟨⟨e, hlook, he⟩, rfl⟩ := unlink_eq_ok_iff.mp h
  obtain ⟨hwalk, hat⟩ := look_eq_ok_iff.mp hlook
  have hfolder : f.at? path ≠ some .folder := by simpa [hat] using he
  have hget : f.get? (cleanPath path) ≠ some .folder := by rwa [get?_of_at? hfolder]
  refine ⟨walk_of_folders hwalk fun p hp => ?_, ?_⟩
  · have hne : p ≠ cleanPath path := fun heq => hget (heq ▸ hp)
    rwa [get?_erase_of_ne f hne]
  · rw [at?_of_parts (parts_of_at? hfolder), get?_erase_self]

/-- What is at a path is taken away, or nothing happens. -/
theorem remove_eq_or (f : Folder α) (path : String) :
    f.unlink path = .ok (f.remove path) ∨ f.remove path = f ∧ ∃ e, f.unlink path = .error e := by
  rw [remove]
  cases f.unlink path with
  | ok g => exact .inl rfl
  | error e => exact .inr ⟨rfl, e, rfl⟩

theorem get?_of_remove (h : (f.remove path).get? p = some e) : f.get? p = some e := by
  obtain hunlink | ⟨hkept, -⟩ := f.remove_eq_or path
  · by_cases hp : p = cleanPath path
    · obtain ⟨-, hg⟩ := unlink_eq_ok_iff.mp hunlink
      rw [hg, hp, get?_erase_self] at h
      cases h
    · rwa [get?_of_unlink hunlink hp] at h
  · rwa [hkept] at h

theorem isTaken_eq_true_iff :
    f.isTaken path = .ok true ↔ ∃ owner, f.look path = .ok (.socket owner) := by
  rw [isTaken]
  cases f.look path with
  | error cause => cases cause <;> simp
  | ok e => cases e <;> simp

theorem isTaken_eq_false_iff : f.isTaken path = .ok false ↔ f.look path = .error .notFound := by
  rw [isTaken]
  cases f.look path with
  | error cause => cases cause <;> simp
  | ok e => cases e <;> simp

theorem clear_eq_ok_iff : f.clear path = .ok g ↔ f.unlink path = .ok g := mapError_eq_ok_iff

theorem listen_eq_ok_iff : f.listen path owner = .ok g ↔
    path.utf8ByteSize < socketPathLimit ∧ f.walk path = .ok () ∧ f.at? path = none ∧
      g = f.insert (cleanPath path) (.socket owner) := by
  rw [listen]
  by_cases hlong : socketPathLimit ≤ path.utf8ByteSize
  · simp [hlong, Nat.not_lt.mpr hlong]
  · rw [if_neg hlong]
    cases f.walk path with
    | error cause => simp
    | ok u => cases f.at? path <;> simp [Nat.not_le.mp hlong, eq_comm]

theorem get?_of_listen (h : f.listen path owner = .ok g) (hp : p ≠ cleanPath path) :
    g.get? p = f.get? p := by
  obtain ⟨-, -, -, rfl⟩ := listen_eq_ok_iff.mp h
  exact get?_insert_of_ne f _ hp

theorem at?_of_listen (h : f.listen path owner = .ok g) :
    g.walk path = .ok () ∧ g.at? path = some (.socket owner) := by
  obtain ⟨-, hwalk, hat, rfl⟩ := listen_eq_ok_iff.mp h
  have hfolder : f.at? path ≠ some .folder := by simp [hat]
  have hget : f.get? (cleanPath path) = none := by rw [get?_of_at? hfolder, hat]
  refine ⟨walk_of_folders hwalk fun p hp => ?_, ?_⟩
  · rw [get?_insert_of_ne f _ fun heq => ?_, hp]
    rw [heq, hget] at hp
    cases hp
  · rw [at?_of_parts (parts_of_at? hfolder), get?_insert_self]

/-- Where a socket or nothing is, there can be a new socket. -/
theorem bind_of_usable (hshort : path.utf8ByteSize < socketPathLimit) (hwalk : f.walk path = .ok ())
    (hat : f.at? path = none ∨ ∃ o, f.at? path = some (.socket o)) (owner : Nat) :
    ∃ g, f.bind path owner = (g, .ok ()) ∧ g.walk path = .ok () ∧
      g.at? path = some (.socket owner) := by
  obtain ⟨freed, hrelease, hwalk, hat⟩ :
      ∃ freed, f.release path = .ok freed ∧ freed.walk path = .ok () ∧ freed.at? path = none := by
    obtain hnone | ⟨o, hsocket⟩ := hat
    · have hlook : f.look path = .error .notFound := by
        rw [look, hwalk, hnone]
        rfl
      refine ⟨f, ?_, hwalk, hnone⟩
      rw [release, isTaken_eq_false_iff.mpr hlook]
      rfl
    · have hlook : f.look path = .ok (.socket o) := look_eq_ok_iff.mpr ⟨hwalk, hsocket⟩
      have hunlink : f.unlink path = .ok _ := unlink_eq_ok_iff.mpr ⟨⟨_, hlook, nofun⟩, rfl⟩
      refine ⟨_, ?_, at?_of_unlink hunlink⟩
      rw [release, isTaken_eq_true_iff.mpr ⟨o, hlook⟩]
      exact clear_eq_ok_iff.mpr hunlink
  have hlisten : freed.listen path owner = .ok _ :=
    listen_eq_ok_iff.mpr ⟨hshort, hwalk, hat, rfl⟩
  refine ⟨_, ?_, at?_of_listen hlisten⟩
  rw [bind, hrelease]
  simp only [hlisten]

/-! ### Names in a folder -/

/-- A name that is one part of a path. -/
structure IsName (name : String) : Prop where
  whole : '/' ∉ name.toList
  ne_empty : name ≠ ""
  ne_dot : name ≠ "."

variable {dir name other : String}

theorem pathParts_of_name (h : IsName name) : pathParts name = [name] := by
  rw [pathParts, List.splitOn_eq_singleton h.whole]
  simp [h.ne_empty, h.ne_dot]

theorem pathParts_of_toList {front back : List Char} (h : path.toList = front ++ '/' :: back) :
    pathParts path = pathParts (.ofList front) ++ pathParts (.ofList back) := by
  rw [pathParts, h, List.splitOn_append_cons_self, List.map_append, List.filter_append, pathParts,
    pathParts, String.toList_ofList, String.toList_ofList]

/-- A path to something in a folder leads through the parts of the folder's path to the name. -/
theorem pathParts_join (dir : String) (h : IsName name) :
    pathParts (join dir name) = pathParts dir ++ [name] := by
  rw [join]
  split
  · rename_i hlast
    obtain hempty | ⟨front, c, hdir⟩ := List.eq_nil_or_concat dir.toList
    · obtain rfl : dir = "" := String.toList_inj.mp hempty
      rw [String.empty_append, pathParts_of_name h]
      rfl
    · obtain rfl : c = '/' := by simpa [hdir] using hlast
      have hfront : dir.toList = front ++ '/' :: [] := by rw [hdir, List.concat_eq_append]
      have hjoin : (dir ++ name).toList = front ++ '/' :: name.toList := by
        rw [String.toList_append, hfront]
        simp
      rw [pathParts_of_toList hjoin, pathParts_of_toList hfront, String.ofList_toList,
        pathParts_of_name h, List.append_assoc]
      rfl
  · have hjoin : (dir ++ "/" ++ name).toList = dir.toList ++ '/' :: name.toList := by
      rw [String.toList_append, String.toList_append, List.append_assoc]
      rfl
    rw [pathParts_of_toList hjoin, String.ofList_toList, String.ofList_toList, pathParts_of_name h]

theorem root_join (dir : String) (h : IsName name) : root (join dir name) = root dir := by
  have hhead : (join dir name).toList.head? = some '/' ↔ dir.toList.head? = some '/' := by
    cases hdir : dir.toList with
    | nil =>
      obtain rfl : dir = "" := String.toList_inj.mp hdir
      have hname : (join "" name).toList = name.toList := congrArg String.toList String.empty_append
      rw [hname]
      constructor
      · intro hslash
        exact absurd (List.mem_of_head? hslash) h.whole
      · intro hslash
        cases hslash
    | cons c chars =>
      rw [join]
      split <;> simp [String.toList_append, hdir]
  rw [root, root]
  simp only [hhead]

theorem pathParts_join_ne_nil (dir : String) (h : IsName name) : pathParts (join dir name) ≠ [] := by
  rw [pathParts_join dir h]
  simp

theorem cleanPath_join_inj (h : IsName name) (h' : IsName other) :
    cleanPath (join dir name) = cleanPath (join dir other) ↔ name = other := by
  refine ⟨fun heq => ?_, fun heq => heq ▸ rfl⟩
  rw [cleanPath, cleanPath, root_join dir h, root_join dir h', pathParts_join dir h,
    pathParts_join dir h', String.append_right_inj] at heq
  by_cases hparts : pathParts dir = []
  · simpa [hparts] using heq
  · rw [String.intercalate_append_of_ne_nil hparts (by simp),
      String.intercalate_append_of_ne_nil hparts (by simp), String.append_right_inj] at heq
    simpa using heq

end Thumbnailer.Folder
