/-
A folder of files, other folders, sockets and links, by their paths.

* **`Folder.look`** — what is at a path, or why that can not be told.
* **`Folder.unlink`** — takes away what is at a path, unless it is a folder.
* **`Folder.bind`** — a socket to listen on. A socket that is found at its path is removed first;
  anything else there is not touched.

Two things are left out. A part `..` of a path is a name like any other, so it does not lead up to
the folder above. And the only links are those into a folder that is not there, so nothing is ever
read or written by way of a link.
-/
import Thumbnailer.Error

namespace Thumbnailer

inductive Entry (α : Type)
  | file (content : α)
  | folder
  /-- A socket, and the number of the one who listens or listened on it. -/
  | socket (owner : Nat)
  /-- A symbolic link into a folder that is not there. -/
  | link
  deriving DecidableEq, Repr

/-- A folder: what is in it and in the folders below, by path. -/
structure Folder (α : Type) where
  entries : List (String × Entry α)
  deriving DecidableEq, Repr

namespace Folder

variable {α : Type}

/-- The parts of a path; those that mean the folder itself are left out. -/
def pathParts (path : String) : List String :=
  ((path.toList.splitOn '/').map String.ofList).filter fun part => part ≠ "" ∧ part ≠ "."

/-- What a path starts with if it does not start in the folder itself. -/
def root (path : String) : String := if path.toList.head? = some '/' then "/" else ""

/-- A path without what means nothing in it. -/
def cleanPath (path : String) : String := root path ++ "/".intercalate (pathParts path)

def join (folder name : String) : String :=
  if folder.toList.getLast?.all (· == '/') then folder ++ name else folder ++ "/" ++ name

/-- What the folder holds under a clean path. -/
def get? (f : Folder α) (path : String) : Option (Entry α) :=
  (f.entries.find? (·.1 == path)).map (·.2)

/-- The folder without what is at a clean path. -/
def erase (f : Folder α) (path : String) : Folder α :=
  ⟨f.entries.filter (·.1 != path)⟩

/-- The folder with something at a clean path. -/
def insert (f : Folder α) (path : String) (e : Entry α) : Folder α :=
  ⟨(path, e) :: (f.erase path).entries⟩

/-- The clean paths of the folders that a path leads through. -/
def ancestors (path : String) : List String :=
  (List.range ((pathParts path).length - 1)).map fun n =>
    root path ++ "/".intercalate ((pathParts path).take (n + 1))

/-- The longest name that a file may have, in bytes. -/
def maxName : Nat := 255

/-- Whether there is a folder at a clean path. -/
def enter (f : Folder α) (path : String) : Except OsError Unit :=
  match f.get? path with
  | some .folder => .ok ()
  | some .link => .error .notFound
  | some _ => .error .notADirectory
  | none => .error .notFound

/-- Goes through the folders that a path leads through. -/
def walk (f : Folder α) (path : String) : Except OsError Unit := do
  if path.isEmpty then throw .notFound
  (ancestors path).forM f.enter
  if (pathParts path).any (maxName < ·.utf8ByteSize) then throw .nameTooLong

/-- What is at a path that leads through folders; a path without parts is that of the folder
itself. -/
def at? (f : Folder α) (path : String) : Option (Entry α) :=
  if (pathParts path).isEmpty then some .folder else f.get? (cleanPath path)

/-- What is at a path, if anything is; a link is not followed. -/
def look (f : Folder α) (path : String) : Except OsError (Entry α) := do
  f.walk path
  match f.at? path with
  | some e => pure e
  | none => throw .notFound

def read (f : Folder α) (path : String) : Except OsError α := do
  match ← f.look path with
  | .file content => pure content
  | .folder => throw .isADirectory
  | _ => throw .notFound

/-- The folder once a file has a content; it is made if it is not there. -/
def write (f : Folder α) (path : String) (content : α) : Except OsError (Folder α) := do
  f.walk path
  match f.at? path with
  | some .folder => throw .isADirectory
  | some (.socket _) => throw .noSuchDevice
  | some .link => throw .notFound
  | _ => pure (f.insert (cleanPath path) (.file content))

/-- The folder once there is a folder at a path, and all those that lead there. -/
def makeFolders (f : Folder α) (path : String) : Folder α :=
  (ancestors path ++ [cleanPath path]).foldl
    (fun f p => if p.isEmpty || (f.get? p).isSome then f else f.insert p .folder) f

/-- The folder once what is at a path is taken away. -/
def unlink (f : Folder α) (path : String) : Except OsError (Folder α) := do
  match ← f.look path with
  | .folder => throw .isADirectory
  | _ => pure (f.erase (cleanPath path))

/-- The folder without what is at a path, if it can be taken away. -/
def remove (f : Folder α) (path : String) : Folder α :=
  match f.unlink path with
  | .ok f => f
  | .error _ => f

/-! ### Sockets -/

/-- Whether there is a socket at the path of a new one. Nothing else may be there. -/
def isTaken (f : Folder α) (path : String) : Except Error Bool :=
  match f.look path with
  | .ok (.socket _) => .ok true
  | .ok _ => .error (.illegalState (.notASocket path))
  | .error .notFound => .ok false
  | .error e => .error (.io (.system e))

def clear (f : Folder α) (path : String) : Except Error (Folder α) :=
  (f.unlink path).mapError fun e => .io (.system e)

/-- The length that the path of a socket may not reach, in bytes. -/
def socketPathLimit : Nat := 108

/-- The folder with a new socket at a path where nothing is. -/
def listen (f : Folder α) (path : String) (owner : Nat) : Except IoError (Folder α) :=
  if socketPathLimit ≤ path.utf8ByteSize then .error .pathTooLong
  else
    match f.walk path with
    | .error e => .error (.system e)
    | .ok () =>
      if (f.at? path).isSome then .error (.system .addressInUse)
      else .ok (f.insert (cleanPath path) (.socket owner))

/-- Frees the path of a new socket: one that is there is removed. -/
def release (f : Folder α) (path : String) : Except Error (Folder α) := do
  if ← f.isTaken path then f.clear path else pure f

/-- The folder once somebody tried to listen at a path, and how that went. The path has been freed
even if there can be no socket. -/
def bind (f : Folder α) (path : String) (owner : Nat) : Folder α × Except Error Unit :=
  match f.release path with
  | .error e => (f, .error e)
  | .ok f =>
    match f.listen path owner with
    | .error e => (f, .error (.illegalState (.bind path e)))
    | .ok f => (f, .ok ())

/-- Who may use a socket: its owner, for reading and writing. -/
def socketMode : Nat := 0o600

def owner? (f : Folder α) (path : String) : Option Nat :=
  match f.look path with
  | .ok (.socket owner) => some owner
  | _ => none

end Folder

end Thumbnailer
