/-
Several servers at one path.

A server makes itself a socket in steps: it looks at what is at the path, takes away a socket that it
found, listens, and restricts who may use the socket.  When it stops, it takes away what is at the
path.  The steps of other servers may come between its own.

* **`Neighbours`** — the folder, and where each server is.
* **`Neighbours.step?`** — the state after a step of a server, if the server can take it.
* **`Neighbours.Reachable`** — the states that some run leads to.
-/
import Thumbnailer.Folder

namespace Thumbnailer

namespace Neighbours

inductive Stage
  | waiting
  /-- It found a socket, and takes it away next. -/
  | clearing
  /-- Nothing was at the path any more; it listens next. -/
  | landing
  /-- It listens, and restricts who may use its socket next. -/
  | opened
  | listening
  | left
  | failed (cause : Error)
  deriving DecidableEq, Repr

inductive Act
  | look
  | clear
  | listen
  | restrict
  | leave
  deriving DecidableEq, Repr

end Neighbours

/-- A state of servers with numbers of their own, and of the folder that their path is in. -/
structure Neighbours (α : Type) where
  folder : Folder α
  stage : Nat → Neighbours.Stage
  /-- The servers that made themselves a socket, the first to do so first. -/
  bound : List Nat

namespace Neighbours

variable {α : Type}

def start (folder : Folder α) : Neighbours α := ⟨folder, fun _ => .waiting, []⟩

/-- One server goes on to a stage. -/
def move (s : Neighbours α) (id : Nat) (stage : Stage) : Neighbours α :=
  { s with stage := fun other => if other = id then stage else s.stage other }

/-- The state after a step of a server, if the server can take it. -/
def step? (path : String) (s : Neighbours α) (id : Nat) (act : Act) : Option (Neighbours α) :=
  match act, s.stage id with
  | .look, .waiting =>
    match s.folder.isTaken path with
    | .ok true => some (s.move id .clearing)
    | .ok false => some (s.move id .landing)
    | .error e => some (s.move id (.failed e))
  | .clear, .clearing =>
    match s.folder.clear path with
    | .ok folder => some { s.move id .landing with folder := folder }
    | .error e => some (s.move id (.failed e))
  | .listen, .landing =>
    match s.folder.listen path id with
    | .ok folder => some { s.move id .opened with folder := folder, bound := s.bound ++ [id] }
    | .error e => some (s.move id (.failed (.illegalState (.bind path e))))
  | .restrict, .opened =>
    match s.folder.look path with
    | .ok _ => some (s.move id .listening)
    | .error e => some (s.move id (.failed (.io (.system e))))
  | .leave, .listening => some { s.move id .left with folder := s.folder.remove path }
  | _, _ => none

/-- The states that some run of servers at a path leads to, with any folder to begin with. -/
inductive Reachable (path : String) (folder : Folder α) : Neighbours α → Prop
  | start : Reachable path folder (start folder)
  | next {s t : Neighbours α} (id : Nat) (act : Act) :
    Reachable path folder s → s.step? path id act = some t → Reachable path folder t

end Neighbours

end Thumbnailer
