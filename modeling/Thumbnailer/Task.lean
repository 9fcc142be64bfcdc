/-
Rendering tasks and their outcomes.

* **`Task`** — one picture file and the sizes asked for; their order counts, repeats are honoured.
* **`Outcome`** — one picture for each size, or a failed task with an empty picture for each.
-/
import Thumbnailer.Size

namespace Thumbnailer

/-- The bytes of a path, as the file system uses them. -/
abbrev Path := List UInt8

/-- An encoded picture; no bytes at all stand for a picture that was not made. -/
abbrev Image := List UInt8

structure Task where
  path : Path
  sizes : List Size
  deriving DecidableEq, Repr

inductive Status
  | success
  | failure
  deriving DecidableEq, Repr

namespace Status

def code : Status → UInt32
  | success => 0
  | failure => 1

def text : Status → String
  | success => "OK"
  | failure => "ERROR"

end Status

/-- What became of a task; the picture at a position belongs to the size at that position. -/
structure Outcome where
  status : Status
  images : List Image
  deriving DecidableEq, Repr

namespace Outcome

def success (images : List Image) : Outcome := ⟨.success, images⟩

/-- A failed task with `count` sizes. -/
def failure (count : Nat) : Outcome := ⟨.failure, List.replicate count []⟩

end Outcome

end Thumbnailer
