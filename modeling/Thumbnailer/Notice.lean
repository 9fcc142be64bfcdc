/-
What the worker tells its operator: the errors and warnings that it logs.

* **`Notice`** — one logged event by cause; `Notice.line` is its severity and wording.
-/
import Thumbnailer.Error
import Thumbnailer.Task

namespace Thumbnailer

/-- How a computation broke down: with a text, or with a value that is none. -/
inductive Panic
  | text (message : String)
  | value
  deriving DecidableEq, Repr

inductive Severity
  | error
  | warning
  deriving DecidableEq, Repr

namespace Severity

def mark : Severity → String
  | error => "ERROR"
  | warning => "WARN"

end Severity

inductive Notice
  /-- A task came without sizes. -/
  | emptyTask (path : Path)
  | providerFailed (path : Path) (cause : Error)
  /-- The provider's answer does not have one picture for each size. -/
  | wrongCount (images sizes : Nat) (path : Path)
  | renderingAborted (sizes : Nat) (cause : Panic)
  /-- A connection did not bring a request. -/
  | unreadable (cause : Error)
  /-- A request did not get into the queue. -/
  | refused (kind : Wire.Kind) (cause : Error)
  /-- An answer did not get to the client. -/
  | unanswered (kind : Wire.Kind) (cause : Error)
  | workerPanicked (worker : Nat) (cause : Panic)
  /-- A worker that broke down is replaced. -/
  | workerRestarted (worker : Nat)
  /-- The worker can not listen on its socket. -/
  | notListening (cause : Error)
  deriving DecidableEq, Repr

namespace Notice

/-- The wording of a breakdown that ended a rendering. The number of the computation differs from
run to run and is not kept. -/
def aborted : Panic → String
  | .text message => s!"task N panicked with message {Text.quoted message}"
  | .value => "task N panicked"

/-- The wording of a breakdown that ended a worker. -/
def brokeDown : Panic → String
  | .text message => s!"panicked with message: {message}"
  | .value =>
    "panicked with an unknown type: alloc::boxed::Box<dyn core::any::Any + core::marker::Send>"

def severity : Notice → Severity
  | workerRestarted _ => .warning
  | _ => .error

/-- The wording of a notice; paths are shown as far as they are text. -/
def text : Notice → String
  | emptyTask path => s!"received empty dimensions for {Text.Utf8.toStringLossy path}"
  | providerFailed path cause =>
    s!"generate images for {Text.Utf8.toStringLossy path} failed: {cause.message}"
  | wrongCount images sizes path =>
    s!"provider returned {images} images for {sizes} sizes of {Text.Utf8.toStringLossy path}"
  | renderingAborted sizes cause => s!"rendering {sizes} sizes aborted: {aborted cause}"
  | unreadable cause => s!"dropping connection, failed to read command: {cause.message}"
  | refused kind cause => s!"dropping {kind.text} connection: {cause.message}"
  | unanswered kind cause => s!"failed to answer {kind.text}: {cause.message}"
  | workerPanicked worker cause => s!"Worker {worker} {brokeDown cause}"
  | workerRestarted worker => s!"Worker {worker} failed, restarting..."
  | notListening cause =>
    match cause with
    | .illegalState reason => reason.message
    | cause => cause.message

def line (n : Notice) : String := s!"{n.severity.mark} {n.text}"

end Notice

end Thumbnailer
