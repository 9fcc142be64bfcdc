/-
Reading one message from a connection, in pieces and in time.

* **`Reading`** — how far the reading of a message has come: it waits for the rest of a header, or
  of the payload that a header announced.
* **`Reading.feed`** — goes on with bytes that arrived; it takes what it waits for and no more.
* **`Line`** — what a connection still brings, and when.
* **`Line.receive`** — reads one message; header and payload share one deadline. A rejected header
  ends the reading at once, and an announced payload of no bytes is not waited for.
-/
import Thumbnailer.Wire.Frame

namespace Thumbnailer.Link

inductive Stage
  | header
  | payload (header : Wire.Header)
  deriving DecidableEq, Repr

namespace Stage

def size : Stage → Nat
  | header => Wire.Header.size
  | payload h => h.payloadLength

end Stage

/-- How far a reading has come. -/
structure Reading where
  stage : Stage
  /-- The bytes of the stage that are there. -/
  got : List UInt8
  deriving DecidableEq, Repr

inductive Progress (α : Type)
  | waiting (r : Reading)
  | done (result : Except Error α)

namespace Reading

variable {α : Type} [Wire.Side α]

def start : Reading := ⟨.header, []⟩

def missing (r : Reading) : Nat := r.stage.size - r.got.length

/-- The failure of a reading whose deadline passes. -/
def late (r : Reading) : Error := .late (.reading r.stage.size)

/-- Goes on with the bytes of a payload. -/
def feedPayload (h : Wire.Header) (got bytes : List UInt8) : Progress α × List UInt8 :=
  let all := got ++ bytes.take (h.payloadLength - got.length)
  if all.length < h.payloadLength then (.waiting ⟨.payload h, all⟩, [])
  else (.done (Wire.decode h.kind all), bytes.drop (h.payloadLength - got.length))

/-- Goes on with the bytes of a header, and with those of the payload behind it. -/
def feedHeader (limit : Nat) (got bytes : List UInt8) : Progress α × List UInt8 :=
  let all := got ++ bytes.take (Wire.Header.size - got.length)
  let rest := bytes.drop (Wire.Header.size - got.length)
  if all.length < Wire.Header.size then (.waiting ⟨.header, all⟩, [])
  else
    match Wire.Header.parse limit all with
    | .error e => (.done (.error e), rest)
    | .ok h => feedPayload h [] rest

/-- Goes on with bytes that arrived, and tells which of them are left. -/
def feed (limit : Nat) (r : Reading) (bytes : List UInt8) : Progress α × List UInt8 :=
  match r.stage with
  | .header => feedHeader limit r.got bytes
  | .payload h => feedPayload h r.got bytes

end Reading

/-- Bytes that arrive together, some time after those before them. -/
structure Arrival where
  wait : Nat
  bytes : List UInt8
  /-- Whether they are the last, and the failure that a further read then meets. -/
  close : Option IoError
  deriving DecidableEq, Repr

/-- What a connection brings: the bytes that are there, the failure behind them if nothing more can
come, and the bytes on their way. -/
structure Line where
  ready : List UInt8
  closed : Option IoError
  coming : List Arrival
  deriving DecidableEq, Repr

/-- How a reading ended: with what, after how long, and what the connection still brings. -/
structure Received (α : Type) where
  result : Except Error α
  elapsed : Nat
  line : Line

namespace Line

variable {α : Type} [Wire.Side α]

/-- A connection on which nothing has arrived. -/
def ofArrivals (coming : List Arrival) : Line := ⟨[], none, coming⟩

/-- Reads on: `elapsed` has passed, `budget` is left until the deadline. What arrives at the deadline
is too late. -/
def receiveFrom (limit elapsed budget : Nat) (r : Reading) (ready : List UInt8)
    (closed : Option IoError) (coming : List Arrival) : Received α :=
  match r.feed limit ready with
  | (.done result, rest) => ⟨result, elapsed, ⟨rest, closed, coming⟩⟩
  | (.waiting r, _) =>
    match closed, coming with
    | some e, _ => ⟨.error (.io e), elapsed, ⟨[], closed, coming⟩⟩
    | none, [] => ⟨.error r.late, elapsed + budget, ⟨[], none, []⟩⟩
    | none, a :: rest =>
      if a.wait < budget then
        receiveFrom limit (elapsed + a.wait) (budget - a.wait) r a.bytes a.close rest
      else
        ⟨.error r.late, elapsed + budget, ⟨[], none, { a with wait := a.wait - budget } :: rest⟩⟩
termination_by coming.length

/-- Reads one message, which has to be complete before `timeout` has passed. -/
def receive (limit timeout : Nat) (l : Line) : Received α :=
  receiveFrom limit 0 timeout .start l.ready l.closed l.coming

/-- Reads some messages one after another, each with its own deadline. -/
def receiveTimes (limit timeout : Nat) : Nat → Line → List (Received α)
  | 0, _ => []
  | n + 1, l =>
    let r := l.receive limit timeout
    r :: receiveTimes limit timeout n r.line

end Line

end Thumbnailer.Link
