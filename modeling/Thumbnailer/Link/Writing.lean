/-
Writing a message into a pipe that somebody may read from, or leave.

* **`Pipe`** — a bounded buffer between a writer and a reader.
* **`Demand`** — what the reader does next, and when.
* **`Delivery.run`** — a whole writing: as much as there is room for goes into the pipe at once, and
  more whenever bytes are read; a reader that left breaks the pipe; what is not in the pipe at the
  deadline is late.
-/
import Thumbnailer.Wire.Frame

namespace Thumbnailer.Link

/-- A pipe: the bytes in it, at most `capacity`. -/
structure Pipe where
  capacity : Nat
  bytes : List UInt8
  deriving DecidableEq, Repr

namespace Pipe

def room (p : Pipe) : Nat := p.capacity - p.bytes.length

/-- Puts in as many bytes as find room; the others are left. -/
def put (p : Pipe) (bytes : List UInt8) : Pipe × List UInt8 :=
  ({ p with bytes := p.bytes ++ bytes.take p.room }, bytes.drop p.room)

def take (p : Pipe) (n : Nat) : List UInt8 × Pipe :=
  (p.bytes.take n, { p with bytes := p.bytes.drop n })

end Pipe

/-- What a reader does after some time: it reads exactly so many bytes, and may leave then. -/
structure Demand where
  wait : Nat
  count : Nat
  leaves : Bool
  deriving DecidableEq, Repr

/-- A writing under way: the bytes that are not in the pipe yet, the pipe, and the bytes that were
read. -/
structure Delivery where
  left : List UInt8
  pipe : Pipe
  read : List UInt8
  deriving DecidableEq, Repr

/-- How a writing ended, after how long, and all the bytes that the reader got, also later. -/
structure Delivered where
  result : Except Error Unit
  elapsed : Nat
  read : List UInt8

namespace Delivery

/-- The writer puts in what finds room. -/
def fill (d : Delivery) : Delivery :=
  let (pipe, left) := d.pipe.put d.left
  { d with left := left, pipe := pipe }

/-- A writing that has begun: what finds room is in the pipe. -/
def start (capacity : Nat) (frame : List UInt8) : Delivery :=
  fill ⟨frame, ⟨capacity, []⟩, []⟩

/-- The reader takes what is there, at most `count` bytes. -/
def draw (d : Delivery) (count : Nat) : Delivery :=
  let (bytes, pipe) := d.pipe.take count
  { d with pipe := pipe, read := d.read ++ bytes }

/-- Reader and writer take turns until the reader has `count` more bytes or the writer has no more;
tells how many are still missing. The writer does not get its turn after the last bytes; `fuel` bounds
the number of turns. -/
def drawAll : Nat → Nat → Delivery → Delivery × Nat
  | 0, count, d => (d, count)
  | fuel + 1, count, d =>
    let missing := count - d.pipe.bytes.length
    let d := d.draw count
    if missing = 0 then (d, 0)
    else
      let filled := d.fill
      if filled.pipe.bytes.isEmpty then (d, missing) else drawAll fuel missing filled

/-- What the reader gets from its demands once the writing has ended. -/
def readOn : List Demand → Delivery → List UInt8
  | [], d => d.read
  | a :: rest, d =>
    let missing := a.count - d.pipe.bytes.length
    let d := d.draw a.count
    if missing = 0 && !a.leaves then readOn rest d else d.read

/-- How a writing goes on when the reader follows its demands; `elapsed` has passed, `budget` is left
until the deadline. -/
def follow (size elapsed budget : Nat) : List Demand → Delivery → Delivered
  | demands, d =>
    if d.left.isEmpty then ⟨.ok (), elapsed, readOn demands d⟩
    else
      match demands with
      | [] => ⟨.error (.late (.writing size)), elapsed + budget, d.read⟩
      | a :: rest =>
        if a.wait < budget then
          let (d, missing) := drawAll (a.count + 1) a.count d
          let elapsed := elapsed + a.wait
          if missing = 0 && a.leaves then
            -- the writer may have put in its last bytes while these were read
            ⟨if d.left.isEmpty then .ok () else .error (.io .pipeBroken), elapsed, d.read⟩
          else
            match rest with
            | b :: _ =>
              if missing = 0 && b.wait = 0 then
                follow size elapsed (budget - a.wait) rest d
              else follow size elapsed (budget - a.wait) rest d.fill
            | [] => follow size elapsed (budget - a.wait) rest d.fill
        else ⟨.error (.late (.writing size)), elapsed + budget, readOn demands d⟩

/-- Writes a frame into an empty pipe, which has to take all of it before `timeout` has passed. A
reader that wants nothing and leaves at once is gone before the writing begins. -/
def run (capacity timeout : Nat) (frame : List UInt8) (demands : List Demand) : Delivered :=
  match demands with
  | ⟨0, 0, true⟩ :: _ => ⟨.error (.io .pipeBroken), 0, []⟩
  | _ => follow frame.length 0 timeout demands (start capacity frame)

end Delivery

end Thumbnailer.Link
