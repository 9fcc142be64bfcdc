/-
Requests and answers, and their payloads.

* **`Command`**, **`Response`** — the messages of the two sides.
* **`Command.payload`**, **`Command.ofPayload`** — writing and reading a request's payload; the
  same for answers. A payload is read to its last byte or refused.
* **`Side`** — what both kinds of messages have in common, so that one reader serves both.
-/
import Thumbnailer.Task
import Thumbnailer.Wire.Layout

namespace Thumbnailer.Wire

/-- The answer to a rendering request. -/
structure Rendered where
  code : UInt32
  text : String
  images : List Image
  deriving DecidableEq, Repr

/-- The answer built from what became of a task. -/
def Rendered.ofOutcome (o : Outcome) : Rendered := ⟨o.status.code, o.status.text, o.images⟩

/-- The file name extensions a worker accepts. -/
structure Formats where
  pictures : String
  videos : String
  deriving DecidableEq, Repr

/-- A request; every connection brings one. -/
inductive Command
  | hello
  | shutdown
  | render (task : Task)
  | formats
  deriving DecidableEq, Repr

/-- An answer, of one kind for each kind of request. -/
inductive Response
  | hello
  | shutdown
  | render (answer : Rendered)
  | formats (answer : Formats)
  deriving DecidableEq, Repr

/-- Accepts the message read from a payload if the payload ends with it. -/
def allRead {α : Type} (kind : Kind) : Except Malformed α × List UInt8 → Except Malformed α
  | (.error e, _) => .error e
  | (.ok a, rest) => if rest.isEmpty then .ok a else .error (.trailing rest.length kind)

/-- Takes the payload of a rendering request. -/
def readTask : Reader Task :=
  (Layout.path.read).andThen fun path =>
    ((Layout.list .size).read).andThen fun sizes => Reader.done ⟨path, sizes⟩

/-- Takes the payload of an answer to a rendering request. -/
def readRendered : Reader Rendered :=
  (Layout.word.read).andThen fun code =>
    (Layout.text.read).andThen fun text =>
      ((Layout.list .bytes).read).andThen fun images => Reader.done ⟨code, text, images⟩

/-- Takes the payload of an answer about formats. -/
def readFormats : Reader Formats :=
  (Layout.text.read).andThen fun pictures =>
    (Layout.text.read).andThen fun videos => Reader.done ⟨pictures, videos⟩

namespace Command

/-- Whether the request asks the worker to stop. -/
def isShutdown : Command → Bool
  | shutdown => true
  | _ => false

/-- The kind of a request. -/
def kind : Command → Kind
  | hello => .hello
  | shutdown => .shutdown
  | render _ => .render
  | formats => .formats

/-- The payload of a request. -/
def payload : Command → List UInt8
  | render task => Layout.path.write task.path ++ (Layout.list .size).write task.sizes
  | _ => []

/-- Takes a request of a given kind off a buffer. -/
def reader : Kind → Reader Command
  | .hello => Reader.done hello
  | .shutdown => Reader.done shutdown
  | .formats => Reader.done formats
  | .render => readTask.andThen fun task => Reader.done (render task)
  | kind => fun buffer => (.error (.notRequest kind), buffer)

/-- The request of a given kind with a given payload. -/
def ofPayload (kind : Kind) (payload : List UInt8) : Except Malformed Command :=
  allRead kind (reader kind payload)

end Command

namespace Response

/-- The kind of an answer. -/
def kind : Response → Kind
  | hello => .helloResponse
  | shutdown => .shutdownResponse
  | render _ => .renderResponse
  | formats _ => .formatsResponse

/-- The payload of an answer. -/
def payload : Response → List UInt8
  | render answer =>
    Layout.word.write answer.code ++ Layout.text.write answer.text ++
      (Layout.list .bytes).write answer.images
  | formats answer => Layout.text.write answer.pictures ++ Layout.text.write answer.videos
  | _ => []

/-- Takes an answer of a given kind off a buffer. -/
def reader : Kind → Reader Response
  | .helloResponse => Reader.done hello
  | .shutdownResponse => Reader.done shutdown
  | .renderResponse => readRendered.andThen fun answer => Reader.done (render answer)
  | .formatsResponse => readFormats.andThen fun answer => Reader.done (formats answer)
  | kind => fun buffer => (.error (.notResponse kind), buffer)

/-- The answer of a given kind with a given payload. -/
def ofPayload (kind : Kind) (payload : List UInt8) : Except Malformed Response :=
  allRead kind (reader kind payload)

end Response

/-- A message of either side: its kind, its payload, and how payloads of that side are read. -/
class Side (α : Type) where
  kind : α → Kind
  payload : α → List UInt8
  ofPayload : Kind → List UInt8 → Except Malformed α

instance : Side Command := ⟨Command.kind, Command.payload, Command.ofPayload⟩

instance : Side Response := ⟨Response.kind, Response.payload, Response.ofPayload⟩

end Thumbnailer.Wire
