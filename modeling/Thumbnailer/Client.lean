/-
The other side of a connection: one request is sent, one answer read.

* **`Client.call`** — the answer to one request.
* **`Client.hello`**, **`Client.shutdown`**, **`Client.formats`**, **`Client.generate`** — the calls,
  each of which takes an answer of its own kind only.
-/
import Thumbnailer.Session.Basic

namespace Thumbnailer

/-- What a client meets when it connects and sends its request. -/
inductive Reply
  | unreachable (cause : IoError)
  /-- The request could not be sent to its end. -/
  | unsent (cause : Error)
  | line (l : Link.Line)

structure Client where
  socket : String
  settings : Session.Settings
  deriving DecidableEq, Repr

namespace Client

def call (client : Client) : Reply → Except Error Wire.Response
  | .unreachable cause => .error (.detailedIo (.connect client.socket cause))
  | .unsent cause => .error cause
  | .line l => (l.receive client.settings.maxFrameSize client.settings.readTimeout).result

/-- The failure of a call whose answer is of another kind. -/
def unexpected (request : Wire.Command) (answer : Wire.Response) : Error :=
  .illegalState (.unexpectedAnswer request.kind answer.kind)

/-- Asks whether the worker is alive. -/
def hello (client : Client) (reply : Reply) : Except Error Unit :=
  match client.call reply with
  | .ok .hello => .ok ()
  | .ok other => .error (unexpected .hello other)
  | .error e => .error e

/-- Asks the worker to stop. -/
def shutdown (client : Client) (reply : Reply) : Except Error Unit :=
  match client.call reply with
  | .ok .shutdown => .ok ()
  | .ok other => .error (unexpected .shutdown other)
  | .error e => .error e

/-- Asks for the formats that the worker accepts. -/
def formats (client : Client) (reply : Reply) : Except Error Wire.Formats :=
  match client.call reply with
  | .ok (.formats answer) => .ok answer
  | .ok other => .error (unexpected .formats other)
  | .error e => .error e

/-- Asks for renditions. A task that the worker could not render is no failure of the call. -/
def generate (client : Client) (task : Task) (reply : Reply) : Except Error Wire.Rendered :=
  match client.call reply with
  | .ok (.render answer) => .ok answer
  | .ok other => .error (unexpected (.render task) other)
  | .error e => .error e

end Client

end Thumbnailer
