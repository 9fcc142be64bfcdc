/-
What commands do: in a working folder, with an environment, and with a worker that may listen there.

* **`World`** — all that a command meets and may change.
* **`Ended`** — the exit code of a command and what it printed.
* **`World.run`** — one command. A worker that it starts goes on after it.
* **`World.interrupt`** — the user's signal to a running worker.
* **`Saving.all`** — the files that renditions are written to.
-/
import Thumbnailer.Command.Line
import Thumbnailer.Command.Variables
import Thumbnailer.Service.Worker
import Thumbnailer.Settings.Loading

namespace Thumbnailer

/-- How a command ended. -/
structure Ended where
  code : Nat
  out : String
  err : String
  deriving DecidableEq, Repr

namespace Ended

/-- A command that did what it was asked to. -/
def done (out : String) : Ended := ⟨0, out, ""⟩

/-- A command that failed. -/
def failed (out : String) (e : Error) : Ended := ⟨1, out, s!"Error: {e.report}\n"⟩

/-- A command that broke down. -/
def crashed (cause : String) : Ended := ⟨101, "", cause ++ "\n"⟩

/-- The code of a command that was not understood. -/
def misuse : Ended := ⟨2, "", ""⟩

end Ended

/-- The name and the version of the program. -/
def versionLine : String := "gfxworker 0.1.0"

/-! ### Renditions as files -/

namespace Saving

/-- The name of the file of a rendition. -/
def name (index : Nat) (size : Size) : String := s!"{index}_{size.text}.jpg"

/-- What is kept while renditions are written: the folder, and the lines to print. -/
structure State where
  folder : Folder Source
  lines : List String

/-- Writes one rendition. -/
def one (dir : String) (index : Nat) (size : Size) (image : Image) (s : State) :
    Except OsError State :=
  let path := Folder.join dir (name index size)
  (s.folder.write path (.bytes image)).map fun folder =>
    ⟨folder, s.lines ++ [s!"{size.text} -> {path}"]⟩

/-- Writes renditions, the first of which has a number, until one can not be written. -/
def allFrom (dir : String) : Nat → List (Size × Image) → State → State × Option OsError
  | _, [], s => (s, none)
  | index, (size, image) :: rest, s =>
    match one dir index size image s with
    | .ok s => allFrom dir (index + 1) rest s
    | .error e => (s, some e)

/-- Writes renditions into a folder. -/
def all (dir : String) (renditions : List (Size × Image)) (s : State) : State × Option OsError :=
  allFrom dir 0 renditions s

/-- The line about a rendition that is not written. -/
def sizeLine : Size × Image → String
  | (size, image) => s!"{size.text}: {image.length} bytes"

end Saving

/-- A worker, the path of its socket, and how it reads and writes pictures. -/
structure Serving where
  /-- The number by which its socket is known. -/
  number : Nat
  socket : String
  pictures : PictureSettings
  worker : Worker

/-- All that a command meets. -/
structure World where
  folder : Folder Source
  environment : Variables
  /-- The number of processors. -/
  processors : Nat
  /-- The worker that listens. -/
  serving? : Option Serving

namespace World

/-- A number by which the socket of no running worker is known. -/
def freeNumber (w : World) : Nat :=
  match w.serving? with
  | some s => s.number + 1
  | none => 1

/-- Lines as they are printed. -/
def printed (lines : List String) : String := String.join (lines.map (· ++ "\n"))

/-! ### Settings -/

/-- The bytes of a file of the working folder. -/
def bytes? (w : World) (path : String) : Option (List UInt8) :=
  match w.folder.read path with
  | .ok (.bytes b) => some b
  | _ => none

/-- The file whose variables are added to the environment. -/
def variablesFile : String := ".env"

/-- The environment with the variables of the working folder. -/
def allVariables (w : World) : Variables :=
  match (w.bytes? variablesFile).map Text.Utf8.toString? with
  | some (.ok text) => w.environment.extend text
  | _ => w.environment

/-- Where settings are looked for if no path is given. -/
def settingsPath : String := "./conf.toml"

/-- The settings that a command is run with. -/
def settings (w : World) (line : CommandLine) : Except Error Settings :=
  Settings.load w.bytes? w.allVariables
    (Text.Utf8.ofString (line.settingsPath?.getD settingsPath))

/-! ### Calls -/

/-- Why nobody can be reached at the path of a socket. -/
def refusal (w : World) (socket : String) : IoError :=
  if Folder.socketPathLimit ≤ socket.utf8ByteSize then .pathTooLong
  else
    match w.folder.look socket with
    | .ok _ => .system .connectionRefused
    | .error e => .system e

/-- The picture that a worker finds at a path. -/
def picture (folder : Folder Source) (path : Path) : Except IoError Source :=
  match Text.Utf8.toString? path with
  | .ok path => (folder.read path).mapError .system
  | .error _ => .error (.system .notFound)

/-- What is left once a worker has ended: its socket is gone. -/
def settle (w : World) : World :=
  match w.serving? with
  | some s =>
    if s.worker.ended then { w with folder := w.folder.remove s.socket, serving? := none } else w
  | none => w

/-- One connection to the worker at a socket; the worker finds the pictures that are there now. -/
def call (w : World) (socket : String) (request : Wire.Command) : World × Reply :=
  match w.serving? with
  | some s =>
    if w.folder.owner? socket = some s.number then
      let provider := pictureProvider s.pictures (picture w.folder)
      let (worker, reply, _) := (s.worker.withProvider provider).call request
      (settle { w with serving? := some { s with worker := worker } }, reply)
    else (w, .unreachable (w.refusal socket))
  | none => (w, .unreachable (w.refusal socket))

/-- How a call ended that leaves lines to print. -/
def ended : Except Error (List String) → Ended
  | .ok lines => .done (printed lines)
  | .error e => .failed "" e

/-- What becomes of the renditions that a worker answered with. -/
def deliver (w : World) (sizes : List Size) (dir? : Option String) (answer : Wire.Rendered) :
    World × Ended :=
  let head := s!"{answer.code.toNat} {answer.text}"
  if answer.code ≠ 0 then
    (w, .failed (printed [head]) (.illegalState (.notRendered answer.text)))
  else
    let renditions := sizes.zip answer.images
    match dir? with
    | none => (w, .done (printed (head :: renditions.map Saving.sizeLine)))
    | some dir =>
      let (s, failure?) := Saving.all dir renditions ⟨w.folder, [head]⟩
      let w := { w with folder := s.folder }
      match failure? with
      | none => (w, .done (printed s.lines))
      | some e => (w, .failed (printed s.lines) (.io (.system e)))

/-- The request of a command that is a call. -/
def request? : Command → Option Wire.Command
  | .hello => some .hello
  | .shutdown => some .shutdown
  | .formats => some .formats
  | .render path sizes _ => some (.render ⟨Text.Utf8.ofString path, sizes⟩)
  | _ => none

/-- What a command makes of what its client met. -/
def receive (w : World) (client : Client) (reply : Reply) : Command → World × Ended
  | .hello => (w, ended ((fun _ => ["worker is alive"]) <$> client.hello reply))
  | .shutdown => (w, ended ((fun _ => ["worker is shutting down"]) <$> client.shutdown reply))
  | .formats =>
    (w, ended ((fun f => [s!"formats: {f.pictures}", s!"video formats: {f.videos}"]) <$>
      client.formats reply))
  | .render path sizes dir? =>
    match client.generate ⟨Text.Utf8.ofString path, sizes⟩ reply with
    | .ok answer => w.deliver sizes dir? answer
    | .error e => (w, .failed "" e)
  | _ => (w, .done "")

/-- Lets a client make the call of a command. -/
def runClient (w : World) (client : Client) (command : Command) : World × Ended :=
  match request? command with
  | some request =>
    let (w, reply) := w.call client.socket request
    w.receive client reply command
  | none => (w, .done "")

/-! ### Serving -/

/-- Where the log is written if no folder is given. -/
def logFolder : String := "./log"

/-- Starts a worker in the working folder. One that can not listen ends at once; one that can not set
up its pool leaves its socket behind. -/
def serve (w : World) (line : CommandLine) (s : Settings) : World × Option Ended :=
  let w := { w with folder := w.folder.makeFolders (line.logFolder?.getD logFolder) }
  let socket := s.network.socketPath
  let (folder, bound) := w.folder.bind socket w.freeNumber
  let started := { w with folder := folder }
  match bound with
  | .error e => (started, some (.failed "" e))
  | .ok () =>
    let pool := s.pool w.processors
    match pool.unusable? with
    | some cause => (started, some (.crashed cause))
    | none =>
      let provider := pictureProvider s.pictureSettings (picture folder)
      ({ started with serving? := some ⟨w.freeNumber, socket, s.pictureSettings,
        .start provider s.session pool⟩ }, none)

/-- Runs a command; of a worker that was started and goes on, there is no end yet. -/
def run (w : World) (args : List String) : World × Option Ended :=
  match CommandLine.read args with
  | .misuse => (w, some .misuse)
  | .help => (w, some (.done ""))
  | .version => (w, some (.done (printed [versionLine])))
  | .run line =>
    match w.settings line with
    | .error e => (w, some (.failed "" e))
    | .ok s =>
      match line.command with
      | .serve => w.serve line s
      | .printSettings => (w, some (.done (printed s.listing)))
      | command =>
        let (w, e) := w.runClient ⟨s.network.socketPath, s.session⟩ command
        (w, some e)

/-- Tells a running worker to stop. -/
def interrupt (w : World) : World :=
  settle { w with serving? := w.serving?.map fun s => { s with worker := s.worker.stop } }

end World

end Thumbnailer
