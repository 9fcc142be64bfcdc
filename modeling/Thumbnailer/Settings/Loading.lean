/-
The settings of a worker, out of a file and the environment.

* **`Settings.form`** — the four sections and their fields.
* **`Settings.find`** — the file that a path means: the file itself, or one whose name goes on with
  the extension of a known format. Without such a file only the environment counts.
* **`Settings.ofEnvironment`** — the settings among the variables of the environment.
* **`Settings.load`** — file first, environment over it, then conversion, then validation.
-/
import Thumbnailer.Folder
import Thumbnailer.Settings.Basic
import Thumbnailer.Settings.Conversion
import Thumbnailer.Settings.Json
import Thumbnailer.Settings.Toml.Document

namespace Thumbnailer.Settings

/-! ### Forms -/

/-- A field that holds a number of 64 binary digits. -/
def wordField {σ : Type} (name : String) (put : UInt64 → σ → σ) : Field σ :=
  ⟨name, fun v => put <$> v.toWord64⟩

/-- The section about the network. -/
def networkForm : Form Network where
  title := "NetworkConfig"
  fields := [⟨"socket_path", fun v => (fun t s => { s with socketPath := t }) <$> v.toText⟩,
    wordField "max_frame_size" fun n s => { s with maxFrameSize := n }]
  standard := standard.network

/-- The section about deadlines. -/
def protocolForm : Form Protocol where
  title := "ProtocolConfig"
  fields := [wordField "read_timeout" fun n s => { s with readTimeout := n },
    wordField "write_timeout" fun n s => { s with writeTimeout := n }]
  standard := standard.protocol

/-- The section about the worker pool. -/
def workerPoolForm : Form WorkerPool where
  title := "WorkerPoolSection"
  fields := [wordField "thread_count" fun n s => { s with threadCount := n },
    wordField "max_queue_size" fun n s => { s with maxQueueSize := n },
    wordField "monitor_interval" fun n s => { s with monitorInterval := n }]
  standard := standard.workerPool

/-- The section about pictures. -/
def picturesForm : Form Pictures where
  title := "ImageSection"
  fields := [wordField "max_decoded_pixels" fun n s => { s with maxDecodedPixels := n },
    ⟨"jpeg_quality", fun v => (fun n s => { s with jpegQuality := n }) <$> v.toByte⟩]
  standard := standard.pictures

/-- All settings. -/
def form : Form Settings where
  title := "WorkerConfig"
  fields := [⟨"network", fun v => (fun x s => { s with network := x }) <$> networkForm.read v⟩,
    ⟨"protocol", fun v => (fun x s => { s with protocol := x }) <$> protocolForm.read v⟩,
    ⟨"worker_pool", fun v => (fun x s => { s with workerPool := x }) <$> workerPoolForm.read v⟩,
    ⟨"image", fun v => (fun x s => { s with pictures := x }) <$> picturesForm.read v⟩]
  standard := standard

/-! ### Files -/

/-- A format of settings files. -/
inductive Format
  | toml
  | json
  deriving DecidableEq, Repr

namespace Format

/-- The extension of a format's files. -/
def extension : Format → String
  | toml => "toml"
  | json => "json"

/-- The formats, in the order in which their extensions are tried. -/
def all : List Format := [toml, json]

/-- The entries that a text in a format holds. -/
def parse? : Format → List Char → Option Entries
  | toml => Toml.parse?
  | json => Json.parse?

end Format

/-- The extension of a file name: what follows its last point, unless nothing stands before it. -/
def extensionOf (path : String) : String :=
  let name := ((Folder.pathParts path).getLast?).getD ""
  match (name.splitOn ".").reverse with
  | last :: _ :: rest => if rest.isEmpty && name.startsWith "." then "" else last
  | _ => ""

/-- A settings file: the name under which errors show it, its format, and its text. -/
structure File where
  name : String
  format : Format
  text : List Char

/-- The text of the bytes of a settings file, without a byte order mark. -/
def textOf (bytes : List UInt8) : List Char :=
  Text.Utf8.decodeLossy (if bytes.take 3 = [0xEF, 0xBB, 0xBF] then bytes.drop 3 else bytes)

/-- The settings file that a path means, among the files that `read?` finds. -/
def find (read? : String → Option (List UInt8)) (path : String) : Option File :=
  let name := Folder.cleanPath path
  match (if path.endsWith "/" then none else read? name) with
  | some bytes =>
    (Format.all.find? (·.extension == extensionOf name)).map fun f => ⟨name, f, textOf bytes⟩
  | none =>
    if name.isEmpty then none
    else
      Format.all.findSome? fun f =>
        let name := name ++ "." ++ f.extension
        (read? name).map fun bytes => ⟨name, f, textOf bytes⟩

/-! ### Environment -/

/-- What the names of variables that hold settings start with, in lower case. -/
def variableMark : List Char := "gfxworker__".toList

/-- A name with points in the place of pairs of low lines. -/
def pointed : List Char → List Char
  | '_' :: '_' :: rest => '.' :: pointed rest
  | c :: rest => c :: pointed rest
  | [] => []

/-- The path to the setting that a variable holds. -/
def variablePath? (name : String) : Option String :=
  let name := (lower name).toList
  if variableMark.isPrefixOf name then
    some (String.ofList (pointed (name.drop variableMark.length)))
  else none

/-- The settings among the variables of the environment. -/
def ofEnvironment (vars : List (String × String)) : Entries :=
  vars.filterMap fun (name, value) =>
    (variablePath? name).map fun path => (path, .scalar (some "the environment") (.text value))

/-! ### Loading -/

/-- The settings once some entries, whose keys are paths, are put in. -/
def putAll (root : Value) (entries : Entries) : Value :=
  entries.foldl (fun root (path, v) => (KeyPath.parse path).put v root) root

/-- The entries of the file that a path means; none if there is no such file. -/
def ofFile (read? : String → Option (List UInt8)) (path : String) :
    Except SettingsError Entries :=
  match find read? path with
  | none => .ok []
  | some file =>
    match file.format.parse? file.text with
    | some entries => .ok (Value.sourcedEntries file.name entries)
    | none => .error .syntaxError

/-- The settings in a file and an environment, before they are validated. -/
def merged (read? : String → Option (List UInt8)) (vars : List (String × String))
    (path : String) : Except SettingsError Settings := do
  let entries ← ofFile read? path
  let root := putAll (putAll (.table none []) entries) (ofEnvironment vars)
  (form.read root).mapError fun m => .value m.message

/-- The settings of a worker, out of the files that `read?` finds and the environment. -/
def load (read? : String → Option (List UInt8)) (vars : List (String × String))
    (path : Path) : Except Error Settings :=
  match Text.Utf8.toString? path with
  | .error _ => .error (.invalidValue (.settingsPath (Text.Utf8.toStringLossy path)))
  | .ok path => do
    let settings ← (merged read? vars path).mapError .settings
    settings.validate.mapError .invalidValue
    pure settings

end Thumbnailer.Settings
