/-
The program.

It does the command of its arguments in the current folder: the files that the command names are
loaded into a `World`, the command is run there, and what it wrote is stored. A worker that the
command starts lives on in this process and takes further commands from standard input, one a line,
words between blanks, until it is shut down; the end of the input interrupts it.

Reading and writing are all that happens here. What a command does is said in `World.run`.
-/
import Thumbnailer.Command.Run

namespace Thumbnailer

namespace Program

/-- The variables that settings are looked for in. -/
def variableNames : List String :=
  ["NETWORK__SOCKET_PATH", "NETWORK__MAX_FRAME_SIZE", "PROTOCOL__READ_TIMEOUT",
    "PROTOCOL__WRITE_TIMEOUT", "WORKER_POOL__THREAD_COUNT", "WORKER_POOL__MAX_QUEUE_SIZE",
    "WORKER_POOL__MONITOR_INTERVAL", "IMAGE__MAX_DECODED_PIXELS", "IMAGE__JPEG_QUALITY"].map
    ("GFXWORKER__" ++ ·)

/-- The paths whose entries a command may look at. -/
def pathsOf (args : List String) : List String :=
  match CommandLine.read args with
  | .run line =>
    let conf := line.settingsPath?.getD World.settingsPath
    [World.variablesFile, conf] ++ Settings.Format.all.map (conf ++ "." ++ ·.extension) ++
      match line.command with
      | .render path _ dir? => path :: dir?.toList
      | _ => []
  | _ => []

/-- The folder without files and folders: what no loading brings back. -/
def socketsOf (f : Folder Source) : Folder Source :=
  ⟨f.entries.filter fun (_, e) => e matches .socket _⟩

/-- What a command wrote: the entries that were not loaded before it. -/
def changes (before after : Folder Source) : List (String × Entry Source) :=
  after.entries.reverse.filter fun (path, _) => (before.get? path).isNone

/-- The variables of the environment that hold settings. -/
def environment : IO Variables :=
  variableNames.filterMapM fun name => do
    pure ((← IO.getEnv name).map fun value => (name, value))

/-- What is at a path, if it is a file or a folder. -/
def entry? (path : String) : IO (Option (Entry Source)) := do
  if ← ((← IO.currentDir) / path).isDir then pure (some .folder)
  else
    match ← (IO.FS.readBinFile path).toBaseIO with
    | .ok bytes => pure (some (.file (.bytes bytes.toList)))
    | .error _ => pure none

/-- Loads what a command may look at. -/
def load (w : World) (args : List String) : IO World := do
  let paths := (pathsOf args).flatMap fun path => Folder.ancestors path ++ [Folder.cleanPath path]
  let folder ← paths.foldlM (fun (f : Folder Source) path => do
    match ← entry? path with
    | some e => pure (if (f.get? path).isNone then f.insert path e else f)
    | none => pure f) (socketsOf w.folder)
  pure { w with folder := folder }

/-- Stores what a command wrote. -/
def store (before after : Folder Source) : IO Unit :=
  (changes before after).forM fun (path, e) =>
    match e with
    | .folder => IO.FS.createDirAll path
    | .file (.bytes bytes) => IO.FS.writeBinFile path (ByteArray.mk bytes.toArray)
    | _ => pure ()

/-- Does one command; of a worker that was started and goes on, there is no code yet. -/
def command (w : World) (args : List String) : IO (World × Option Nat) := do
  let w ← load w args
  let (next, ended?) := w.run args
  store w.folder next.folder
  match ended? with
  | none => pure (next, none)
  | some e =>
    (← IO.getStdout).putStr e.out
    (← IO.getStderr).putStr e.err
    pure (next, some e.code)

/-- The words of a line. -/
def words (line : String) : List String :=
  (line.trimAscii.toString.splitOn " ").filter (· ≠ "")

/-- Lets a worker take commands from standard input. -/
partial def attend (w : World) : IO Unit := do
  if w.serving?.isSome then
    (← IO.getStdout).flush
    let line ← (← IO.getStdin).getLine
    if line.isEmpty then store w.folder w.interrupt.folder
    else if (words line).isEmpty then attend w
    else
      let (w, _) ← command w (words line)
      attend w

end Program

end Thumbnailer

open Thumbnailer in
/-- Does the command of the arguments, and ends with its code. -/
def main (args : List String) : IO UInt32 := do
  let world : World := ⟨⟨[]⟩, ← Program.environment, 1, none⟩
  let (world, code?) ← Program.command world args
  Program.attend world
  pure (.ofNat (code?.getD 0))
