/-
The command line: its options, its commands, and how they are read.

* **`Command`** — what the program is asked to do.
* **`CommandLine`** — a command with the options before it.
* **`CommandLine.read`** — reads arguments from the left; the first that asks for help or the version,
  or does not fit, decides. A value that starts with a dash and goes on has to be attached to its
  option.
* **`Level.ofCount`** — how much is logged.
-/
import Thumbnailer.Size

namespace Thumbnailer

/-- How much is logged. -/
inductive Level
  | warn
  | info
  | debug
  | trace
  deriving DecidableEq, Repr

namespace Level

/-- The level that a number of flags asks for. -/
def ofCount : Nat → Level
  | 0 => warn
  | 1 => info
  | 2 => debug
  | _ => trace

/-- The name of a level. -/
def name : Level → String
  | warn => "warn"
  | info => "info"
  | debug => "debug"
  | trace => "trace"

end Level

/-- What the program is asked to do. -/
inductive Command
  | serve
  | printSettings
  | hello
  | shutdown
  | formats
  | render (path : String) (sizes : List Size) (folder? : Option String)
  deriving DecidableEq, Repr

/-- A command with the options before it. -/
structure CommandLine where
  settingsPath? : Option String
  logFolder? : Option String
  /-- How often more logging was asked for. -/
  verbose : Nat
  command : Command
  deriving DecidableEq, Repr

namespace CommandLine

/-- What arguments ask for. -/
inductive Asked
  | run (line : CommandLine)
  | version
  | help
  /-- They do not fit. -/
  | misuse
  deriving DecidableEq, Repr

/-- Whether an argument may be the value of the option before it. -/
def isValue (arg : String) : Bool := !arg.startsWith "-" || arg == "-"

/-- A long option, without its dashes, and the value attached to it. -/
def splitLong (arg : String) : String × Option String :=
  match arg.splitOn "=" with
  | name :: part :: parts => (name, some ("=".intercalate (part :: parts)))
  | _ => (arg, none)

/-- The argument without its first characters. -/
def behind (arg : String) (n : Nat) : String := String.ofList (arg.toList.drop n)

/-- The value of an option, attached or the next argument, and the arguments after it. -/
def value? (attached : Option String) (rest : List String) : Option (String × List String) :=
  match attached, rest with
  | some v, rest => some (v, rest)
  | none, v :: rest => if isValue v then some (v, rest) else none
  | none, [] => none

theorem length_of_value? {attached : Option String} {rest rest' : List String} {v : String}
    (h : value? attached rest = some (v, rest')) : rest'.length ≤ rest.length := by
  unfold value? at h
  grind

/-! ### The options of rendering -/

/-- What was read of the options of rendering. -/
structure RenderOptions where
  path? : Option String
  sizes : List Size
  folder? : Option String
  deriving DecidableEq, Repr

namespace RenderOptions

/-- An option of rendering with a value; path and folder are given once, and not empty. -/
def set? (o : RenderOptions) (name value : String) : Option RenderOptions :=
  match name with
  | "path" => if o.path?.isSome || value.isEmpty then none else some { o with path? := some value }
  | "out" =>
    if o.folder?.isSome || value.isEmpty then none else some { o with folder? := some value }
  | "size" =>
    match Size.parse value with
    | .ok size => some { o with sizes := o.sizes ++ [size] }
    | .error _ => none
  | _ => none

/-- The rendering that the options ask for: there is a path, and at least one size. -/
def command? (o : RenderOptions) : Option Command :=
  match o.path?, o.sizes with
  | some path, size :: sizes => some (.render path (size :: sizes) o.folder?)
  | _, _ => none

end RenderOptions

/-- What a line with a command asks for. -/
def done (line : CommandLine) (command? : Option Command) : Asked :=
  match command? with
  | some command => .run { line with command := command }
  | none => .misuse

/-- Reads the arguments behind the command to render. -/
def readRender (line : CommandLine) (o : RenderOptions) : List String → Asked
  | [] => done line o.command?
  | "--" :: rest => if rest.isEmpty then done line o.command? else .misuse
  | "--help" :: _ => .help
  | arg :: rest =>
    if arg.startsWith "-h" then .help
    else if arg.startsWith "--" then
      let (name, attached) := splitLong (behind arg 2)
      match h : value? attached rest with
      | some (v, rest') =>
        have := length_of_value? h
        match o.set? name v with
        | some o => readRender line o rest'
        | none => .misuse
      | none => .misuse
    else .misuse
termination_by args => args.length

/-- Reads the arguments behind a command without options. -/
def readPlain (line : CommandLine) (command : Command) : List String → Asked
  | [] => done line (some command)
  | ["--"] => done line (some command)
  | "--help" :: _ => .help
  | arg :: _ => if arg.startsWith "-h" then .help else .misuse

/-- Whether a word names a command. -/
def isCommand (word : String) : Bool :=
  word ∈ ["serve", "print-config", "hello", "shutdown", "formats", "gfx", "help"]

/-- Reads a command and the arguments behind it. -/
def readCommand (line : CommandLine) (word : String) (rest : List String) : Asked :=
  match word with
  | "serve" => readPlain line .serve rest
  | "print-config" => readPlain line .printSettings rest
  | "hello" => readPlain line .hello rest
  | "shutdown" => readPlain line .shutdown rest
  | "formats" => readPlain line .formats rest
  | "gfx" => readRender line ⟨none, [], none⟩ rest
  | "help" =>
    match rest with
    | [] => .help
    | [word] => if isCommand word then .help else .misuse
    | _ => .misuse
  | _ => .misuse

/-! ### The options before the command -/

/-- An option with a value; each is given once. -/
def set? (line : CommandLine) (name value : String) : Option CommandLine :=
  match name with
  | "conf" =>
    if line.settingsPath?.isSome then none else some { line with settingsPath? := some value }
  | "log-dir" =>
    if line.logFolder?.isSome then none else some { line with logFolder? := some value }
  | _ => none

/-- Where a row of short options leads. -/
inductive Shorts
  /-- To the next argument. -/
  | next (line : CommandLine)
  /-- To the value of the path option, if it is attached. -/
  | path (line : CommandLine) (attached : Option String)
  | asked (a : Asked)

/-- Reads a row of short options. -/
def readShorts (line : CommandLine) : List Char → Shorts
  | [] => .next line
  | 'v' :: rest => readShorts { line with verbose := line.verbose + 1 } rest
  | 'V' :: _ => .asked .version
  | 'h' :: _ => .asked .help
  | ['c'] => .path line none
  | 'c' :: '=' :: rest => .path line (some (String.ofList rest))
  | 'c' :: rest => .path line (some (String.ofList rest))
  | _ => .asked .misuse

/-- Reads arguments. -/
def readFrom (line : CommandLine) : List String → Asked
  | [] => .run line
  | ["--"] => .run line
  | "--verbose" :: rest => readFrom { line with verbose := line.verbose + 1 } rest
  | "--version" :: _ => .version
  | "--help" :: _ => .help
  | arg :: rest =>
    if arg.startsWith "--" then
      let (name, attached) := splitLong (behind arg 2)
      match h : value? attached rest with
      | some (v, rest') =>
        have := length_of_value? h
        match line.set? name v with
        | some line => readFrom line rest'
        | none => .misuse
      | none => .misuse
    else if arg.startsWith "-" && arg != "-" then
      match readShorts line (arg.toList.drop 1) with
      | .next line => readFrom line rest
      | .asked a => a
      | .path line attached =>
        match h : value? attached rest with
        | some (v, rest') =>
          have := length_of_value? h
          match line.set? "conf" v with
          | some line => readFrom line rest'
          | none => .misuse
        | none => .misuse
    else readCommand line arg rest
termination_by args => args.length

/-- Reads arguments; without a command, the worker is to serve. -/
def read (args : List String) : Asked := readFrom ⟨none, none, 0, .serve⟩ args

end CommandLine

end Thumbnailer
