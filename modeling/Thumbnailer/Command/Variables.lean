/-
Variables of the environment that a file in the working folder adds.

* **`Variables.readLine`** — a line: a name and a value, or nothing. Values may be quoted in two ways,
  and mention earlier variables after a dollar sign.
* **`Variables.extend`** — the environment with the variables of a file; those that are there already
  win. The first line that makes no sense ends the reading.
-/
import Thumbnailer.Text.Blank

namespace Thumbnailer

/-- Variables by name. -/
abbrev Variables := List (String × String)

namespace Variables

/-- The value of a variable. -/
def get? (vars : Variables) (name : String) : Option String :=
  (vars.find? (·.1 == name)).map (·.2)

/-! ### Values -/

/-- What the reading of a value is in the middle of. -/
inductive Mode
  | plain
  /-- Between single quotes, where everything stands for itself. -/
  | literal
  /-- Between double quotes. -/
  | quoted
  /-- Behind blanks, where only a comment may follow. -/
  | ended
  deriving DecidableEq, Repr

/-- A mention of a variable that is being read. -/
inductive Mention
  | none
  /-- Behind a dollar sign. -/
  | bare (name : List Char)
  /-- Behind a dollar sign and a brace. -/
  | braced (name : List Char)
  deriving DecidableEq, Repr

/-- How far the reading of a value has come; the characters read are in reverse. -/
structure ValueState where
  mode : Mode
  escaped : Bool
  mention : Mention
  output : List Char
  deriving DecidableEq, Repr

namespace ValueState

/-- The state with one more character of the value. -/
def push (s : ValueState) (c : Char) : ValueState := { s with output := c :: s.output }

/-- The state once a mention is replaced by the value of the variable; one that is not there has an
empty value. -/
def substitute (vars : Variables) (s : ValueState) (name : List Char) : ValueState :=
  let value := ((vars.get? (String.ofList name.reverse)).getD "").toList
  { s with mention := .none, output := value.reverse ++ s.output }

/-- A character that may go on a name after a dollar sign. -/
def isNameChar (c : Char) : Bool := c.isAlphanum

/-- The state after a character that is part of no mention. -/
def stepPlain (s : ValueState) (c : Char) : ValueState :=
  if c = '$' then { s with mention := .bare [] }
  else if s.mode = .quoted then
    if c = '"' then { s with mode := .plain }
    else if c = '\\' then { s with escaped := true }
    else s.push c
  else if c = '\'' then { s with mode := .literal }
  else if c = '"' then { s with mode := .quoted }
  else if c = '\\' then { s with escaped := true }
  else if c = ' ' || c = '\t' then { s with mode := .ended }
  else s.push c

/-- The state after an escaped character, which has to be one of a few. -/
def stepEscaped (s : ValueState) (c : Char) : Option ValueState :=
  if c ∈ ['\\', '\'', '"', '$', ' '] then some { (s.push c) with escaped := false }
  else if c = 'n' then some { (s.push '\n') with escaped := false }
  else none

/-- The state after a character of a mention. -/
def stepMention (vars : Variables) (s : ValueState) (c : Char) : ValueState :=
  match s.mention with
  | .none => s
  | .bare name =>
    if isNameChar c then { s with mention := .bare (c :: name) }
    else if c = '\x7b' ∧ name = [] then { s with mention := .braced [] }
    else
      let s := s.substitute vars name
      if c = '$' then { s with mention := .bare [] } else s.push c
  | .braced name =>
    if c = '\x7d' then s.substitute vars name else { s with mention := .braced (c :: name) }

/-- The state after the next character, unless that does not fit. -/
def step (vars : Variables) (s : ValueState) (c : Char) : Option ValueState :=
  if s.escaped then s.stepEscaped c
  else if s.mode = .literal then
    some (if c = '\'' then { s with mode := .plain } else s.push c)
  else if s.mention ≠ .none then some (s.stepMention vars c)
  else some (s.stepPlain c)

/-- The value that has been read, if it may end here. -/
def result? (vars : Variables) (s : ValueState) : Option String :=
  if s.mode = .literal ∨ s.mode = .quoted then none
  else
    match s.mention with
    | .none => some (String.ofList s.output.reverse)
    | .bare name => some (String.ofList (s.substitute vars name).output.reverse)
    | .braced _ => none

end ValueState

/-- Reads a value on from a state. -/
def readValueFrom (vars : Variables) (s : ValueState) : List Char → Option String
  | [] => s.result? vars
  | c :: rest =>
    if s.mode = .ended then
      if c = ' ' || c = '\t' then readValueFrom vars s rest
      else if c = '#' then s.result? vars
      else none
    else
      match s.step vars c with
      | some s => readValueFrom vars s rest
      | none => none

/-- Reads a value. -/
def readValue (vars : Variables) (s : List Char) : Option String :=
  readValueFrom vars ⟨.plain, false, .none, []⟩ s

/-! ### Lines -/

/-- A character that a name may start with. -/
def isNameStart (c : Char) : Bool := c.isAlpha || c == '_'

/-- A character of a name. -/
def isNameChar (c : Char) : Bool := c.isAlphanum || c == '_' || c == '.'

/-- Takes a name and the blanks behind it. -/
def takeName : List Char → Option (String × List Char)
  | c :: rest =>
    if isNameStart c then
      some (String.ofList (c :: rest.takeWhile isNameChar),
        Text.trimLeft (rest.dropWhile isNameChar))
    else none
  | [] => none

/-- Takes the sign between name and value and the blanks behind it. -/
def takeEquals : List Char → Option (List Char)
  | '=' :: rest => some (Text.trimLeft rest)
  | _ => none

/-- Takes the name of a line and what stands between it and the value; a word may stand before it. -/
def takeFront (line : List Char) : Option (String × List Char) := do
  let (name, rest) ← takeName line
  match takeEquals rest with
  | some rest => some (name, rest)
  | none =>
    if name = "export" then
      let (name, rest) ← takeName rest
      some (name, ← takeEquals rest)
    else none

/-- Reads a line: the variable that it adds, if any; fails if the line makes no sense. -/
def readLine (vars : Variables) (line : List Char) : Option (Option (String × String)) :=
  match Text.trim line with
  | [] => some none
  | '#' :: _ => some none
  | line => do
    let (name, rest) ← takeFront line
    match rest with
    | [] => some (some (name, ""))
    | '#' :: _ => some (some (name, ""))
    | rest => some (some (name, ← readValue vars rest))

/-- The environment with one more variable, unless it is there already. -/
def add (vars : Variables) (name value : String) : Variables :=
  if (vars.get? name).isSome then vars else vars ++ [(name, value)]

/-- The environment with the variables of some lines. -/
def extendLines (vars : Variables) : List (List Char) → Variables
  | [] => vars
  | line :: rest =>
    match readLine vars line with
    | some (some (name, value)) => extendLines (vars.add name value) rest
    | some none => extendLines vars rest
    | none => vars

/-- The environment with the variables of a text. -/
def extend (vars : Variables) (text : String) : Variables :=
  extendLines vars ((text.splitOn "\n").map String.toList)

end Variables

end Thumbnailer
