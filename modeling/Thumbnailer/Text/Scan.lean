/-
Readers of texts: what they take off the front, and what is left.

* **`Scan.many`**, **`Scan.separated`** — repetition, bounded by the length of what is left, since
  each round takes something.
-/
namespace Thumbnailer.Text

/-- A reader of texts; it fails without a reason. -/
abbrev Scan (α : Type) := StateT (List Char) Option α

def hexValue? (c : Char) : Option Nat :=
  if c.isDigit then some (c.toNat - '0'.toNat)
  else if 'a' ≤ c ∧ c ≤ 'f' then some (c.toNat - 'a'.toNat + 10)
  else if 'A' ≤ c ∧ c ≤ 'F' then some (c.toNat - 'A'.toNat + 10)
  else none

namespace Scan

variable {α β : Type}

def refuse : Scan α := failure

/-- The next character, which stays. -/
def peek : Scan (Option Char) := fun s => some (s.head?, s)

/-- Takes a character of a class. -/
def char (p : Char → Bool) : Scan Char
  | c :: s => if p c then some (c, s) else none
  | [] => none

def the (c : Char) : Scan Unit := discard (char (· == c))

def literal : List Char → Scan Unit
  | [] => pure ()
  | c :: rest => do
    the c
    literal rest

/-- Takes as many characters of a class as there are. -/
def span (p : Char → Bool) : Scan (List Char) := fun s => some (s.takeWhile p, s.dropWhile p)

def span1 (p : Char → Bool) : Scan (List Char) := do
  let c ← char p
  let rest ← span p
  pure (c :: rest)

def times (p : Char → Bool) : Nat → Scan (List Char)
  | 0 => pure []
  | n + 1 => do
    let c ← char p
    let rest ← times p n
    pure (c :: rest)

def option (p : Scan α) : Scan (Option α) := (some <$> p) <|> pure none

/-- Repeats a reader until it fails, at most `fuel` times. -/
def manyWithin (p : Scan α) : Nat → Scan (List α)
  | 0 => pure []
  | fuel + 1 => do
    match ← option p with
    | none => pure []
    | some a =>
      let rest ← manyWithin p fuel
      pure (a :: rest)

/-- Repeats a reader, which has to take something, until it fails. -/
def many (p : Scan α) : Scan (List α) := fun s => manyWithin p s.length s

/-- Takes items with separators between them, at least one item. -/
def separated (item : Scan α) (separator : Scan β) : Scan (List α) := do
  let first ← item
  let rest ← many do
    let _ ← separator
    item
  pure (first :: rest)

/-- Takes a number of `n` hexadecimal digits. -/
def hexNumber (n : Nat) : Scan Nat := do
  let digits ← times (fun c => (hexValue? c).isSome) n
  pure (digits.foldl (fun k c => 16 * k + (hexValue? c).getD 0) 0)

/-- The character with a number, if there is one. -/
def charOf (n : Nat) : Scan Char := if n.isValidChar then pure (.ofNat n) else refuse

/-- What a reader makes of a text that it takes to the end. -/
def whole? (p : Scan α) (s : List Char) : Option α :=
  match p s with
  | some (a, []) => some a
  | _ => none

end Scan

end Thumbnailer.Text
