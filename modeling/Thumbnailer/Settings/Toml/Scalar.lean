/-
The values without parts that a TOML file may hold.

* **`Toml.basic`**, **`Toml.literal`** — texts of one line, with and without escapes.
* **`Toml.text`** — texts of all four kinds. In those of many lines a line end is a line feed, and
  the quotes before the closing ones belong to the text, at most two of them.
* **`Toml.number`** — whole numbers in four bases, below `2 ^ 63`, and others.
* **`Toml.moment`** — dates and times, as texts in their normal form.
-/
import Thumbnailer.Settings.Value
import Thumbnailer.Text.Number
import Thumbnailer.Text.Scan

namespace Thumbnailer.Settings.Toml

open Text (Scan)

/-- White space within a line. -/
def isBlank (c : Char) : Bool := c == ' ' || c == '\t'

/-- A character that may stand in comments and texts: no control but the tab. -/
def isVisible (c : Char) : Bool := c == '\t' || (' ' ≤ c && c != '\x7F')

/-- Takes white space within a line. -/
def blanks : Scan Unit := discard (Scan.span isBlank)

/-- Takes the end of a line. -/
def lineEnd : Scan Char :=
  Scan.char (· == '\n') <|> (Scan.literal ['\r', '\n'] *> pure '\n')

/-- Takes a comment, up to the end of its line. -/
def comment : Scan Unit := do
  Scan.the '#'
  discard (Scan.span isVisible)

/-! ### Texts -/

/-- Takes what follows a backslash. -/
def escape : Scan Char := do
  match ← Scan.char fun _ => true with
  | 'b' => pure '\x08'
  | 't' => pure '\t'
  | 'n' => pure '\n'
  | 'f' => pure '\x0C'
  | 'r' => pure '\r'
  | '"' => pure '"'
  | '\\' => pure '\\'
  | 'u' => do Scan.charOf (← Scan.hexNumber 4)
  | 'U' => do Scan.charOf (← Scan.hexNumber 8)
  | _ => Scan.refuse

/-- Takes an escaped character. -/
def escaped : Scan Char := do
  Scan.the '\\'
  escape

/-- Takes a character of a text with escapes that stands for itself. -/
def plainChar : Scan Char := Scan.char fun c => isVisible c && c != '"' && c != '\\'

/-- Takes a character of a text without escapes. -/
def literalChar : Scan Char := Scan.char fun c => isVisible c && c != '\''

/-- Takes a text of one line with escapes. -/
def basic : Scan String := do
  Scan.the '"'
  let s ← Scan.many (plainChar <|> escaped)
  Scan.the '"'
  pure (.ofList s)

/-- Takes a text of one line without escapes. -/
def literal : Scan String := do
  Scan.the '\''
  let s ← Scan.many literalChar
  Scan.the '\''
  pure (.ofList s)

/-- Takes one or two quotes that do not close a text. -/
def innerQuotes (quote : Char) : Scan (List Char) := do
  let quotes ← Scan.span1 (· == quote)
  if quotes.length < 3 then pure quotes else Scan.refuse

/-- Takes the quotes that close a text, and up to two that still belong to it. -/
def closing (quote : Char) : Scan (List Char) := do
  Scan.literal [quote, quote, quote]
  let first ← Scan.option (Scan.char (· == quote))
  let second ← Scan.option (Scan.char (· == quote))
  pure (first.toList ++ second.toList)

/-- Takes a backslash at the end of a line, and all white space behind it. -/
def joint : Scan (List Char) := do
  Scan.the '\\'
  blanks
  let _ ← lineEnd
  let _ ← Scan.many (Scan.char isBlank <|> lineEnd)
  pure []

/-- Takes a text of many lines, whose pieces `piece` takes. -/
def long (quote : Char) (piece : Scan (List Char)) : Scan String := do
  Scan.literal [quote, quote, quote]
  let _ ← Scan.option lineEnd
  let pieces ← Scan.many (piece <|> innerQuotes quote)
  let last ← closing quote
  pure (.ofList (pieces.flatten ++ last))

/-- Takes a text. -/
def text : Scan String :=
  long '"' (List.singleton <$> plainChar <|> List.singleton <$> lineEnd <|> joint <|>
      List.singleton <$> escaped) <|>
    basic <|>
    long '\'' (List.singleton <$> literalChar <|> List.singleton <$> lineEnd) <|>
    literal

/-! ### Numbers -/

/-- Takes digits of a class; a low line may stand between two of them. -/
def digits (p : Char → Bool) : Scan (List Char) := do
  let first ← Scan.char p
  let rest ← Scan.many (Scan.char p <|> (Scan.the '_' *> Scan.char p))
  pure (first :: rest)

/-- The number that digits write in a base. -/
def valueOf (base : Nat) (row : List Char) : Nat :=
  row.foldl (fun n c => base * n + (Text.hexValue? c).getD 0) 0

/-- Takes a sign, and tells whether it is a minus. -/
def sign : Scan Bool := do
  pure ((← Scan.option (Scan.char fun c => c == '+' || c == '-')) == some '-')

/-- Takes the digits of a whole number: no zero stands before another digit. -/
def whole : Scan (List Char) := do
  match ← Scan.peek with
  | some '0' => Scan.the '0' *> pure ['0']
  | _ => digits Char.isDigit

/-- Takes a whole number in another base. -/
def based (mark : Char) (base : Nat) : Scan Int := do
  Scan.literal ['0', mark]
  let row ← digits fun c => ((Text.hexValue? c).map (decide <| · < base)).getD false
  let n := valueOf base row
  if n < 0x8000000000000000 then pure n else Scan.refuse

/-- Takes a whole number. -/
def integer : Scan Int :=
  based 'x' 16 <|> based 'o' 8 <|> based 'b' 2 <|> do
    let negative ← sign
    let n : Int := valueOf 10 (← whole)
    let n := if negative then -n else n
    if -0x8000000000000000 ≤ n ∧ n < 0x8000000000000000 then pure n else Scan.refuse

/-- Takes an exponent of ten. -/
def exponent : Scan Int := do
  let _ ← Scan.char fun c => c == 'e' || c == 'E'
  let negative ← sign
  let n : Int := valueOf 10 (← digits Char.isDigit)
  pure (if negative then -n else n)

/-- Takes a number with a point or an exponent; one too large has to be negative. -/
def decimal : Scan Double := do
  let negative ← sign
  let front ← whole
  let behind ← Scan.option (Scan.the '.' *> digits Char.isDigit)
  let raised ← Scan.option exponent
  match behind, raised with
  | none, none => Scan.refuse
  | _, _ =>
    let behind := behind.getD []
    match Double.ofDecimal negative (valueOf 10 (front ++ behind)) (raised.getD 0 - behind.length) with
    | .infinite false => Scan.refuse
    | x => pure x

/-- Takes a number that has no digits. -/
def special : Scan Double := do
  let negative ← sign
  (Scan.literal "inf".toList *> pure (.infinite negative)) <|>
    (Scan.literal "nan".toList *> pure .nan)

/-- Takes a number. -/
def number : Scan Scalar := (.real <$> (decimal <|> special)) <|> (.integer <$> integer)

/-! ### Dates and times -/

/-- Takes a number of `width` digits within bounds. -/
def field (width low high : Nat) : Scan (List Char) := do
  let row ← Scan.times Char.isDigit width
  let n := valueOf 10 row
  if low ≤ n ∧ n ≤ high then pure row else Scan.refuse

/-- The number of days of a month. -/
def daysOf (year month : Nat) : Nat :=
  if month = 2 then if year % 4 = 0 ∧ (year % 100 ≠ 0 ∨ year % 400 = 0) then 29 else 28
  else if month ∈ [4, 6, 9, 11] then 30 else 31

/-- Takes a date. -/
def date : Scan (List Char) := do
  let year ← field 4 0 9999
  Scan.the '-'
  let month ← field 2 1 12
  Scan.the '-'
  let day ← field 2 1 (daysOf (valueOf 10 year) (valueOf 10 month))
  pure (year ++ '-' :: month ++ '-' :: day)

/-- Takes a fraction of a second; nine digits of it count, and none of the zeros at its end. -/
def secondFraction : Scan (List Char) := do
  Scan.the '.'
  let row ← Scan.span1 Char.isDigit
  match ((row.take 9).reverse.dropWhile (· == '0')).reverse with
  | [] => pure []
  | row => pure ('.' :: row)

/-- Takes a time of day. -/
def time : Scan (List Char) := do
  let hour ← field 2 0 23
  Scan.the ':'
  let minute ← field 2 0 59
  Scan.the ':'
  let second ← field 2 0 60
  let rest ← Scan.option secondFraction
  pure (hour ++ ':' :: minute ++ ':' :: second ++ rest.getD [])

/-- Takes the distance from universal time; none at all is never negative. -/
def zone : Scan (List Char) :=
  (Scan.char (fun c => c == 'Z' || c == 'z') *> pure ['Z']) <|> do
    let direction ← Scan.char fun c => c == '+' || c == '-'
    let hour ← field 2 0 23
    Scan.the ':'
    let minute ← field 2 0 59
    let distance := hour ++ ':' :: minute
    pure ((if direction = '-' ∧ distance ≠ "00:00".toList then '-' else '+') :: distance)

/-- Takes the time behind a date. -/
def timeOfDate : Scan (List Char) := do
  let _ ← Scan.char fun c => c == 'T' || c == 't' || c == ' '
  let t ← time
  let z ← Scan.option zone
  pure ('T' :: t ++ z.getD [])

/-- Takes a date, a time, or both. -/
def moment : Scan String :=
  (do
    let d ← date
    let t ← Scan.option timeOfDate
    pure (.ofList (d ++ t.getD []))) <|>
  (.ofList <$> time)

/-- Takes a value without parts. -/
def scalar : Scan Scalar :=
  (.text <$> text) <|> (.text <$> moment) <|> number <|>
    (Scan.literal "true".toList *> pure (.boolean true)) <|>
    (Scan.literal "false".toList *> pure (.boolean false))

end Thumbnailer.Settings.Toml
