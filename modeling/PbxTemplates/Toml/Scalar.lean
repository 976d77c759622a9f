import PbxTemplates.Document.Node
import PbxTemplates.Text.Hex
import PbxTemplates.Text.Magnitude
import PbxTemplates.Toml.Space

/-!
# Truth values, numbers and dates in TOML

These values are words. White space within a word is no fault by itself; a space stands between a
date and a time.

Some words are taken for numbers although they are none. It is only when such a number is visited
that it cannot be read.
-/

namespace PbxTemplates.Toml

/-! ### Numbers -/

/-- The digits of a run in which single underscores may stand between digits. -/
def plainDigits? (isDigit : Char → Bool) : List Char → Option (List Char)
  | [] => none
  | [c] => if isDigit c then some [c] else none
  | c :: '_' :: rest =>
    if isDigit c then (plainDigits? isDigit rest).map (c :: ·) else none
  | c :: rest => if isDigit c then (plainDigits? isDigit rest).map (c :: ·) else none

/-- The digits of a decimal number, which begins with zero only if it is zero. -/
def wholeDigits? (cs : List Char) : Option (List Char) :=
  match plainDigits? Char.isDigit cs with
  | some ('0' :: _ :: _) => none
  | r => r

/-- The sign of a numeral, and what follows it. -/
def splitSign : List Char → Bool × List Char
  | '-' :: rest => (true, rest)
  | '+' :: rest => (false, rest)
  | cs => (false, cs)

/-- The node of a whole number. One that needs more than 128 bits cannot be read. -/
def wholeNode (n : Int) : Node := if -Int.pow 2 127 ≤ n ∧ n < Int.pow 2 128 then .int n else .broken

def valueIn (base : Nat) (digits : List Char) : Nat :=
  digits.foldl (fun n c => base * n + (Hex.digit? c).getD 0) 0

def isDigitOf (base : Nat) (c : Char) : Bool := (Hex.digit? c).any (· < base)

/-- A whole number in a base given by its letter. One without digits cannot be read. -/
def basedNode? (base : Nat) : List Char → Option Node
  | [] => some .broken
  | cs => (plainDigits? (isDigitOf base) cs).map fun ds => wholeNode (valueIn base ds)

/-- Whether pieces between underscores, all but the first piece of a word, have digits beside each
underscore. Here letters up to `f` count as digits. -/
def digitsBesideUnderscores : List (List Char) → Bool
  | [] => true
  | [piece] => piece.head?.any (isDigitOf 16)
  | piece :: pieces =>
    piece.head?.any (isDigitOf 16) && piece.getLast?.any (isDigitOf 16) &&
      digitsBesideUnderscores pieces

/-- The digits of a whole number without its sign; the inner `none` stands for a number that cannot
be read. A word with underscores is taken for a number if what stands before the first one is a
number. -/
def wholeOrUnreadable? (cs : List Char) : Option (Option (List Char)) :=
  match cs.splitOn '_' with
  | [] => none
  | first :: pieces =>
    match wholeDigits? first with
    | none => none
    | some ds =>
      if pieces = [] then some (some ds)
      else if ds.head? = some '0' || !digitsBesideUnderscores pieces then none
      else if pieces.all (·.all Char.isDigit) then some (some (ds ++ pieces.flatten))
      else some none

def looksReal (cs : List Char) : Bool := cs.any fun c => c = '.' || c = 'e' || c = 'E'

def integerNode? : List Char → Option Node
  | '0' :: 'x' :: rest => basedNode? 16 rest
  | '0' :: 'o' :: rest => basedNode? 8 rest
  | '0' :: 'b' :: rest => basedNode? 2 rest
  | cs =>
    let (negative, rest) := splitSign cs
    if looksReal rest then none
    else (wholeOrUnreadable? rest).map fun
      | some ds => wholeNode (if negative then -(Decimal.value ds : Int) else Decimal.value ds)
      | none => .broken

/-- The digits of a fraction after its point; none without a point. -/
def fractionDigits? : List Char → Option (List Char)
  | [] => some []
  | '.' :: rest => plainDigits? Char.isDigit rest
  | _ => none

/-- An exponent with its letter; zero without one. -/
def exponent? : List Char → Option Int
  | [] => some 0
  | c :: rest =>
    if c = 'e' ∨ c = 'E' then
      let (negative, rest) := splitSign rest
      (plainDigits? Char.isDigit rest).map fun ds =>
        if negative then -(Decimal.value ds : Int) else Decimal.value ds
    else none

/-- A number with a fraction or an exponent. One that rounds to infinity cannot be read. -/
def realNode? (cs : List Char) : Option Node :=
  let (_, rest) := splitSign cs
  if rest = "inf".toList ∨ rest = "nan".toList then some (.real true)
  else do
    let (mantissa, exponent) := rest.span fun c => c ≠ 'e' && c ≠ 'E'
    let (whole, fraction) := mantissa.span (· ≠ '.')
    let whole ← wholeDigits? whole
    let fraction ← fractionDigits? fraction
    let exponent ← exponent? exponent
    if Decimal.isFinite (Decimal.value (whole ++ fraction)) (exponent - fraction.length) then
      return .real true
    else return .broken

/-! ### Dates and times -/

/-- A number of the given count of digits at the beginning of a text. -/
def fixed? (count : Nat) (cs : List Char) : Option (Nat × List Char) :=
  match Decimal.read? (cs.take count) with
  | some n => if count ≤ cs.length then some (n, cs.drop count) else none
  | none => none

/-- What follows a character at the beginning of a text. -/
def after? (c : Char) : List Char → Option (List Char)
  | d :: rest => if d = c then some rest else none
  | [] => none

def daysIn (year month : Nat) : Nat :=
  if month = 2 then (if year % 4 = 0 ∧ (year % 100 ≠ 0 ∨ year % 400 = 0) then 29 else 28)
  else if month ∈ [4, 6, 9, 11] then 30
  else 31

/-- What follows a date at the beginning of a text. -/
def date? (cs : List Char) : Option (List Char) := do
  let (year, cs) ← fixed? 4 cs
  let (month, cs) ← fixed? 2 (← after? '-' cs)
  let (day, cs) ← fixed? 2 (← after? '-' cs)
  if 1 ≤ month ∧ month ≤ 12 ∧ 1 ≤ day ∧ day ≤ daysIn year month then some cs else none

def secondFraction? : List Char → Option (List Char)
  | '.' :: rest => if rest.head?.any Char.isDigit then some (rest.dropWhile Char.isDigit) else none
  | cs => some cs

/-- What follows the seconds of a time. The count of seconds may be sixty, for a leap second. -/
def seconds? : List Char → Option (List Char)
  | ':' :: rest => do
    let (second, rest) ← fixed? 2 rest
    if second ≤ 60 then secondFraction? rest else none
  | cs => some cs

def time? (cs : List Char) : Option (List Char) := do
  let (hour, cs) ← fixed? 2 cs
  let (minute, cs) ← fixed? 2 (← after? ':' cs)
  if hour ≤ 23 ∧ minute ≤ 59 then seconds? cs else none

/-- Whether a text is an offset from universal time, or empty. -/
def isOffset : List Char → Bool
  | [] => true
  | ['Z'] | ['z'] => true
  | sign :: rest =>
    (sign = '+' || sign = '-') &&
      match fixed? 2 rest with
      | none => false
      | some (hours, rest) =>
        match (after? ':' rest).bind (fixed? 2) with
        | some (minutes, []) => hours ≤ 23 && minutes ≤ 59
        | _ => false

/-- Whether a text is a date, a date with a time, or a time. -/
def isDateTime (cs : List Char) : Bool :=
  match date? cs with
  | some [] => true
  | some (c :: rest) => (c = 'T' || c = 't' || c = ' ') && (time? rest).any isOffset
  | none => time? cs == some []

/-- The node of a date or time: a table with one member, whose name no structure uses. -/
def dateNode (cs : List Char) : Node := .table [(some "$date", .text (String.ofList cs))]

/-! ### Words -/

/-- The value of a word. Only a date with a time may hold a space. -/
def wordNode? (cs : List Char) : Option Node :=
  if cs = "true".toList then some (.bool true)
  else if cs = "false".toList then some (.bool false)
  else if isDateTime cs then some (dateNode cs)
  else if ' ' ∈ cs then none
  else (integerNode? cs).or (realNode? cs)

/-- The characters of words: all that are not white space and do not separate values. -/
def isWordChar (c : Char) : Bool :=
  !isBlank c && c ∉ ['\n', '\r', '#', ',', '=', '[', ']', '\x7b', '\x7d']

def opensQuoted (cs : List Char) : Bool := cs.head?.any fun c => c = '"' || c = '\''

/-- The word at the beginning of a text, and what follows it. White space belongs to the word if the
word goes on after it. -/
def spanWord : List Char → List Char × List Char
  | [] => ([], [])
  | c :: rest =>
    if isWordChar c then
      let (word, after) := spanWord rest
      (c :: word, after)
    else if isBlank c then
      match spanWord rest with
      | ([], _) => ([], c :: rest)
      | (word, after) => if opensQuoted word then ([], c :: rest) else (c :: word, after)
    else ([], c :: rest)

def readWord (cs : List Char) : Option (Node × List Char) :=
  let (word, rest) := spanWord cs
  (wordNode? word).map fun n => (n, rest)

end PbxTemplates.Toml
