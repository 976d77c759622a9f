import PbxTemplates.Text.Hex
import PbxTemplates.Toml.Space

/-!
# Quoted texts in TOML

There are four ways to quote a text: between quotes, where a backslash begins an escape, or between
apostrophes, where every character stands for itself, and each of them within one line or across
lines. A text is written in the first way that needs no escapes but those of tabs, and with all of
its escapes only if there is no such way.
-/

namespace PbxTemplates.Toml

/-! ### Writing -/

def longestRun (c : Char) (cs : List Char) : Nat :=
  (cs.foldl (fun (run, longest) d =>
    let run := if d = c then run + 1 else 0
    (run, max longest run)) (0, 0)).2

/-- Whether a character can only be written by an escape. -/
def needsEscape (c : Char) : Bool := !isPlain c && c ≠ '\n'

/-- The escape of a character that needs one, or of a tab, backslash or quote. -/
def escape (c : Char) : List Char :=
  if c = '\x08' then ['\\', 'b']
  else if c = '\t' then ['\\', 't']
  else if c = '\x0c' then ['\\', 'f']
  else if c = '\r' then ['\\', 'r']
  else if c = '\\' then ['\\', '\\']
  else if c = '"' then ['\\', '"']
  else ['\\', 'u', '0', '0', Hex.upper (c.toNat / 16), Hex.upper (c.toNat % 16)]

/-- A text with its escapes. Across lines up to two quotes in a row stand for themselves; `quotes`
counts the ones just before. -/
def escapeAll (lines : Bool) : Nat → List Char → List Char
  | _, [] => []
  | quotes, c :: rest =>
    if c = '"' ∧ lines ∧ quotes < 2 then c :: escapeAll lines (quotes + 1) rest
    else if c = '"' ∨ c = '\\' ∨ c = '\t' ∨ needsEscape c then escape c ++ escapeAll lines 0 rest
    else c :: escapeAll lines 0 rest

/-- The quotation mark that is three times the given one. -/
def tripled (mark : Char) : List Char := [mark, mark, mark]

/-- A text between tripled marks. A text of several lines begins on a line of its own, because a
line break just after the opening mark does not count. -/
def quoteLines (mark : Char) (severalLines : Bool) (cs : List Char) : List Char :=
  tripled mark ++ (if severalLines then ['\n'] else []) ++ cs ++ tripled mark

def quote (cs : List Char) : List Char :=
  let control := cs.any needsEscape
  let plain := !control && !cs.contains '\\'
  let quotes := longestRun '"' cs
  let apostrophes := longestRun '\'' cs
  let lines := cs.contains '\n'
  if plain && quotes = 0 && !lines then '"' :: escapeAll false 0 cs ++ ['"']
  else if !control && apostrophes = 0 && !lines then '\'' :: cs ++ ['\'']
  else if plain && quotes ≤ 2 then quoteLines '"' lines (escapeAll true 0 cs)
  else if !control && apostrophes ≤ 2 then quoteLines '\'' lines cs
  else if lines then quoteLines '"' true (escapeAll true 0 cs)
  else '"' :: escapeAll false 0 cs ++ ['"']

/-! ### Reading -/

def unescape? (c : Char) : Option Char :=
  if c = '"' ∨ c = '\\' then some c
  else if c = 'b' then some '\x08'
  else if c = 't' then some '\t'
  else if c = 'n' then some '\n'
  else if c = 'f' then some '\x0c'
  else if c = 'r' then some '\r'
  else if c = 'e' then some '\x1b'
  else none

/-- The character with the number that hexadecimal digits denote. -/
def codePoint? (digits : List Char) : Option Char :=
  match Hex.value? digits with
  | some n => if n.isValidChar then some (Char.ofNat n) else none
  | none => none

def push? (c : Option Char) (tail : Option (List Char × List Char)) :
    Option (List Char × List Char) :=
  match c, tail with
  | some c, some (cs, rest) => some (c :: cs, rest)
  | _, _ => none

/-- Reads a text between quotes within a line, after its opening quote. -/
def readBasic : List Char → Option (List Char × List Char)
  | [] => none
  | '"' :: rest => some ([], rest)
  | '\\' :: 'x' :: a :: b :: rest => push? (codePoint? [a, b]) (readBasic rest)
  | '\\' :: 'u' :: a :: b :: c :: d :: rest => push? (codePoint? [a, b, c, d]) (readBasic rest)
  | '\\' :: 'U' :: a :: b :: c :: d :: e :: f :: g :: h :: rest =>
    push? (codePoint? [a, b, c, d, e, f, g, h]) (readBasic rest)
  | '\\' :: c :: rest => push? (unescape? c) (readBasic rest)
  | c :: rest => if isPlain c ∧ c ≠ '\\' then push? (some c) (readBasic rest) else none

def readLiteral : List Char → Option (List Char × List Char)
  | [] => none
  | '\'' :: rest => some ([], rest)
  | c :: rest => if isPlain c then push? (some c) (readLiteral rest) else none

/-- The end of a text across lines, after the closing marks. Up to two more marks belong to the
text. -/
def closeLines (mark : Char) (cs : List Char) : List Char × List Char :=
  let extra := (cs.take 2).takeWhile (· = mark)
  (extra, cs.drop extra.length)

/-- Whether a backslash before the given text stands at the end of its line. -/
def atLineEnd (cs : List Char) : Bool := (lineBreak? (skipBlank cs)).isSome

/-- Reads a text between quotes across lines. After a backslash at the end of a line, white space
and line breaks are passed over; the flag says whether this is going on. -/
def readBasicLines : Bool → List Char → Option (List Char × List Char)
  | _, [] => none
  | _, '"' :: '"' :: '"' :: rest => some (closeLines '"' rest)
  | _, '\\' :: 'x' :: a :: b :: rest => push? (codePoint? [a, b]) (readBasicLines false rest)
  | _, '\\' :: 'u' :: a :: b :: c :: d :: rest =>
    push? (codePoint? [a, b, c, d]) (readBasicLines false rest)
  | _, '\\' :: 'U' :: a :: b :: c :: d :: e :: f :: g :: h :: rest =>
    push? (codePoint? [a, b, c, d, e, f, g, h]) (readBasicLines false rest)
  | _, '\\' :: c :: rest =>
    if atLineEnd (c :: rest) then readBasicLines true (c :: rest)
    else push? (unescape? c) (readBasicLines false rest)
  | true, '\r' :: '\n' :: rest => readBasicLines true rest
  | false, '\r' :: '\n' :: rest => push? (some '\r') (push? (some '\n') (readBasicLines false rest))
  | trimming, c :: rest =>
    if trimming ∧ (isBlank c ∨ c = '\n') then readBasicLines true rest
    else if (isPlain c ∧ c ≠ '\\') ∨ c = '\n' then push? (some c) (readBasicLines false rest)
    else none

def readLiteralLines : List Char → Option (List Char × List Char)
  | [] => none
  | '\'' :: '\'' :: '\'' :: rest => some (closeLines '\'' rest)
  | '\r' :: '\n' :: rest => push? (some '\r') (push? (some '\n') (readLiteralLines rest))
  | c :: rest => if isPlain c ∨ c = '\n' then push? (some c) (readLiteralLines rest) else none

/-- What follows a line break just after an opening mark. -/
def skipFirstBreak (cs : List Char) : List Char := (lineBreak? cs).getD cs

/-- Reads a quoted text within a line, if there is one. -/
def readQuoted? : List Char → Option (Option (List Char × List Char))
  | '"' :: rest => some (readBasic rest)
  | '\'' :: rest => some (readLiteral rest)
  | _ => none

def readText? : List Char → Option (Option (List Char × List Char))
  | '"' :: '"' :: '"' :: rest => some (readBasicLines false (skipFirstBreak rest))
  | '\'' :: '\'' :: '\'' :: rest => some (readLiteralLines (skipFirstBreak rest))
  | cs => readQuoted? cs

end PbxTemplates.Toml
