/-!
# White space, comments and the ends of lines
-/

namespace PbxTemplates.Toml

/-- The white space within a line. -/
def isBlank (c : Char) : Bool := c = ' ' || c = '\t'

/-- Whether a character may stand in comments and quoted texts: no control character but the tab. -/
def isPlain (c : Char) : Bool := c = '\t' || (32 ≤ c.toNat && c.toNat ≠ 127)

def skipBlank (cs : List Char) : List Char := cs.dropWhile isBlank

/-- What follows a comment; a text without comment stays as it is. -/
def skipComment : List Char → List Char
  | '#' :: rest => rest.dropWhile isPlain
  | cs => cs

/-- What follows a line break. -/
def lineBreak? : List Char → Option (List Char)
  | '\n' :: rest => some rest
  | '\r' :: '\n' :: rest => some rest
  | _ => none

/-- What follows the end of a line, where nothing but a comment may stand before the line break. -/
def lineEnd? (cs : List Char) : Option (List Char) :=
  match skipComment (skipBlank cs) with
  | [] => some []
  | rest => lineBreak? rest

/-- What follows white space, comments and line breaks. The flag says whether the text begins within
a comment. -/
def skipGap : Bool → List Char → List Char
  | _, [] => []
  | _, '\r' :: '\n' :: rest => skipGap false rest
  | comment, c :: rest =>
    if c = '\n' then skipGap false rest
    else if comment then (if isPlain c then skipGap true rest else c :: rest)
    else if c = '#' then skipGap true rest
    else if isBlank c then skipGap false rest
    else c :: rest

end PbxTemplates.Toml
