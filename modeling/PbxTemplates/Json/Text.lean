import PbxTemplates.Text.Hex

/-!
# Quoted texts in JSON

A text stands between quotes. Quotes, backslashes and control characters are escaped. A reader
meets all escapes of the standard, also those by UTF-16 code units; half of a surrogate pair makes
the text unreadable, but not the document.

Main statement: `readPieces_quote` says that a quoted text reads back, whatever follows it.
-/

namespace PbxTemplates.Json

/-! ### Writing -/

def escape (c : Char) : List Char :=
  if c = '"' then ['\\', '"']
  else if c = '\\' then ['\\', '\\']
  else if c = '\n' then ['\\', 'n']
  else if c = '\r' then ['\\', 'r']
  else if c = '\t' then ['\\', 't']
  else if c = '\x08' then ['\\', 'b']
  else if c = '\x0c' then ['\\', 'f']
  else if c.toNat < 32 then
    ['\\', 'u', '0', '0', Hex.lower (c.toNat / 16), Hex.lower (c.toNat % 16)]
  else [c]

def quote (cs : List Char) : List Char := '"' :: cs.flatMap escape ++ ['"']

/-! ### Reading -/

/-- A part of a quoted text: a character, or half of a surrogate pair. -/
inductive Piece where
  | char (c : Char)
  /-- A first half. -/
  | high (unit : Nat)
  /-- A second half. -/
  | low (unit : Nat)
deriving DecidableEq

/-- The part given by a UTF-16 code unit. -/
def Piece.ofUnit (unit : Nat) : Piece :=
  if 0xd800 ≤ unit ∧ unit < 0xdc00 then .high unit
  else if 0xdc00 ≤ unit ∧ unit < 0xe000 then .low unit
  else .char (Char.ofNat unit)

def Piece.ofHex? (digits : List Char) : Option Piece := (Hex.value? digits).map ofUnit

def unescape? (c : Char) : Option Char :=
  if c = '"' ∨ c = '\\' ∨ c = '/' then some c
  else if c = 'n' then some '\n'
  else if c = 'r' then some '\r'
  else if c = 't' then some '\t'
  else if c = 'b' then some '\x08'
  else if c = 'f' then some '\x0c'
  else none

/-- Reads a text up to its closing quote. Returns its parts and what follows the quote. -/
def readPieces : List Char → Option (List Piece × List Char)
  | [] => none
  | '"' :: rest => some ([], rest)
  | '\\' :: 'u' :: a :: b :: c :: d :: rest =>
    match Piece.ofHex? [a, b, c, d], readPieces rest with
    | some p, some (ps, rest) => some (p :: ps, rest)
    | _, _ => none
  | '\\' :: c :: rest =>
    match unescape? c, readPieces rest with
    | some c, some (ps, rest) => some (.char c :: ps, rest)
    | _, _ => none
  | c :: rest =>
    if c.toNat < 32 ∨ c = '\\' then none
    else match readPieces rest with
      | some (ps, rest) => some (.char c :: ps, rest)
      | none => none

/-- The text made of the given parts, unless a half stands alone. -/
def joinPieces : List Piece → Option (List Char)
  | [] => some []
  | .char c :: rest => (joinPieces rest).map (c :: ·)
  | .high h :: .low l :: rest =>
    (joinPieces rest).map (Char.ofNat (0x10000 + 0x400 * (h - 0xd800) + (l - 0xdc00)) :: ·)
  | _ => none

/-! ### Reading what was written -/

theorem ofHex?_control {c : Char} (h : c.toNat < 32) :
    Piece.ofHex? ['0', '0', Hex.lower (c.toNat / 16), Hex.lower (c.toNat % 16)] =
      some (.char c) := by
  have all : ∀ n < 32, Piece.ofHex? ['0', '0', Hex.lower (n / 16), Hex.lower (n % 16)] =
      some (.char (Char.ofNat n)) := by decide
  rw [all c.toNat h, Char.ofNat_toNat]

theorem readPieces_letter {letter c : Char} (hu : letter ≠ 'u') (h : unescape? letter = some c)
    (cs : List Char) :
    readPieces ('\\' :: letter :: cs) = (readPieces cs).map fun r => (.char c :: r.1, r.2) := by
  rw [readPieces]
  · simp only [h]
    cases readPieces cs <;> rfl
  · intro a b c d rest hl
    exact absurd hl hu

theorem readPieces_plain {c : Char} (hq : c ≠ '"') (hb : c ≠ '\\') (hc : ¬c.toNat < 32)
    (cs : List Char) :
    readPieces (c :: cs) = (readPieces cs).map fun r => (.char c :: r.1, r.2) := by
  rw [readPieces]
  · rw [if_neg (by simp [hc, hb])]
    cases readPieces cs <;> rfl
  · exact hq
  · intro a b c' d rest h
    exact absurd h hb
  · intro c' rest h
    exact absurd h hb

theorem readPieces_escape (c : Char) (cs : List Char) :
    readPieces (escape c ++ cs) =
      (readPieces cs).map fun r => (.char c :: r.1, r.2) := by
  by_cases h : c = '"' ∨ c = '\\' ∨ c = '\n' ∨ c = '\r' ∨ c = '\t' ∨ c = '\x08' ∨ c = '\x0c'
  · rcases h with rfl | rfl | rfl | rfl | rfl | rfl | rfl <;>
      exact readPieces_letter (by decide) (by decide) cs
  · simp only [not_or] at h
    obtain ⟨hq, hb, hn, hr, ht, hbs, hff⟩ := h
    simp only [escape, hq, hb, hn, hr, ht, hbs, hff, if_false]
    split
    · rename_i hc
      simp only [List.cons_append, List.nil_append]
      rw [readPieces, ofHex?_control hc]
      cases readPieces cs <;> rfl
    · rename_i hc
      exact readPieces_plain hq hb hc cs

theorem readPieces_quote (cs rest : List Char) :
    readPieces (cs.flatMap escape ++ '"' :: rest) = some (cs.map .char, rest) := by
  induction cs with
  | nil => rw [List.flatMap_nil, List.nil_append, readPieces]; rfl
  | cons c cs ih => simp [List.flatMap_cons, List.append_assoc, readPieces_escape, ih]

theorem joinPieces_map_char (cs : List Char) : joinPieces (cs.map .char) = some cs := by
  induction cs with
  | nil => rfl
  | cons c cs ih => simp [joinPieces, ih]

end PbxTemplates.Json
