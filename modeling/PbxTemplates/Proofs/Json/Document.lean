import PbxTemplates.Proofs.Document.Lawful
import PbxTemplates.Proofs.Json.RoundTrip

/-!
# Whole JSON documents

A document that is written in a lawful form is well-formed and reads back, in either layout, as long
as it is not nested more deeply than a reader accepts (`Lawful.decode_text`).
-/

namespace PbxTemplates

variable {α : Type} {f : Form α} {depth : Nat} {l : Json.Layout} {j : Json}

namespace Json

theorem Layout.blank_of_pretty (pretty : Bool) : (if pretty then indented else compact).Blank := by
  cases pretty
  · exact blank_compact
  · exact blank_indented

theorem admits_reading (h : depth ≤ 127) : reading.Admits depth := by
  intro m hm
  obtain rfl : 127 = m := Option.some.inj hm
  exact h

/-- The value that a well-formed text says: all of the value can be read, and nothing but white space
follows it. -/
def value? (text : String) : Option Node :=
  match scan text.toList with
  | (n, some rest) => if n.readable reading.room && (skipBlank rest).isEmpty then some n else none
  | (_, none) => none

theorem value?_text (hl : l.Blank) (h : j.toNode.readable reading.room = true) :
    value? (text l j) = some j.toNode := by
  have anywhere : j.toNode.readable none = true := Node.readable_of_le _ 127 none (by simp) h
  rw [value?, scan_text hl anywhere]
  simp [h, skipBlank]

end Json

namespace Form

theorem Lawful.readable_document (h : f.Lawful depth) (small : depth ≤ 127) (a : α) :
    (f.write a).toNode.readable Json.reading.room = true :=
  Node.readable_of_le _ depth _ (Json.admits_reading small) (h.readable a)

theorem Lawful.decode_text (h : f.Lawful depth) (small : depth ≤ 127) (hl : l.Blank) (a : α) :
    Json.decode f (Json.text l (f.write a)) = .ok a := by
  refine Json.decode_text hl ?_ (h.read_write a _ (Json.admits_reading small))
  exact Node.readable_of_le _ depth none (by simp) (h.readable a)

end Form

end PbxTemplates
