import PbxTemplates.Proofs.Document.Lawful
import PbxTemplates.Section.Form

/-!
# Sections can be read again
-/

namespace PbxTemplates

variable {depth : Nat}

theorem Entry.lawful_form : Entry.form.Lawful (depth + 1) :=
  Record.Lawful.listForm
    (((Record.lawful_required Form.lawful_text).and
      (Record.lawful_required Form.lawful_text)).convert fun _ => rfl)
    (by decide) fun _ => rfl

theorem Section.lawful_form : Section.form.Lawful (depth + 2) := Entry.lawful_form.list

namespace Sections

theorem lawful_recordOf {field : String → Record Section} (h : ∀ name, (field name).Lawful depth) :
    (recordOf field).Lawful depth :=
  ((h _).and <| (h _).and <| (h _).and <| (h _).and <| (h _).and <| (h _).and (h _)).convert
    fun _ => rfl

theorem lawful_declared : declared.Lawful (depth + 2) :=
  lawful_recordOf fun _ => Record.lawful_defaulted Section.lawful_form.buffered

theorem lawful_finished : finished.Lawful (depth + 2) :=
  lawful_recordOf fun _ => Record.lawful_unlessEmpty Section.lawful_form.buffered

end Sections

end PbxTemplates
