import PbxTemplates.Document.Tagged
import PbxTemplates.FunctionKey.Basic

/-!
# Function keys in documents
-/

namespace PbxTemplates

def Destination.cases : List (Case Destination) :=
  [⟨"user", .required "user_id" .word64, user, fun | user id => some id | _ => none⟩,
   ⟨"group", .required "group_id" .word64, group, fun | group id => some id | _ => none⟩,
   ⟨"queue", .required "queue_id" .word64, queue, fun | queue id => some id | _ => none⟩,
   ⟨"conference", .required "conference_id" .word64, conference,
    fun | conference id => some id | _ => none⟩,
   ⟨"paging", .required "paging_id" .word64, paging, fun | paging id => some id | _ => none⟩,
   ⟨"park_position",
    (Record.required "parking_lot_id" .word64).and (.required "position" .word32),
    fun p => parkPosition p.1 p.2, fun | parkPosition lot place => some (lot, place) | _ => none⟩,
   ⟨"custom", .required "exten" .text, custom, fun | custom exten => some exten | _ => none⟩,
   ⟨"service", .required "service" .text, service, fun | service name => some name | _ => none⟩,
   ⟨"forward", (Record.required "forward" .text).and (.optional "exten" .text),
    fun f => forward f.1 f.2, fun | forward name exten => some (name, exten) | _ => none⟩,
   ⟨"transfer", .required "transfer" .text, transfer, fun | transfer name => some name | _ => none⟩,
   ⟨"agent", (Record.required "agent_id" .word64).and (.required "action" .text),
    fun a => agent a.1 a.2, fun | agent id action => some (id, action) | _ => none⟩,
   ⟨"bs_filter", .required "filter_member_id" .word64, bsFilter,
    fun | bsFilter id => some id | _ => none⟩]

def Destination.form : Form Destination := Case.form cases

def FunctionKey.form : Form FunctionKey :=
  Record.form <|
    ((Record.optional "label" .text).and <| (Record.defaulted "blf" .bool true).and <|
      (Record.defaulted "inherited" .bool true).and
        (.required "destination" Destination.form)).convert
      (fun (label, blf, inherited, destination) => ⟨label, blf, inherited, destination⟩)
      fun k => (k.label, k.blf, k.inherited, k.destination)

/-- Keys are written as a table by the text of their position. All keys are read before any
position is. -/
def KeyMap.form : Form KeyMap where
  write keys := (Form.dictionary .byName FunctionKey.form).write keys.toTexts
  read r n :=
    match (Form.dictionary .byName FunctionKey.form).read r n with
    | .error e => .error e
    | .ok texts => (KeyMap.ofTexts texts).mapError .invalidPosition

def KeyTemplate.form : Form KeyTemplate :=
  Record.form <|
    ((Record.optional "id" .word64).and <| (Record.optional "name" .text).and <|
      (Record.defaulted "private" .bool false).and (.defaulted "keys" KeyMap.form ∅)).convert
      (fun (id, name, isPrivate, keys) => ⟨id, name, isPrivate, keys⟩)
      fun t => (t.id, t.name, t.isPrivate, t.keys)

end PbxTemplates
