import PbxTemplates.Document.Tagged
import PbxTemplates.Owner.Basic

/-!
# Owners in documents
-/

namespace PbxTemplates

def Voicemail.form : Form Voicemail :=
  Record.form <|
    ((Record.required "number" .text).and (.required "context" .text)).convert
      (fun v => ⟨v.1, v.2⟩) fun v => (v.number, v.context)

def LineUser.form : Form LineUser :=
  Record.form <|
    ((Record.required "id" .word64).and <| (Record.required "uuid" .text).and <|
      (Record.defaulted "simultaneous_calls" .word32 5).and
        (.optional "voicemail" Voicemail.form)).convert
      (fun (id, uuid, simultaneousCalls, voicemail) => ⟨id, uuid, simultaneousCalls, voicemail⟩)
      fun u => (u.id, u.uuid, u.simultaneousCalls, u.voicemail)

def Extension.form : Form Extension :=
  Record.form <|
    ((Record.required "exten" .text).and (.required "context" .text)).convert
      (fun e => ⟨e.1, e.2⟩) fun e => (e.exten, e.context)

def PickupRole.name : PickupRole → String
  | pickup => "pickup"
  | call => "call"

def PickupRole.form : Form PickupRole := .choice [pickup, call] name true

def PickupMembership.form : Form PickupMembership :=
  Record.form <|
    ((Record.required "group_id" .word64).and (.required "role" PickupRole.form)).convert
      (fun m => ⟨m.1, m.2⟩) fun m => (m.groupId, m.role)

def Line.record : Record Line :=
  ((Record.required "id" .word64).and <| (Record.optional "context" .text).and <|
    (Record.optional "application_uuid" .text).and <|
    (Record.defaulted "users" (.list LineUser.form) []).and <|
    (Record.defaulted "extensions" (.list Extension.form) []).and
      (.defaulted "pickup_groups" (.list PickupMembership.form) [])).convert
    (fun (id, context, applicationUuid, users, extensions, pickupGroups) =>
      ⟨id, context, applicationUuid, users, extensions, pickupGroups⟩)
    fun l => (l.id, l.context, l.applicationUuid, l.users, l.extensions, l.pickupGroups)

def Trunk.record : Record Trunk :=
  (Record.optional "context" .text).convert (fun c => ⟨c⟩) (·.context)

def MeetingGuest.record : Record MeetingGuest :=
  ((Record.required "meeting_uuid" .text).and (.required "meeting_name" .text)).convert
    (fun g => ⟨g.1, g.2⟩) fun g => (g.meetingUuid, g.meetingName)

def Owner.cases : List (Case Owner) :=
  [⟨"line", Line.record, line, fun | line l => some l | _ => none⟩,
   ⟨"trunk", Trunk.record, trunk, fun | trunk t => some t | _ => none⟩,
   ⟨"meeting_guest", MeetingGuest.record, meetingGuest,
    fun | meetingGuest g => some g | _ => none⟩]

def Owner.form : Form Owner := Case.form cases

end PbxTemplates
