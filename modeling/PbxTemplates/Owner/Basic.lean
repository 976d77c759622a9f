/-!
# Owners of endpoints

Every concrete endpoint is owned by one line, trunk or meeting guest. An owner comes with all data
that its endpoint needs from it.
-/

namespace PbxTemplates

@[ext] structure Voicemail where
  number : String
  context : String
deriving DecidableEq

/-- The address `number@context` of a mailbox. -/
def Voicemail.mailbox (v : Voicemail) : String := v.number ++ "@" ++ v.context

@[ext] structure LineUser where
  id : UInt64
  uuid : String
  simultaneousCalls : UInt32 := 5
  voicemail : Option Voicemail := none
deriving DecidableEq

@[ext] structure Extension where
  exten : String
  context : String
deriving DecidableEq

/-- How a line takes part in a pickup group. -/
inductive PickupRole where
  /-- The line may take calls that ring in the group. -/
  | pickup
  /-- The group may take calls that ring on the line. -/
  | call
deriving DecidableEq

@[ext] structure PickupMembership where
  groupId : UInt64
  role : PickupRole
deriving DecidableEq

@[ext] structure Line where
  id : UInt64
  /-- The context of outgoing calls. -/
  context : Option String := none
  applicationUuid : Option String := none
  users : List LineUser := []
  /-- The extensions of the line, main one first. -/
  extensions : List Extension := []
  pickupGroups : List PickupMembership := []
deriving DecidableEq

@[ext] structure Trunk where
  /-- The context of incoming calls. -/
  context : Option String := none
deriving DecidableEq

@[ext] structure MeetingGuest where
  meetingUuid : String
  meetingName : String
deriving DecidableEq

/-- What owns an endpoint. -/
inductive Owner where
  | line (line : Line)
  | trunk (trunk : Trunk)
  | meetingGuest (guest : MeetingGuest)
deriving DecidableEq

inductive OwnerKind where
  | line
  | trunk
  | meetingGuest
deriving DecidableEq

/-- The word for a kind of owner in messages. -/
def OwnerKind.text : OwnerKind → String
  | line => "line"
  | trunk => "trunk"
  | meetingGuest => "meeting guest"

def Owner.kind : Owner → OwnerKind
  | line _ => .line
  | trunk _ => .trunk
  | meetingGuest _ => .meetingGuest

end PbxTemplates
