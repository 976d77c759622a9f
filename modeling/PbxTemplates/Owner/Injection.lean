import PbxTemplates.Owner.Basic
import PbxTemplates.Tenant
import PbxTemplates.Text.Decimal

/-!
# Entries that an owner injects

An owner adds entries to the endpoint and aor sections of the endpoint that it owns. They reach no
descendant of that endpoint.
-/

namespace PbxTemplates

/-- The entries that an owner adds to its endpoint. -/
@[ext] structure Injection where
  endpoint : Section := []
  aor : Section := []
deriving DecidableEq, Inhabited

/-- The channel variables that identify a user of a line. -/
def LineUser.entries (u : LineUser) : Section :=
  [.setVar "XIVO_USERID" (Decimal.text u.id.toNat),
   .setVar "XIVO_USERUUID" u.uuid,
   .setVar "WAZO_USER_SIMULTCALLS" (Decimal.text u.simultaneousCalls.toNat)]

namespace Line

/-- The context of outgoing calls; the application that a line is bound to comes first. -/
def outgoingContext (l : Line) : Option String :=
  match l.applicationUuid with
  | some application => some ("stasis-wazo-app-" ++ application)
  | none => l.context

/-- The mailboxes of all users, separated by commas. -/
def mailboxes (l : Line) : Option String :=
  match l.users.filterMap fun u => u.voicemail.map (·.mailbox) with
  | [] => none
  | boxes => some (",".intercalate boxes)

/-- The numbers of the groups in which the line has a role, increasing and without repetition. -/
def groupIds (l : Line) (role : PickupRole) : List UInt64 :=
  (SortedMap.ofKeys ((l.pickupGroups.filter fun m => m.role == role).map (·.groupId))).keys

/-- The entry that lists the groups in which the line has a role, if there are any. -/
def groupEntries (l : Line) (key : String) (role : PickupRole) : Section :=
  match l.groupIds role with
  | [] => []
  | ids => [⟨key, ",".intercalate (ids.map fun id => Decimal.text id.toNat)⟩]

def contextEntries (context : String) : Section :=
  [.setVar "TRANSFER_CONTEXT" context, ⟨"context", context⟩]

def pickupEntry (e : Extension) : Entry := .setVar "PICKUPMARK" (e.exten ++ "%" ++ e.context)

def injection (l : Line) : Injection where
  endpoint :=
    [.setVar "WAZO_CHANNEL_DIRECTION" "from-wazo",
     .setVar "WAZO_LINE_ID" (Decimal.text l.id.toNat)]
    ++ l.users.flatMap (·.entries)
    ++ l.outgoingContext.elim [] contextEntries
    ++ l.extensions.head?.elim [] (fun e => [pickupEntry e])
    ++ l.groupEntries "named_pickup_group" .pickup
    ++ l.groupEntries "named_call_group" .call
  aor := l.mailboxes.elim [] fun boxes => [⟨"mailboxes", boxes⟩]

end Line

def Trunk.injection (t : Trunk) : Injection where
  endpoint :=
    .setVar "WAZO_CHANNEL_DIRECTION" "to-wazo" :: t.context.elim [] fun c => [⟨"context", c⟩]

def MeetingGuest.injection (g : MeetingGuest) : Injection where
  endpoint :=
    [.setVar "WAZO_CHANNEL_DIRECTION" "from-wazo",
     .setVar "WAZO_MEETING_UUID" g.meetingUuid,
     .setVar "WAZO_MEETING_NAME" g.meetingName]

namespace Owner

/-- The entries that depend on the owner alone. -/
def ownInjection : Owner → Injection
  | line l => l.injection
  | trunk t => t.injection
  | meetingGuest g => g.injection

/-- All entries that an owner injects: its own ones, then the recording announcements of the
tenant. -/
def injection (o : Owner) (tenant : TenantSettings) : Injection :=
  { o.ownInjection with endpoint := o.ownInjection.endpoint ++ [tenant.recordingEntry] }

end Owner

end PbxTemplates
