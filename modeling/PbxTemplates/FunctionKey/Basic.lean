import PbxTemplates.SortedMap

/-!
# Function keys

A template of function keys says what the keys of a telephone do, by position. Templates are layered
position by position: a key of the upper template replaces the whole key below it.
-/

namespace PbxTemplates

inductive Destination where
  | user (userId : UInt64)
  | group (groupId : UInt64)
  | queue (queueId : UInt64)
  | conference (conferenceId : UInt64)
  | paging (pagingId : UInt64)
  | parkPosition (parkingLotId : UInt64) (position : UInt32)
  | custom (exten : String)
  | service (service : String)
  /-- Forwards calls, to a fixed extension if there is one. -/
  | forward (forward : String) (exten : Option String)
  | transfer (transfer : String)
  | agent (agentId : UInt64) (action : String)
  /-- Switches the filter between a manager and an assistant. -/
  | bsFilter (filterMemberId : UInt64)
deriving DecidableEq

@[ext] structure FunctionKey where
  label : Option String := none
  /-- Whether the lamp of the key shows the state of its destination. -/
  blf : Bool := true
  /-- Whether the key comes from a shared template. -/
  inherited : Bool := true
  destination : Destination
deriving DecidableEq

abbrev KeyMap := SortedMap UInt32 FunctionKey

@[ext] structure KeyTemplate where
  /-- The number under which users refer to the template. -/
  id : Option UInt64 := none
  name : Option String := none
  /-- Whether the template belongs to a single user. -/
  isPrivate : Bool := false
  keys : KeyMap := ∅
deriving DecidableEq, Inhabited

namespace KeyTemplate

/-- The nameless template of a list of keys; at equal positions the last one stays. -/
def ofKeys (keys : List (UInt32 × FunctionKey)) : KeyTemplate := { keys := .ofList keys }

def get? (t : KeyTemplate) (position : UInt32) : Option FunctionKey := t.keys.get? position

def positions (t : KeyTemplate) : List UInt32 := t.keys.keys

def size (t : KeyTemplate) : Nat := t.keys.size

/-- The nameless template with all keys of `upper`, and those of `lower` at other positions. -/
def layer (lower upper : KeyTemplate) : KeyTemplate :=
  { keys := lower.keys.insertMany upper.keys.toList }

/-- The keys of a user: the private template over the public one, either of which may be absent. -/
def ofUser (shared own : Option KeyTemplate) : KeyTemplate :=
  (shared.getD {}).layer (own.getD {})

end KeyTemplate

end PbxTemplates
