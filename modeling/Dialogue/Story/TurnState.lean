import Dialogue.Digest.Sha256
import Dialogue.Domain.Basic

/-!
# Turn states

What the choice of the next action may depend on: the latest action, the intent
right after the user spoke, the slots that influence the conversation, and the
active loop.  Slot values are kept as JSON text, so that turn states can be compared
and hashed.
-/

namespace Dialogue

/-- What is known when the next action is chosen. -/
structure TurnState where
  /-- The latest action. -/
  prevAction : Option String := none
  /-- The intent of the user, right after the user spoke. -/
  intent : Option String := none
  /-- The text of the value of every slot that counts. -/
  slots : Table String := Table.empty
  /-- The active loop. -/
  activeLoop : Option String := none
deriving DecidableEq

namespace TurnState

/-- Whether a slot counts: it is set, declared, and influences the conversation. -/
def slotCounts (domain : Domain) (name : String) (value : Json) : Bool :=
  !value.isNull && (domain.slot? name).any SlotSpec.influencesConversation

/-- The turn state at the end of a tracker. -/
def ofTracker (tracker : Tracker) (domain : Domain) : TurnState where
  prevAction := tracker.latestAction
  intent := if tracker.latestAction = some listenAction then tracker.latestIntentName else none
  slots := (tracker.state.slots.filter (slotCounts domain)).map fun _ value => value.compact
  activeLoop := tracker.activeLoopName

/-- The members of a turn state in the order of hashing. -/
def members (state : TurnState) : List (String × Json) := [
  ("prev_action", Json.ofString? state.prevAction),
  ("intent", Json.ofString? state.intent),
  ("slots", Json.ofTable (state.slots.map fun _ text => .string text)),
  ("active_loop", Json.ofString? state.activeLoop)]

/-- Writes a turn state. -/
def toJson (state : TurnState) : Json :=
  Json.ofMembers state.members

/-- The text of turn states that is hashed. -/
def canonicalText (states : List TurnState) : String :=
  (Json.array (states.map fun state => .object state.members)).compact

/-- The hash of a list of turn states. -/
def fingerprint (states : List TurnState) : String :=
  Sha256.hexDigest (canonicalText states).toUTF8.toList

end TurnState

end Dialogue
