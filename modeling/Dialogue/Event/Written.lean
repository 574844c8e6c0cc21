import Dialogue.Event.Wire
import Dialogue.Json.RecordText

/-!
# Events as they are written

An event that is read straight from a text must not repeat a member that counts: its tag,
time and metadata, the members that belong to its tag, and for a message those of what was
understood.  Members of other names may be repeated, and so may those inside values that
only pass through; there the later one counts.
-/

namespace Dialogue

/-- The members that belong to a tag. -/
def Tag.memberNames : Tag → List String
  | .slot => ["name", "value"]
  | .user => ["text", "parse_data", "input_channel"]
  | .bot => ["text", "data"]
  | .action => ["name", "policy", "confidence"]
  | .undo => []
  | .rewind => []
  | .restart => []
  | .form => ["name"]
  | .formValidation => ["validate"]
  | .actionExecutionRejected => ["name"]

/-- Whether no member is repeated in what was understood. -/
def ParseData.repeatsNone : Json → Bool
  | .object members =>
      Entries.repeatsNone ["intent", "entities"] members
        && (Entries.find? "intent" members).all (Json.repeatsNone Intent.memberNames)
        && match Entries.find? "entities" members with
          | some (.array items) => items.all (Json.repeatsNone Entity.memberNames)
          | _ => true
  | _ => true

namespace Event

/-- Whether no member is repeated that counts for an event. -/
def repeatsNone : Json → Bool
  | .object members =>
      Entries.repeatsNone ["event", "timestamp", "metadata"] members
        && match (Entries.find? "event" members).bind Tag.ofJson? with
          | some tag =>
              Entries.repeatsNone tag.memberNames members
                && (tag != .user
                  || (Entries.find? "parse_data" members).all ParseData.repeatsNone)
          | none => true
  | _ => true

/-- Whether no event of a list repeats a member that counts. -/
def listRepeatsNone : Json → Bool
  | .array items => items.all repeatsNone
  | _ => true

end Event

end Dialogue
