import Dialogue.Table
import Dialogue.Json.Basic
import Dialogue.Text.Quoted

/-!
# Intent filters

A slot mapping applies to messages with certain intents: to all of them, only to the
listed ones, or to all but the listed ones.  A mapping that lists both kinds is
refused.
-/

namespace Dialogue

/-- What can be wrong with a slot mapping. -/
inductive MappingError where
  /-- The value is no object; its compact text is kept. -/
  | notAMapping (text : String)
  /-- There is no type, or it is no string. -/
  | missingType
  /-- No mapping has that type. -/
  | unsupportedType (name : String)
  /-- A member that the type needs is missing or no string. -/
  | missingField (kind field : String)
  /-- Intents are both listed and excluded. -/
  | conflictingIntents (only except : List String)
deriving DecidableEq

/-- The text of a mapping error. -/
def MappingError.message : MappingError → String
  | .notAMapping text =>
      s!"provided incompatible slot mapping: expected an object, got {text}"
  | .missingType => "provided incompatible slot mapping: missing 'type'"
  | .unsupportedType name => s!"slot mapping type '{name}' is not supported"
  | .missingField kind field =>
      s!"slot mapping '{kind}' is missing required field '{field}'"
  | .conflictingIntents only except =>
      "providing both intent " ++ Text.quoteList only ++ " and not_intent "
        ++ Text.quoteList except ++ " is not supported"

/-- The intents to which a mapping applies. -/
inductive IntentFilter where
  /-- All messages. -/
  | any
  /-- Messages with one of these intents. -/
  | only (intents : NameSet)
  /-- Messages with none of these intents. -/
  | except (intents : NameSet)
deriving DecidableEq

namespace IntentFilter

/-- The filter for two lists, of which at most one may have members. -/
def ofLists (only except : List String) : Except MappingError IntentFilter :=
  match only.isEmpty, except.isEmpty with
  | true, true => .ok .any
  | false, true => .ok (.only (NameSet.ofNames only))
  | true, false => .ok (.except (NameSet.ofNames except))
  | false, false => .error (.conflictingIntents only except)

/-- Whether a message passes; one without an intent is not among the listed ones. -/
def accepts (filter : IntentFilter) (intent : Option String) : Bool :=
  match filter, intent with
  | .any, _ => true
  | .only intents, some name => intents.contains name
  | .only _, none => false
  | .except intents, some name => !intents.contains name
  | .except _, none => true

/-- The members that a filter adds to its mapping. -/
def members : IntentFilter → List (String × Json)
  | .any => []
  | .only intents => [("intent", Json.ofStrings intents.keys)]
  | .except intents => [("not_intent", Json.ofStrings intents.keys)]

end IntentFilter

end Dialogue
