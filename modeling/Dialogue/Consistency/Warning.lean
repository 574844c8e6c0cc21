import Dialogue.Story.Conflict
import Dialogue.Story.WorkList

/-!
# Warnings

What the checks of domain, stories and flows complain about.
-/

namespace Dialogue

/-- A complaint. -/
inductive Warning where
  /-- A story uses an intent that is not declared. -/
  | unknownIntent (story intent : String)
  /-- No story uses a declared intent. -/
  | unusedIntent (intent : String)
  /-- A story uses an action that is not declared. -/
  | unknownAction (story action : String)
  /-- A story activates a form that is not declared. -/
  | unknownForm (story form : String)
  /-- An utterance of the stories has no response. -/
  | missingResponse (action : String)
  /-- Nothing uses a response. -/
  | unusedResponse (response : String)
  /-- A form names a slot that is not declared. -/
  | undeclaredSlot (form slot : String)
  /-- There are more stories than the limit. -/
  | tooManyStories (limit : Nat)
  /-- Stories contradict each other. -/
  | conflict (found : StoryConflict)
  /-- There is no flow. -/
  | noFlows

namespace Warning

/-- The text of a complaint. -/
def message : Warning → String
  | .unknownIntent .. => "story uses an intent that is not in the domain"
  | .unusedIntent _ => "intent is not used in any story"
  | .unknownAction .. => "story uses an action that is not in the domain"
  | .unknownForm .. => "story activates a form that is not in the domain"
  | .missingResponse _ => "story uses an utterance action that has no response"
  | .unusedResponse _ => "response is not used in any story or flow"
  | .undeclaredSlot .. => "form references a slot that is not in the domain"
  | .tooManyStories _ => "story graph produced too many paths; remaining paths are skipped"
  | .conflict found => found.message
  | .noFlows => "no flows were found"

/-- What a complaint is about. -/
def subjects : Warning → List (String × Json)
  | .unknownIntent story intent => [("story", .string story), ("intent", .string intent)]
  | .unusedIntent intent => [("intent", .string intent)]
  | .unknownAction story action => [("story", .string story), ("action", .string action)]
  | .unknownForm story form => [("story", .string story), ("form", .string form)]
  | .missingResponse action => [("action", .string action)]
  | .unusedResponse response => [("response", .string response)]
  | .undeclaredSlot form slot => [("form", .string form), ("slot", .string slot)]
  | .tooManyStories limit => [("limit", Json.ofNat limit)]
  | .conflict _ => []
  | .noFlows => []

/-- Writes a complaint. -/
def toJson (warning : Warning) : Json :=
  Json.ofMembers (("message", .string warning.message) :: warning.subjects)

end Warning

/-- The complaint about the number of stories, if there are too many. -/
def StoryGraph.warnings (graph : StoryGraph) (domain : Domain) : List Warning :=
  if graph.isTruncated domain then [.tooManyStories storyLimit] else []

end Dialogue
