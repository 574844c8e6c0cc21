import Dialogue.Domain.Basic

/-!
# Requests to action servers

What an action server is sent: the action to run, the conversation and the domain.
-/

namespace Dialogue

/-- The version of the request format. -/
def requestVersion : String := "0.1.0"

/-- A request to run an action. -/
structure ActionRequest where
  /-- The action to run. -/
  nextAction : String
  /-- The conversation. -/
  tracker : Snapshot
  /-- The declarations. -/
  domain : Domain

/-- The request to run an action in a conversation. -/
def ActionRequest.of (action : String) (tracker : Tracker) (domain : Domain) :
    ActionRequest where
  nextAction := action
  tracker := tracker.snapshot
  domain := domain

/-- Writes a request. -/
def ActionRequest.toJson (now : Binary64) (request : ActionRequest) : Json :=
  Json.ofMembers [
    ("next_action", .string request.nextAction),
    ("sender_id", .string request.tracker.senderId),
    ("tracker", request.tracker.toJson now),
    ("domain", request.domain.toJson),
    ("version", .string requestVersion)]

end Dialogue
