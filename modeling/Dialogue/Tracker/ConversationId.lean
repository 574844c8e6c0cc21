import Dialogue.Tracker.Basic

/-!
# Conversation names

A new conversation is named by a random universally unique identifier of version 4:
32 hexadecimal digits, of which one tells the version and the next but three the
variant.
-/

namespace Dialogue

/-- The hexadecimal digit at a place of an identifier, given the random one there. -/
def identifierDigit (place digit : Nat) : Nat :=
  if place = 12 then 4
  else if place = 16 then 8 + digit % 4
  else digit

/-- The identifier made of 128 random bits. -/
def conversationId (random : Nat) : String :=
  String.ofList ((List.range 32).map fun place =>
    Nat.digitChar (identifierDigit place (random / Nat.pow 16 place % 16)))

/-- A new conversation with a random name. -/
def Tracker.newConversation (random : Nat) (schema : SlotSchema) : Tracker :=
  new (conversationId random) schema

end Dialogue
