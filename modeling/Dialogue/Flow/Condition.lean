import Dialogue.Text.Blank

/-!
# Conditions

A condition of a flow can be evaluated when its parentheses are balanced and it is
not blank.  One counter follows the depth of the parentheses from left to right.
-/

namespace Dialogue.Condition

/-- The depth after some characters; none once it falls below zero. -/
def depthAfter : Nat → List Char → Option Nat
  | depth, [] => some depth
  | depth, '(' :: rest => depthAfter (depth + 1) rest
  | 0, ')' :: _ => none
  | depth + 1, ')' :: rest => depthAfter depth rest
  | depth, _ :: rest => depthAfter depth rest

/-- Whether a condition can be evaluated. -/
def isValid (condition : String) : Bool :=
  depthAfter 0 condition.toList == some 0 && condition.toList.any fun char => !Text.isBlank char

end Dialogue.Condition
