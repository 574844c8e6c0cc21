import Dialogue.Action.Response

/-!
# Stubbed actions

Answers that stand in for custom actions in tests.  A stub is kept under the name of
its action, or under that name behind the name of a test file or test case.  The
stub of the test case goes before that of the test file, and both before a bare one.
-/

namespace Dialogue

/-- What separates a scope from the name of an action. -/
def stubSeparator : String := "::"

/-- The key of a stub for one test file or test case. -/
def stubKey (scope action : String) : String :=
  scope ++ stubSeparator ++ action

/-- The characters, last one first, that precede the first separator. -/
def beforeSeparator : List Char → List Char
  | ':' :: ':' :: _ => []
  | char :: chars => char :: beforeSeparator chars
  | [] => []

/-- The name of the action in a key: what follows the last separator. -/
def stubActionName (key : String) : String :=
  String.ofList (beforeSeparator key.toList.reverse).reverse

/-- An answer that stands in for an action. -/
structure StubbedAction where
  /-- The action. -/
  actionName : String
  /-- The answer. -/
  response : ActionResponse

/-- Stubs by key, for one test file and test case. -/
structure StubRegistry where
  /-- The test file that is running. -/
  testFile : Option String := none
  /-- The test case that is running. -/
  testCase : Option String := none
  /-- The stubs. -/
  stubs : Table StubbedAction := Table.empty

namespace StubRegistry

/-- Keeps a stub under a key. -/
def insert (registry : StubRegistry) (key : String) (stub : StubbedAction) : StubRegistry :=
  { registry with stubs := registry.stubs.insert key stub }

/-- Reads the answer for a key and keeps it for the action named there. -/
def insertJson? (registry : StubRegistry) (entry : String × Json) : Option StubRegistry := do
  let response ← ActionResponse.ofJson? entry.2
  return registry.insert entry.1 ⟨stubActionName entry.1, response⟩

/-- The registry for a list of keys and answers. -/
def ofEntries? (testFile testCase : Option String) (entries : List (String × Json)) :
    Option StubRegistry :=
  entries.foldlM insertJson? { testFile := testFile, testCase := testCase }

/-- The keys under which an action is looked up, in order. -/
def keysFor (registry : StubRegistry) (action : String) : List String :=
  [registry.testCase, registry.testFile].filterMap (·.map (stubKey · action)) ++ [action]

/-- The stub for an action. -/
def get? (registry : StubRegistry) (action : String) : Option StubbedAction :=
  (registry.keysFor action).findSome? registry.stubs.find?

/-- The stub for an action, or the failure to have one. -/
def require (registry : StubRegistry) (action : String) : Except ActionError StubbedAction :=
  match registry.get? action with
  | some stub => .ok stub
  | none => .error (.unstubbed action)

/-- Runs actions by their stubs. -/
def executor (registry : StubRegistry) : Executor := fun action _ _ =>
  (registry.require action).map StubbedAction.response

end StubRegistry

end Dialogue
