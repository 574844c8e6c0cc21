import Dialogue.Action.Stub
import Dialogue.Proofs.Table.Lookup
import Mathlib.Data.List.Induction

/-!
# Stubs and their scopes

The scope of a stub and the name of its action are written into one key, with a separator
that the scope may hold as well.  As long as the names of actions hold no colon, no two
stubs share a key: the name is what follows the last separator, and the scope is what
precedes it.  So an action is answered by the last stub that is meant for it in the test
case, or else in the test file, or else without a scope, and stubs of other scopes or for
other actions make no difference.
-/

namespace Dialogue

/-- A stub as it is written down: an answer for an action in one scope, or in all. -/
structure StubEntry where
  /-- The test file or test case; none if the stub is for all of them. -/
  scope : Option String
  /-- The action. -/
  action : String
  /-- The answer. -/
  answer : Json
  /-- The name of the action holds no colon. -/
  noColon : ':' ∉ action.toList := by decide

/-! ## Keys -/

/-- The key of stubs for an action in a scope. -/
def scopedKey : Option String → String → String
  | none, action => action
  | some scope, action => stubKey scope action

theorem beforeSeparator_cons {char : Char} (notColon : char ≠ ':') (chars : List Char) :
    beforeSeparator (char :: chars) = char :: beforeSeparator chars := by
  simp [beforeSeparator, notColon]

/-- Characters without a colon are read over. -/
theorem beforeSeparator_append {front : List Char} (noColon : ':' ∉ front) (rest : List Char) :
    beforeSeparator (front ++ rest) = front ++ beforeSeparator rest := by
  induction front with
  | nil => rfl
  | cons char front ih =>
      rw [List.mem_cons, not_or] at noColon
      rw [List.cons_append, beforeSeparator_cons (Ne.symm noColon.1), ih noColon.2,
        List.cons_append]

/-- The action is read back from a key. -/
theorem stubActionName_scopedKey (scope : Option String) {action : String}
    (noColon : ':' ∉ action.toList) : stubActionName (scopedKey scope action) = action := by
  have reversed : ':' ∉ action.toList.reverse := by simpa using noColon
  rw [stubActionName]
  cases scope with
  | none =>
      have whole := beforeSeparator_append reversed []
      rw [List.append_nil] at whole
      rw [scopedKey, whole]
      simp [beforeSeparator]
  | some scope =>
      have split : (scopedKey (some scope) action).toList.reverse =
          action.toList.reverse ++ ':' :: ':' :: scope.toList.reverse := by
        simp [scopedKey, stubKey, stubSeparator]
      rw [split, beforeSeparator_append reversed]
      simp [beforeSeparator]

/-- A scope leaves a colon in the key, and nothing else does. -/
theorem colon_mem_scopedKey_iff {scope : Option String} {action : String}
    (noColon : ':' ∉ action.toList) :
    ':' ∈ (scopedKey scope action).toList ↔ scope.isSome = true := by
  cases scope with
  | none => simpa [scopedKey] using noColon
  | some scope => simp [scopedKey, stubKey, stubSeparator]

/-- Stubs share a key only if they are for the same action in the same scope. -/
theorem scopedKey_inj {scope other : Option String} {action name : String}
    (noColon : ':' ∉ action.toList) (noOther : ':' ∉ name.toList) :
    scopedKey scope action = scopedKey other name ↔ scope = other ∧ action = name := by
  constructor
  · intro same
    have sameAction : action = name := by
      rw [← stubActionName_scopedKey scope noColon, same, stubActionName_scopedKey other noOther]
    have bothScoped : scope.isSome = true ↔ other.isSome = true := by
      rw [← colon_mem_scopedKey_iff noColon, same, colon_mem_scopedKey_iff noOther]
    subst sameAction
    refine ⟨?_, rfl⟩
    cases scope with
    | none =>
        cases other with
        | none => rfl
        | some other => simp at bothScoped
    | some scope =>
        cases other with
        | none => simp at bothScoped
        | some other => simpa [scopedKey, stubKey] using same
  · rintro ⟨rfl, rfl⟩
    rfl

/-! ## Stubs as they are written down -/

namespace StubEntry

/-- The key and the answer of a stub. -/
def toPair (entry : StubEntry) : String × Json :=
  (scopedKey entry.scope entry.action, entry.answer)

/-- Whether a stub is for an action in a scope. -/
def isFor (scope : Option String) (action : String) (entry : StubEntry) : Bool :=
  entry.scope == scope && entry.action == action

/-- The stub that the answer gives, if it is one of an action. -/
def stub? (entry : StubEntry) : Option StubbedAction :=
  (ActionResponse.ofJson? entry.answer).map (StubbedAction.mk entry.action)

/-- The last stub for an action in a scope. -/
def lastFor? (entries : List StubEntry) (scope : Option String) (action : String) :
    Option StubEntry :=
  (entries.filter (isFor scope action)).getLast?

/-- The stub that answers for an action: the last one for the test case, or else the last
one for the test file, or else the last one without a scope. -/
def answering? (testFile testCase : Option String) (entries : List StubEntry)
    (action : String) : Option StubEntry :=
  (testCase.bind fun scope => lastFor? entries (some scope) action).or
    ((testFile.bind fun scope => lastFor? entries (some scope) action).or
      (lastFor? entries none action))

/-- Whether a stub is for an action in the test case, in the test file or without a scope. -/
def concerns (testFile testCase : Option String) (action : String) (entry : StubEntry) : Bool :=
  [none, testCase, testFile].contains entry.scope && entry.action == action

theorem isFor_iff {entry : StubEntry} {scope : Option String} {action : String} :
    entry.isFor scope action = true ↔ scope = entry.scope ∧ action = entry.action := by
  rw [isFor, Bool.and_eq_true, beq_iff_eq, beq_iff_eq, eq_comm, @eq_comm _ entry.action]

/-- A stub is kept under the key of an action in a scope exactly if it is for them. -/
theorem scopedKey_eq_iff {entry : StubEntry} {scope : Option String} {action : String}
    (noColon : ':' ∉ action.toList) :
    scopedKey scope action = scopedKey entry.scope entry.action ↔
      entry.isFor scope action = true := by
  rw [scopedKey_inj noColon entry.noColon, isFor_iff]

theorem lastFor?_concat (entries : List StubEntry) (entry : StubEntry)
    (scope : Option String) (action : String) :
    lastFor? (entries ++ [entry]) scope action =
      if entry.isFor scope action then some entry else lastFor? entries scope action := by
  rw [lastFor?, List.filter_append]
  cases isFor : entry.isFor scope action with
  | true => simp [isFor]
  | false => simp [isFor, lastFor?]

theorem mem_of_lastFor? {entries : List StubEntry} {scope : Option String} {action : String}
    {entry : StubEntry} (last : lastFor? entries scope action = some entry) :
    entry ∈ entries ∧ entry.action = action := by
  obtain ⟨member, isFor⟩ := List.mem_filter.mp (List.mem_of_getLast? last)
  exact ⟨member, (isFor_iff.mp isFor).2.symm⟩

/-- What answers for an action is one of the stubs for it. -/
theorem mem_of_answering? {testFile testCase : Option String} {entries : List StubEntry}
    {action : String} {entry : StubEntry}
    (answers : answering? testFile testCase entries action = some entry) :
    entry ∈ entries ∧ entry.action = action := by
  have inScope (given : Option String)
      (last : (given.bind fun scope => lastFor? entries (some scope) action) = some entry) :
      entry ∈ entries ∧ entry.action = action := by
    obtain ⟨scope, _, last⟩ := Option.bind_eq_some_iff.mp last
    exact mem_of_lastFor? last
  rcases Option.or_eq_some_iff.mp answers with ofCase | ⟨_, others⟩
  · exact inScope testCase ofCase
  · rcases Option.or_eq_some_iff.mp others with ofFile | ⟨_, bare⟩
    · exact inScope testFile ofFile
    · exact mem_of_lastFor? bare

theorem stub?_eq_some_iff {entry : StubEntry} {stub : StubbedAction} :
    entry.stub? = some stub ↔
      entry.action = stub.actionName ∧
        ActionResponse.ofJson? entry.answer = some stub.response := by
  obtain ⟨name, response⟩ := stub
  rw [stub?, Option.map_eq_some_iff]
  simp [StubbedAction.mk.injEq, and_comm]

/-- Stubs that are for something else may be left out. -/
theorem lastFor?_filter {entries : List StubEntry} {scope : Option String} {action : String}
    {keep : StubEntry → Bool}
    (kept : ∀ entry ∈ entries, entry.isFor scope action = true → keep entry = true) :
    lastFor? (entries.filter keep) scope action = lastFor? entries scope action := by
  rw [lastFor?, List.filter_filter, lastFor?]
  congr 1
  apply List.filter_congr
  intro entry member
  rw [Bool.eq_iff_iff, Bool.and_eq_true]
  exact ⟨And.left, fun isFor => ⟨isFor, kept entry member isFor⟩⟩

/-- Stubs that do not concern an action may be left out. -/
theorem answering?_filter {testFile testCase : Option String} {entries : List StubEntry}
    {action : String} {keep : StubEntry → Bool}
    (kept : ∀ entry ∈ entries, entry.concerns testFile testCase action = true →
      keep entry = true) :
    answering? testFile testCase (entries.filter keep) action =
      answering? testFile testCase entries action := by
  have keptIn (scope : Option String) (looked : scope ∈ [none, testCase, testFile]) :
      lastFor? (entries.filter keep) scope action = lastFor? entries scope action := by
    apply lastFor?_filter
    intro entry member isFor
    obtain ⟨rfl, rfl⟩ := isFor_iff.mp isFor
    apply kept entry member
    rw [concerns, List.contains_iff_mem.mpr looked, beq_self_eq_true, Bool.and_self]
  have ofCase : (testCase.bind fun scope => lastFor? (entries.filter keep) (some scope) action) =
      testCase.bind fun scope => lastFor? entries (some scope) action :=
    Option.bind_congr fun scope isCase => keptIn (some scope) (by simp [isCase])
  have ofFile : (testFile.bind fun scope => lastFor? (entries.filter keep) (some scope) action) =
      testFile.bind fun scope => lastFor? entries (some scope) action :=
    Option.bind_congr fun scope isFile => keptIn (some scope) (by simp [isFile])
  rw [answering?, ofCase, ofFile, keptIn none List.mem_cons_self, answering?]

/-- Where the first choice has a stub whenever there is one, the choice may be made before
the stub is read. -/
theorem bind_stub?_or {first second : Option StubEntry}
    (readable : ∀ entry, first = some entry → ∃ stub, entry.stub? = some stub) :
    (first.or second).bind stub? = (first.bind stub?).or (second.bind stub?) := by
  cases first with
  | none => rfl
  | some entry =>
      obtain ⟨stub, isStub⟩ := readable entry rfl
      simp [isStub]

end StubEntry

/-! ## Look-ups -/

namespace StubRegistry

variable {testFile testCase : Option String} {entries : List StubEntry}
  {registry : StubRegistry} {scope : Option String} {action : String}

/-- A stub is kept under its key, if its answer is one of an action. -/
theorem insertJson?_toPair (registry : StubRegistry) (entry : StubEntry) :
    registry.insertJson? entry.toPair =
      entry.stub?.map (registry.insert (scopedKey entry.scope entry.action)) := by
  have named : stubActionName (scopedKey entry.scope entry.action) = entry.action :=
    stubActionName_scopedKey entry.scope entry.noColon
  rw [insertJson?, StubEntry.stub?, StubEntry.toPair, Option.map_map, named]
  cases ActionResponse.ofJson? entry.answer <;> rfl

theorem ofEntries?_concat_eq_some_iff {entry : StubEntry} :
    ofEntries? testFile testCase ((entries ++ [entry]).map StubEntry.toPair) = some registry ↔
      ∃ earlier stub, ofEntries? testFile testCase (entries.map StubEntry.toPair) = some earlier ∧
        entry.stub? = some stub ∧
        earlier.insert (scopedKey entry.scope entry.action) stub = registry := by
  rw [ofEntries?, List.map_append, List.foldlM_append, Option.bind_eq_bind,
    Option.bind_eq_some_iff]
  simp [insertJson?_toPair, ofEntries?]

/-- A registry is for the test file and the test case that it was made for. -/
theorem scopes_of_ofEntries?
    (loaded : ofEntries? testFile testCase (entries.map StubEntry.toPair) = some registry) :
    registry.testFile = testFile ∧ registry.testCase = testCase := by
  induction entries using List.reverseRecOn generalizing registry with
  | nil =>
      obtain rfl := Option.some.inj loaded
      exact ⟨rfl, rfl⟩
  | append_singleton entries entry ih =>
      obtain ⟨earlier, stub, loadedEarlier, _, rfl⟩ := ofEntries?_concat_eq_some_iff.mp loaded
      have scopes := ih loadedEarlier
      exact scopes

/-- Under the key of an action in a scope stands the last stub for them. -/
theorem find?_stubs
    (loaded : ofEntries? testFile testCase (entries.map StubEntry.toPair) = some registry)
    (scope : Option String) (noColon : ':' ∉ action.toList) :
    registry.stubs.find? (scopedKey scope action) =
      (StubEntry.lastFor? entries scope action).bind StubEntry.stub? := by
  induction entries using List.reverseRecOn generalizing registry with
  | nil =>
      obtain rfl := Option.some.inj loaded
      rfl
  | append_singleton entries entry ih =>
      obtain ⟨earlier, stub, loadedEarlier, isStub, rfl⟩ :=
        ofEntries?_concat_eq_some_iff.mp loaded
      have found : (earlier.insert (scopedKey entry.scope entry.action) stub).stubs.find?
          (scopedKey scope action) =
          if scopedKey scope action = scopedKey entry.scope entry.action then some stub
          else earlier.stubs.find? (scopedKey scope action) :=
        Table.find?_insert earlier.stubs _ _ stub
      rw [found, StubEntry.lastFor?_concat]
      by_cases isFor : entry.isFor scope action = true
      · rw [if_pos ((StubEntry.scopedKey_eq_iff noColon).mpr isFor), if_pos isFor,
          Option.bind_some, isStub]
      · rw [if_neg (mt (StubEntry.scopedKey_eq_iff noColon).mp isFor), if_neg isFor,
          ih loadedEarlier]

/-- A registry can be made of stubs exactly if all their answers are answers of actions. -/
theorem exists_ofEntries?_iff :
    (∃ registry, ofEntries? testFile testCase (entries.map StubEntry.toPair) = some registry) ↔
      ∀ entry ∈ entries, ∃ stub, entry.stub? = some stub := by
  induction entries using List.reverseRecOn with
  | nil => simp [ofEntries?]
  | append_singleton entries entry ih =>
      simp only [ofEntries?_concat_eq_some_iff, List.forall_mem_append, List.forall_mem_singleton,
        ← ih]
      constructor
      · rintro ⟨_, earlier, stub, loaded, isStub, _⟩
        exact ⟨⟨earlier, loaded⟩, stub, isStub⟩
      · rintro ⟨⟨earlier, loaded⟩, stub, isStub⟩
        exact ⟨_, earlier, stub, loaded, isStub, rfl⟩

/-- An action is looked up in the test case, in the test file and without a scope. -/
theorem get?_eq (registry : StubRegistry) (action : String) :
    registry.get? action =
      (registry.testCase.bind fun scope => registry.stubs.find? (scopedKey (some scope) action)).or
        ((registry.testFile.bind fun scope =>
          registry.stubs.find? (scopedKey (some scope) action)).or
            (registry.stubs.find? (scopedKey none action))) := by
  have keyByKey (key : String) (keys : List String) :
      (key :: keys).findSome? registry.stubs.find? =
        (registry.stubs.find? key).or (keys.findSome? registry.stubs.find?) := by
    rw [List.findSome?_cons]
    cases registry.stubs.find? key <;> rfl
  rw [get?, keysFor]
  cases registry.testCase <;> cases registry.testFile <;> simp [scopedKey, keyByKey]

/-- What answers for an action is looked up. -/
theorem get?_of_ofEntries?
    (loaded : ofEntries? testFile testCase (entries.map StubEntry.toPair) = some registry)
    (noColon : ':' ∉ action.toList) :
    registry.get? action =
      (StubEntry.answering? testFile testCase entries action).bind StubEntry.stub? := by
  obtain ⟨file, case⟩ := scopes_of_ofEntries? loaded
  have readable := exists_ofEntries?_iff.mp ⟨registry, loaded⟩
  have inScope : ∀ (given : Option String) (entry : StubEntry),
      (given.bind fun scope => StubEntry.lastFor? entries (some scope) action) = some entry →
        ∃ stub, entry.stub? = some stub := by
    intro given entry last
    obtain ⟨scope, _, last⟩ := Option.bind_eq_some_iff.mp last
    exact readable entry (StubEntry.mem_of_lastFor? last).1
  rw [StubEntry.answering?, StubEntry.bind_stub?_or (inScope testCase),
    StubEntry.bind_stub?_or (inScope testFile), Option.bind_assoc, Option.bind_assoc,
    get?_eq, file, case]
  simp only [find?_stubs loaded _ noColon]

/-- A look-up finds a stub with the name of the action and the answer that is written down. -/
theorem get?_eq_some_iff
    (loaded : ofEntries? testFile testCase (entries.map StubEntry.toPair) = some registry)
    (noColon : ':' ∉ action.toList) {stub : StubbedAction} :
    registry.get? action = some stub ↔
      stub.actionName = action ∧
        ∃ entry, StubEntry.answering? testFile testCase entries action = some entry ∧
          ActionResponse.ofJson? entry.answer = some stub.response := by
  rw [get?_of_ofEntries? loaded noColon, Option.bind_eq_some_iff]
  simp only [StubEntry.stub?_eq_some_iff]
  constructor
  · rintro ⟨entry, answers, named, response⟩
    exact ⟨named.symm.trans (StubEntry.mem_of_answering? answers).2, entry, answers, response⟩
  · rintro ⟨named, entry, answers, response⟩
    exact ⟨entry, answers, (StubEntry.mem_of_answering? answers).2.trans named.symm, response⟩

/-- A look-up fails only if no stub answers. -/
theorem get?_eq_none_iff
    (loaded : ofEntries? testFile testCase (entries.map StubEntry.toPair) = some registry)
    (noColon : ':' ∉ action.toList) :
    registry.get? action = none ↔
      StubEntry.answering? testFile testCase entries action = none := by
  rw [get?_of_ofEntries? loaded noColon]
  cases answers : StubEntry.answering? testFile testCase entries action with
  | none => simp
  | some entry =>
      have readable := exists_ofEntries?_iff.mp ⟨registry, loaded⟩
      obtain ⟨stub, isStub⟩ := readable entry (StubEntry.mem_of_answering? answers).1
      simp [isStub]

/-- Two lists of stubs that share those that concern an action answer it alike. -/
theorem get?_eq_of_filter_eq {others : List StubEntry} {otherRegistry : StubRegistry}
    (loaded : ofEntries? testFile testCase (entries.map StubEntry.toPair) = some registry)
    (otherLoaded : ofEntries? testFile testCase (others.map StubEntry.toPair) =
      some otherRegistry)
    (noColon : ':' ∉ action.toList)
    (same : others.filter (StubEntry.concerns testFile testCase action) =
      entries.filter (StubEntry.concerns testFile testCase action)) :
    otherRegistry.get? action = registry.get? action := by
  have concerned (list : List StubEntry) :
      StubEntry.answering? testFile testCase
          (list.filter (StubEntry.concerns testFile testCase action)) action =
        StubEntry.answering? testFile testCase list action :=
    StubEntry.answering?_filter fun _ _ concerns => concerns
  rw [get?_of_ofEntries? otherLoaded noColon, get?_of_ofEntries? loaded noColon,
    ← concerned others, same, concerned entries]

/-- Without some of the stubs there still is a registry. -/
theorem exists_ofEntries?_filter (keep : StubEntry → Bool)
    (loaded : ofEntries? testFile testCase (entries.map StubEntry.toPair) = some registry) :
    ∃ fewer, ofEntries? testFile testCase ((entries.filter keep).map StubEntry.toPair) =
      some fewer := by
  have readable := exists_ofEntries?_iff.mp ⟨registry, loaded⟩
  apply exists_ofEntries?_iff.mpr
  intro entry member
  exact readable entry (List.mem_of_mem_filter member)

/-- An action is answered under its own name by the last stub for it in the test case, or
else in the test file, or else without a scope, and by none if there is no such stub.  Stubs
that are for other scopes or other actions may be added or left out. -/
theorem get?_respects_scopes
    (loaded : ofEntries? testFile testCase (entries.map StubEntry.toPair) = some registry)
    (noColon : ':' ∉ action.toList) :
    (∀ stub, registry.get? action = some stub ↔
      stub.actionName = action ∧
        ∃ entry, StubEntry.answering? testFile testCase entries action = some entry ∧
          ActionResponse.ofJson? entry.answer = some stub.response) ∧
    (registry.get? action = none ↔
      StubEntry.answering? testFile testCase entries action = none) ∧
    (∀ (others : List StubEntry) (otherRegistry : StubRegistry),
      ofEntries? testFile testCase (others.map StubEntry.toPair) = some otherRegistry →
      others.filter (StubEntry.concerns testFile testCase action) =
        entries.filter (StubEntry.concerns testFile testCase action) →
      otherRegistry.get? action = registry.get? action) ∧
    ∀ keep : StubEntry → Bool,
      (∀ entry ∈ entries, entry.concerns testFile testCase action = true → keep entry = true) →
      ∃ fewer, ofEntries? testFile testCase ((entries.filter keep).map StubEntry.toPair) =
          some fewer ∧ fewer.get? action = registry.get? action := by
  refine ⟨fun _ => get?_eq_some_iff loaded noColon, get?_eq_none_iff loaded noColon, ?_, ?_⟩
  · intro others otherRegistry otherLoaded same
    exact get?_eq_of_filter_eq loaded otherLoaded noColon same
  · intro keep kept
    obtain ⟨fewer, fewerLoaded⟩ := exists_ofEntries?_filter keep loaded
    refine ⟨fewer, fewerLoaded, ?_⟩
    rw [get?_of_ofEntries? fewerLoaded noColon, get?_of_ofEntries? loaded noColon,
      StubEntry.answering?_filter kept]

/-- Three stubs for one action: for all tests, for a test case whose name holds a separator,
and for a test file whose name is the end of that.  The one for the test case answers, and
the one for the other test file makes no difference. -/
theorem get?_respects_scopes_of_happy_path :
    let spoken (text : String) : Json := Json.ofMembers [("responses", .array [.string text])]
    let entries : List StubEntry := [
      { scope := none, action := "action_check", answer := spoken "bare" },
      { scope := some "e2e.yml::happy", action := "action_check", answer := spoken "case" },
      { scope := some "happy", action := "action_check", answer := spoken "other" }]
    ∃ registry, ofEntries? (some "e2e.yml") (some "e2e.yml::happy")
        (entries.map StubEntry.toPair) = some registry ∧
      ':' ∉ "action_check".toList ∧
      registry.get? "action_check" = some ⟨"action_check", { responses := [.string "case"] }⟩ ∧
      registry.get? "action_pay" = none := by
  intro spoken entries
  have isLoaded : (ofEntries? (some "e2e.yml") (some "e2e.yml::happy")
      (entries.map StubEntry.toPair)).isSome = true := by decide
  obtain ⟨registry, loaded⟩ := Option.isSome_iff_exists.mp isLoaded
  have noColon : ':' ∉ "action_check".toList := by decide
  have noOther : ':' ∉ "action_pay".toList := by decide
  refine ⟨registry, loaded, noColon, ?_, ?_⟩
  · apply ((get?_respects_scopes loaded noColon).1 _).mpr
    exact ⟨rfl, _, rfl, rfl⟩
  · exact (get?_respects_scopes loaded noOther).2.1.mpr rfl

end StubRegistry

end Dialogue
