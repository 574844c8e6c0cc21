import Dialogue.Event.Wire
import Dialogue.Proofs.Json.Record
import Dialogue.Proofs.Tracker.Replay

/-!
# Events come back from the wire

Reading a written event gives the same event, with its time and its metadata, for
every event that can be written at all: the places of its entities are words, and what
was understood passes no member through under a name of its own.  Whatever is read from
the wire is such an event.  What reading drops is dropped once: an event that was read
is written without it, and the members that pass through stay as they were.
-/

namespace Dialogue

/-! ## Intents and entities -/

namespace Intent

theorem toJson_shows (intent : Intent) :
    ∃ members : Entries Json, intent.toJson = .object members ∧ members.Shows [
      ("name", some (.string intent.name)),
      ("confidence", intent.confidence.map Json.ofBinary64)] :=
  ⟨_, rfl, Entries.shows_ofList_present (by simp)⟩

/-- Every intent comes back. -/
theorem ofJson?_toJson (intent : Intent) : ofJson? intent.toJson = some intent := by
  obtain ⟨members, written, shows⟩ := intent.toJson_shows
  have name : members.required "name" Json.string? = some intent.name :=
    Entries.required_of_find? (shows "name")
  have confidence : members.optional "confidence" Json.binary64? = some intent.confidence :=
    Entries.optional_of_find? (shows "confidence") (fun _ _ => rfl) fun _ => rfl
  rw [written]
  simp [ofJson?, Json.record?, name, confidence]

end Intent

namespace Entity

/-- The places of an entity are words. -/
structure Fits (entity : Entity) : Prop where
  start_lt : ∀ place, entity.start = some place → place < 2 ^ 64
  stop_lt : ∀ place, entity.stop = some place → place < 2 ^ 64

theorem toJson_shows (entity : Entity) :
    ∃ members : Entries Json, entity.toJson = .object members ∧ members.Shows [
      ("entity", some (.string entity.entity)),
      ("value", some entity.value),
      ("role", entity.role.map .string),
      ("group", entity.group.map .string),
      ("start", entity.start.map Json.ofNat),
      ("end", entity.stop.map Json.ofNat),
      ("confidence", entity.confidence.map Json.ofBinary64),
      ("extractor", entity.extractor.map .string)] :=
  ⟨_, rfl, Entries.shows_ofList_present (by simp)⟩

/-- An entity with places that are words comes back. -/
theorem ofJson?_toJson {entity : Entity} (fits : entity.Fits) :
    ofJson? entity.toJson = some entity := by
  obtain ⟨members, written, shows⟩ := entity.toJson_shows
  have kind : members.required "entity" Json.string? = some entity.entity :=
    Entries.required_of_find? (shows "entity")
  have value : members.required "value" some = some entity.value :=
    Entries.required_of_find? (shows "value")
  have role : members.optional "role" Json.string? = some entity.role :=
    Entries.optional_of_find? (shows "role") (fun _ _ => rfl) fun _ => rfl
  have group : members.optional "group" Json.string? = some entity.group :=
    Entries.optional_of_find? (shows "group") (fun _ _ => rfl) fun _ => rfl
  have start : members.optional "start" Json.word? = some entity.start :=
    Entries.optional_of_find? (shows "start")
      (fun place given => Json.word?_ofNat (fits.start_lt place given)) fun _ => rfl
  have stop : members.optional "end" Json.word? = some entity.stop :=
    Entries.optional_of_find? (shows "end")
      (fun place given => Json.word?_ofNat (fits.stop_lt place given)) fun _ => rfl
  have confidence : members.optional "confidence" Json.binary64? = some entity.confidence :=
    Entries.optional_of_find? (shows "confidence") (fun _ _ => rfl) fun _ => rfl
  have extractor : members.optional "extractor" Json.string? = some entity.extractor :=
    Entries.optional_of_find? (shows "extractor") (fun _ _ => rfl) fun _ => rfl
  rw [written]
  simp [ofJson?, Json.record?, kind, value, role, group, start, stop, confidence, extractor]

/-- The places of an entity that was read are words. -/
theorem fits_of_ofJson? {value : Json} {entity : Entity} (read : ofJson? value = some entity) :
    entity.Fits := by
  have place_lt : ∀ {members : Entries Json} {name : String} {found : Option Nat},
      members.optional name Json.word? = some found → ∀ place, found = some place →
        place < 2 ^ 64 := by
    rintro members name found isFound place rfl
    obtain ⟨held, _, word⟩ := Entries.exists_of_optional_eq_some isFound
    exact Json.lt_of_word?_eq_some word
  simp only [ofJson?, Option.bind_eq_bind, Option.bind_eq_some_iff] at read
  obtain ⟨members, _, kind, _, found, _, role, _, group, _, start, isStart, stop, isStop,
    confidence, _, extractor, _, rest⟩ := read
  obtain rfl := Option.some.inj rest
  exact ⟨place_lt isStart, place_lt isStop⟩

end Entity

/-! ## What was understood -/

namespace ParseData

/-- The names of the members that do not pass through. -/
def ownNames : List String :=
  ["intent", "entities"]

/-- The places of the entities are words, and no member passes through under one of the
names of the other members. -/
structure Writable (parse : ParseData) : Prop where
  fits : ∀ entity ∈ parse.entities, entity.Fits
  free : ∀ name ∈ ownNames, parse.extra.find? name = none

theorem writable_default : Writable {} where
  fits := by simp
  free _ _ := rfl

/-- The members that do not pass through. -/
def fields (parse : ParseData) : List (String × Option Json) := [
  ("intent", parse.intent.map Intent.toJson),
  ("entities", some (.array (parse.entities.map Entity.toJson)))]

theorem nodup_fields (parse : ParseData) : (parse.fields.map Prod.fst).Nodup := by
  simp [fields]

theorem toJson_shows {parse : ParseData} (writable : parse.Writable) :
    ∃ members : Entries Json, parse.toJson = .object members ∧ members.Sorted ∧
      ∀ name, members.find? name =
        (Entries.find? name parse.fields).join.or (parse.extra.find? name) := by
  have names : ((Json.present parse.fields ++ parse.extra.entries).map Prod.fst).Nodup := by
    rw [List.map_append]
    refine List.Nodup.append (parse.nodup_fields.sublist (Entries.present_sublist _))
      parse.extra.sorted.nodup ?_
    intro name own passes
    have isOwn : name ∈ ownNames := (Entries.present_sublist parse.fields).subset own
    exact Entries.find?_eq_none_iff.mp (writable.free name isOwn) passes
  refine ⟨_, rfl, Entries.sorted_ofList _, fun name => ?_⟩
  rw [← Entries.find?_present parse.nodup_fields]
  exact (Entries.find?_ofList names name).trans (Entries.find?_append name _ _)

/-- What passes through stands in the written object under its own name. -/
theorem find?_of_notMem_ownNames {parse : ParseData} {members : Entries Json}
    (shows : ∀ name, members.find? name =
      (Entries.find? name parse.fields).join.or (parse.extra.find? name))
    {name : String} (other : name ∉ ownNames) :
    members.find? name = parse.extra.find? name := by
  rw [shows, (Entries.find?_eq_none_iff.mpr other : Entries.find? name parse.fields = none)]
  rfl

/-- What was understood comes back, with the members that pass through. -/
theorem ofJson?_toJson {parse : ParseData} (writable : parse.Writable) :
    ofJson? parse.toJson = some parse := by
  obtain ⟨members, written, sorted, shows⟩ := toJson_shows writable
  have foundIntent : members.find? "intent" = parse.intent.map Intent.toJson := by
    rw [shows, writable.free "intent" (by simp [ownNames]), Option.or_none]
    rfl
  have intent : members.optional "intent" Intent.ofJson? = some parse.intent :=
    Entries.optional_of_find? foundIntent (fun intent _ => intent.ofJson?_toJson) fun _ => rfl
  have foundEntities :
      members.find? "entities" = some (.array (parse.entities.map Entity.toJson)) := by
    rw [shows, writable.free "entities" (by simp [ownNames]), Option.or_none]
    rfl
  have entities :
      members.defaulted "entities" [] (Json.list? Entity.ofJson?) = some parse.entities := by
    rw [Entries.defaulted_of_find? foundEntities]
    exact Json.list?_array_map fun entity member =>
      Entity.ofJson?_toJson (writable.fits entity member)
  have extra : Table.ofList (members.without ownNames) = parse.extra := by
    apply Table.ext_find?
    intro name
    rw [Table.find?_ofList_without, Table.find?_ofList sorted.nodup]
    by_cases own : name ∈ ownNames
    · rw [if_pos own, writable.free name own]
    · rw [if_neg own, find?_of_notMem_ownNames shows own]
  rw [written]
  simp [ofJson?, Json.object?, intent, entities]
  exact congrArg _ extra

/-- What was read can be written, and every other member of the object passed through. -/
theorem writable_of_ofJson? {members : Entries Json} {parse : ParseData}
    (read : ofJson? (.object members) = some parse) :
    parse.Writable ∧
      ∀ name ∉ ownNames, parse.extra.find? name = (Table.ofList members).find? name := by
  simp only [ofJson?, Json.object?, Option.bind_eq_bind, Option.bind_some,
    Option.bind_eq_some_iff] at read
  obtain ⟨intent, _, entities, isEntities, rest⟩ := read
  obtain rfl := Option.some.inj rest
  refine ⟨⟨?_, ?_⟩, ?_⟩
  · unfold Entries.defaulted at isEntities
    split at isEntities
    · obtain rfl := Option.some.inj isEntities
      simp
    · intro entity member
      obtain ⟨value, isEntity⟩ := Json.exists_of_mem_list? isEntities member
      exact Entity.fits_of_ofJson? isEntity
  · intro name own
    exact (Table.find?_ofList_without members ownNames name).trans (if_pos own)
  · intro name other
    exact (Table.find?_ofList_without members ownNames name).trans (if_neg other)

end ParseData

/-! ## Messages -/

namespace UserMessage

/-- Reading the members of a message gives the message back. -/
theorem ofMembers?_of_shows {message : UserMessage} (writable : message.parse.Writable)
    {members : Entries Json}
    (text : members.find? "text" = message.text.map .string)
    (parse : members.find? "parse_data" = some message.parse.toJson)
    (channel : members.find? "input_channel" = message.inputChannel.map .string) :
    ofMembers? members = some message := by
  have readText : members.optional "text" Json.string? = some message.text :=
    Entries.optional_of_find? text (fun _ _ => rfl) fun _ => rfl
  have readParse : members.defaulted "parse_data" {} ParseData.ofJson? = some message.parse := by
    rw [Entries.defaulted_of_find? parse]
    exact ParseData.ofJson?_toJson writable
  have readChannel : members.optional "input_channel" Json.string? = some message.inputChannel :=
    Entries.optional_of_find? channel (fun _ _ => rfl) fun _ => rfl
  simp [ofMembers?, readText, readParse, readChannel]

/-- A message that was read can be written, and its other members passed through. -/
theorem writable_of_ofMembers? {members : Entries Json} {message : UserMessage}
    (read : ofMembers? members = some message) :
    message.parse.Writable ∧
      ∀ understood, members.find? "parse_data" = some (.object understood) →
        ∀ name ∉ ParseData.ownNames,
          message.parse.extra.find? name = (Table.ofList understood).find? name := by
  simp only [ofMembers?, Option.bind_eq_bind, Option.bind_eq_some_iff] at read
  obtain ⟨text, _, parse, isParse, channel, _, rest⟩ := read
  obtain rfl := Option.some.inj rest
  unfold Entries.defaulted at isParse
  split at isParse
  · rename_i missing
    obtain rfl := Option.some.inj isParse
    refine ⟨ParseData.writable_default, ?_⟩
    intro understood found
    rw [missing] at found
    cases found
  · rename_i value found
    cases value with
    | object held =>
        obtain ⟨writable, passes⟩ := ParseData.writable_of_ofJson? isParse
        refine ⟨writable, ?_⟩
        intro understood isUnderstood
        rw [found] at isUnderstood
        obtain rfl := Json.object.inj (Option.some.inj isUnderstood)
        exact passes
    | _ => cases isParse

theorem writable_ofText (text : String) : (ofText text).parse.Writable :=
  ParseData.writable_default

theorem writable_withIntent {message : UserMessage} (writable : message.parse.Writable)
    (name : String) : (message.withIntent name).parse.Writable :=
  ⟨writable.fits, writable.free⟩

theorem writable_withEntity {message : UserMessage} (writable : message.parse.Writable)
    {entity : Entity} (fits : entity.Fits) : (message.withEntity entity).parse.Writable := by
  refine ⟨?_, writable.free⟩
  intro other member
  rcases List.mem_append.mp member with earlier | isLast
  · exact writable.fits other earlier
  · obtain rfl := List.mem_singleton.mp isLast
    exact fits

end UserMessage

/-! ## Changes -/

theorem Tag.ofJson?_text (tag : Tag) : ofJson? (.string tag.text) = some tag := by
  cases tag <;> rfl

namespace Change

/-- The members of a change beside its tag, those that are missing included. -/
def fields : Change → List (String × Option Json)
  | .slotSet name value => [("name", some (.string name)), ("value", some value)]
  | .userUttered message => [
      ("text", message.text.map .string),
      ("parse_data", some message.parse.toJson),
      ("input_channel", message.inputChannel.map .string)]
  | .botUttered text data =>
      [("text", some (Json.ofString? text)), ("data", some (Json.ofTable data))]
  | .actionExecuted name policy confidence => [
      ("name", some (.string name)),
      ("policy", policy.map .string),
      ("confidence", confidence.map Json.ofBinary64)]
  | .actionReverted => []
  | .utteranceReverted => []
  | .restarted => []
  | .formActivated name => [("name", some (.string name))]
  | .formDeactivated => [("name", some .null)]
  | .formValidation validate => [("validate", some (.bool validate))]
  | .loopRejected name => [("name", some (Json.ofString? name))]

theorem members_eq (change : Change) : change.members = Json.present change.fields := by
  cases change <;> rfl

/-- A message passes no member through under a name of its own, and the places in it are
words.  Every other change can be written as it is. -/
def Writable : Change → Prop
  | .userUttered message => message.parse.Writable
  | _ => True

/-- Reading the members of a change under its tag gives the change back. -/
theorem ofMembers?_of_shows {change : Change} (writable : change.Writable)
    {members : Entries Json}
    (shows : ∀ name ∈ change.fields.map Prod.fst,
      members.find? name = (Entries.find? name change.fields).join) :
    ofMembers? members change.tag = some change := by
  cases change with
  | slotSet name value =>
      have readName : members.required "name" Json.string? = some name :=
        Entries.required_of_find? (shows "name" (by simp [fields]))
      have readValue : members.defaulted "value" .null some = some value :=
        Entries.defaulted_of_find? (shows "value" (by simp [fields]))
      simp [tag, ofMembers?, readName, readValue]
  | userUttered message =>
      have readMessage : UserMessage.ofMembers? members = some message :=
        UserMessage.ofMembers?_of_shows writable (shows "text" (by simp [fields]))
          (shows "parse_data" (by simp [fields])) (shows "input_channel" (by simp [fields]))
      simp [tag, ofMembers?, readMessage]
  | botUttered text data =>
      have readText : members.optional "text" Json.string? = some text :=
        Entries.optional_of_find?_ofString? (shows "text" (by simp [fields]))
      have readData : members.defaulted "data" Table.empty (Json.table? some) = some data := by
        rw [Entries.defaulted_of_find? (shows "data" (by simp [fields]))]
        exact Json.table?_ofTable data
      simp [tag, ofMembers?, readText, readData]
  | actionExecuted name policy confidence =>
      have readName : members.required "name" Json.string? = some name :=
        Entries.required_of_find? (shows "name" (by simp [fields]))
      have readPolicy : members.optional "policy" Json.string? = some policy :=
        Entries.optional_of_find? (shows "policy" (by simp [fields])) (fun _ _ => rfl) fun _ => rfl
      have readConfidence : members.optional "confidence" Json.binary64? = some confidence :=
        Entries.optional_of_find? (shows "confidence" (by simp [fields])) (fun _ _ => rfl)
          fun _ => rfl
      simp [tag, ofMembers?, readName, readPolicy, readConfidence]
  | actionReverted => rfl
  | utteranceReverted => rfl
  | restarted => rfl
  | formActivated name =>
      -- activation and deactivation share a tag, and the name tells them apart
      have readName : members.optional "name" Json.string? = some (some name) :=
        Entries.optional_of_find?_ofString? (shows "name" (by simp [fields]))
      simp [tag, ofMembers?, readName]
  | formDeactivated =>
      have readName : members.optional "name" Json.string? = some none :=
        Entries.optional_of_find?_ofString? (shows "name" (by simp [fields]))
      simp [tag, ofMembers?, readName]
  | formValidation validate =>
      have readValidate : members.required "validate" Json.bool? = some validate :=
        Entries.required_of_find? (shows "validate" (by simp [fields]))
      simp [tag, ofMembers?, readValidate]
  | loopRejected name =>
      have readName : members.optional "name" Json.string? = some name :=
        Entries.optional_of_find?_ofString? (shows "name" (by simp [fields]))
      simp [tag, ofMembers?, readName]

/-- Only the tag of user events gives a message, which is read from the same members. -/
theorem ofMembers?_eq_some_userUttered {members : Entries Json} {tag : Tag}
    {message : UserMessage} (read : ofMembers? members tag = some (.userUttered message)) :
    UserMessage.ofMembers? members = some message := by
  cases tag with
  | user =>
      simp only [ofMembers?, Option.bind_eq_bind, Option.bind_eq_some_iff] at read
      obtain ⟨other, found, rest⟩ := read
      cases rest
      exact found
  | form =>
      simp only [ofMembers?, Option.bind_eq_bind, Option.bind_eq_some_iff] at read
      obtain ⟨name, _, rest⟩ := read
      cases name with
      | none => cases rest
      | some name => cases rest
  | _ => simp [ofMembers?, Option.bind_eq_some_iff] at read

/-- A change that was read can be written. -/
theorem writable_of_ofMembers? {members : Entries Json} {tag : Tag} {change : Change}
    (read : ofMembers? members tag = some change) : change.Writable := by
  cases change with
  | userUttered message =>
      exact (UserMessage.writable_of_ofMembers? (ofMembers?_eq_some_userUttered read)).1
  | _ => trivial

end Change

/-! ## Events -/

namespace Event

/-- The names of the members that every event may have. -/
def wireNames : List String :=
  ["event", "timestamp", "metadata"]

/-- The members of an event that is written now, those that are missing included. -/
def fields (now : Binary64) (event : Event) : List (String × Option Json) :=
  ("event", some (.string event.change.tag.text)) :: event.change.fields ++ [
    ("timestamp", some (Json.ofBinary64 (event.time.seconds now))),
    ("metadata", event.metadata.map Json.ofTable)]

/-- No change has a member under one of the names that every event may have. -/
theorem find?_change_fields (event : Event) {name : String} (general : name ∈ wireNames) :
    Entries.find? name event.change.fields = none := by
  have disjoint : ∀ name ∈ wireNames, name ∉ event.change.fields.map Prod.fst := by
    cases event.change <;> simp [Change.fields, wireNames]
  exact Entries.find?_eq_none_iff.mpr (disjoint name general)

theorem find?_fields_of_mem (now : Binary64) (event : Event) {name : String}
    (member : name ∈ event.change.fields.map Prod.fst) :
    Entries.find? name (event.fields now) = Entries.find? name event.change.fields := by
  have other : name ∉ wireNames := by
    intro general
    exact Entries.find?_eq_none_iff.mp (event.find?_change_fields general) member
  simp only [wireNames, List.mem_cons, List.not_mem_nil, or_false, not_or] at other
  obtain ⟨notEvent, notTime, notMetadata⟩ := other
  unfold fields
  rw [Entries.find?_append, Entries.find?_cons, if_neg (Ne.symm notEvent), Entries.find?_cons,
    if_neg (Ne.symm notTime), Entries.find?_cons, if_neg (Ne.symm notMetadata),
    Entries.find?_nil, Option.or_none]

theorem toJson_shows (now : Binary64) (event : Event) :
    ∃ members : Entries Json, event.toJson now = .object members ∧
      members.Shows (event.fields now) := by
  have nodup : ((event.fields now).map Prod.fst).Nodup := by
    cases held : event.change <;> simp [fields, Change.fields, held]
  have written : event.toJson now = Json.ofMembers (Json.present (event.fields now)) := by
    unfold toJson fields
    rw [Change.members_eq]
    simp [Json.present, List.filterMap_append]
  exact ⟨_, written, Entries.shows_ofList_present nodup⟩

/-- What was understood of the message of an event passes through the wire: it can be
written. -/
def Writable (event : Event) : Prop :=
  event.change.Writable

/-- An event that can be written comes back with its metadata and the time at which it
happened. -/
theorem ofJson?_toJson (now : Binary64) {event : Event} (writable : event.Writable) :
    ofJson? (event.toJson now) = some (event.stamp now) := by
  obtain ⟨members, written, shows⟩ := event.toJson_shows now
  have tag : members.required "event" Tag.ofJson? = some event.change.tag := by
    rw [Entries.required_of_find? (shows "event")]
    exact Tag.ofJson?_text event.change.tag
  have change : Change.ofMembers? members event.change.tag = some event.change := by
    apply Change.ofMembers?_of_shows writable
    intro name member
    rw [shows, event.find?_fields_of_mem now member]
  have foundTime : members.find? "timestamp" =
      (some (event.time.seconds now)).map Json.ofBinary64 := by
    have none := event.find?_change_fields (show "timestamp" ∈ wireNames by simp [wireNames])
    rw [shows]
    simp [fields, Entries.find?_append, Entries.find?_cons, none]
  have time : members.optional "timestamp" Json.binary64? =
      some (some (event.time.seconds now)) :=
    Entries.optional_of_find? foundTime (fun _ _ => rfl) fun _ => rfl
  have foundMetadata : members.find? "metadata" = event.metadata.map Json.ofTable := by
    have none := event.find?_change_fields (show "metadata" ∈ wireNames by simp [wireNames])
    rw [shows]
    simp [fields, Entries.find?_append, Entries.find?_cons, none]
  have metadata : members.optional "metadata" (Json.table? some) = some event.metadata :=
    Entries.optional_of_find? foundMetadata (fun table _ => Json.table?_ofTable table) fun _ => rfl
  rw [written]
  simp [ofJson?, Json.object?, tag, change, time, metadata, EventTime.ofOption, stamp]

theorem listOfJson?_listToJson (now : Binary64) {events : List Event}
    (writable : ∀ event ∈ events, event.Writable) :
    listOfJson? (listToJson now events) = some (events.map (stamp now)) := by
  refine Json.mapM_eq_some_iff.mpr ?_
  rw [List.forall₂_map_left_iff, List.forall₂_map_right_iff, List.forall₂_same]
  exact fun event member => ofJson?_toJson now (writable event member)

/-- Every member of what was understood that has no meaning of its own stands in the
written message with the value that it had in the message that was read.  Where the
names of an object increase, the table of its members is the object itself. -/
def PassesOn (item written : Json) : Prop :=
  ∀ members understood : Entries Json, item = .object members →
    members.find? "parse_data" = some (.object understood) →
      ∃ members' understood' : Entries Json, written = .object members' ∧
        members'.find? "parse_data" = some (.object understood') ∧
        ∀ name ∉ ParseData.ownNames,
          understood'.find? name = (Table.ofList understood).find? name

/-- What was read can be written, and if it is a message, its unknown members pass on. -/
theorem writable_of_ofJson? {value : Json} {event : Event} (read : ofJson? value = some event) :
    event.Writable ∧ ∀ now, event.isUser = true → PassesOn value (event.toJson now) := by
  simp only [ofJson?, Option.bind_eq_bind, Option.bind_eq_some_iff] at read
  obtain ⟨members, isObject, tag, _, change, isChange, seconds, _, metadata, _, rest⟩ := read
  obtain rfl := Option.some.inj rest
  refine ⟨Change.writable_of_ofMembers? isChange, ?_⟩
  intro now isUser held understood isHeld found
  obtain rfl : held = members := by
    rw [isHeld] at isObject
    exact Option.some.inj isObject
  obtain ⟨members', written, shows⟩ :=
    toJson_shows now ⟨change, EventTime.ofOption seconds, metadata⟩
  cases change with
  | userUttered message =>
      obtain ⟨writable, passes⟩ :=
        UserMessage.writable_of_ofMembers? (Change.ofMembers?_eq_some_userUttered isChange)
      obtain ⟨understood', isWritten, _, all⟩ := ParseData.toJson_shows writable
      refine ⟨members', understood', written, ?_, ?_⟩
      · rw [← isWritten, shows, find?_fields_of_mem _ _ (by simp [Change.fields])]
        rfl
      · intro name other
        rw [ParseData.find?_of_notMem_ownNames all other]
        exact passes understood found name other
  | _ => cases isUser

/-- The time at which an event happened is known. -/
def Timed (event : Event) : Prop :=
  ∃ seconds, event.time = .given seconds

theorem stamp_of_timed {event : Event} (timed : event.Timed) (now : Binary64) :
    event.stamp now = event := by
  rcases event with ⟨change, time, metadata⟩
  obtain ⟨seconds, rfl⟩ := timed
  rfl

theorem map_stamp_of_timed {events : List Event} (timed : ∀ event ∈ events, event.Timed)
    (now : Binary64) : events.map (stamp now) = events :=
  (List.map_congr_left fun event member => stamp_of_timed (timed event member) now).trans
    (List.map_id events)

/-- Reading undoes writing for every list of events that can be written: events come back
as they were, and those without a time with that of writing.  All events that are read can
be written.  So an array that was read, once it is written, is read as the same events,
and the unknown members of its messages stay.  A tracker that is made anew from its written
log has the same state. -/
theorem listOfJson?_roundTrip (now : Binary64) :
    (∀ events : List Event, (∀ event ∈ events, event.Writable) →
      listOfJson? (listToJson now events) = some (events.map (stamp now)) ∧
      ((∀ event ∈ events, event.Timed) → listOfJson? (listToJson now events) = some events)) ∧
    (∀ value events, listOfJson? value = some events →
      (∀ event ∈ events, event.Writable) ∧
      listOfJson? (listToJson now events) = some (events.map (stamp now)) ∧
      ∃ items, value = .array items ∧
        List.Forall₂ (fun item event => event.isUser = true → PassesOn item (event.toJson now))
          items events) ∧
    (∀ schema log tracker, Tracker.FedWith schema log tracker →
      (∀ event ∈ log, event.Writable) →
        ∃ events, listOfJson? (listToJson now tracker.events) = some events ∧
          ∀ sender, (Tracker.ofEvents sender schema events).state = tracker.state) := by
  refine ⟨?_, ?_, ?_⟩
  · intro events writable
    refine ⟨listOfJson?_listToJson now writable, fun timed => ?_⟩
    rw [listOfJson?_listToJson now writable, map_stamp_of_timed timed]
  · intro value events read
    have writable : ∀ event ∈ events, event.Writable := by
      intro event member
      obtain ⟨item, isEvent⟩ := Json.exists_of_mem_list? read member
      exact (writable_of_ofJson? isEvent).1
    obtain ⟨items, isArray, pairs⟩ := Json.forall₂_of_list?_eq_some read
    refine ⟨writable, listOfJson?_listToJson now writable, items, isArray, ?_⟩
    exact pairs.imp fun item event isEvent => (writable_of_ofJson? isEvent).2 now
  · intro schema log tracker fed writable
    refine ⟨log.map (stamp now), ?_, fun sender => ?_⟩
    · rw [fed.events_eq]
      exact listOfJson?_listToJson now writable
    · have anew : Tracker.FedWith schema (log.map (stamp now))
          (Tracker.ofEvents sender schema (log.map (stamp now))) := .ofEvents sender _
      rw [anew.state_eq, fed.state_eq]
      have sameChange : ∀ event : Event, (event.stamp now).change = event.change := fun _ => rfl
      exact DialogueState.replay_map sameChange schema log

/-- A greeting with an entity, a slot without a value and the end of a form, written and
read: those that happened at noon come back as they were, and the last one, which is only
recorded, with the time of writing.  And a message with a member that has no meaning, read
and written. -/
theorem listOfJson?_roundTrip_greeting :
    let noon : Binary64 := ⟨false, 675 * Nat.pow 2 43, -37, by decide⟩
    let message := ((UserMessage.ofText "hi").withIntent "greet").withEntity
      { entity := "name", value := .string "Ada" }
    let greeting : Event :=
      { user message with
        time := .given noon
        metadata := some (Table.ofList [("client", .string "web")]) }
    let log := [greeting, (slotSet "city" .null).stamp noon]
    let value := Json.array [.object [("event", .string "user"),
      ("parse_data", .object [("ranking", .array [])])]]
    listOfJson? (listToJson (Binary64.zero false) log) = some log ∧
      listOfJson? (listToJson noon (log ++ [formDeactivated])) =
        some (log ++ [formDeactivated.stamp noon]) ∧
      (∃ events, listOfJson? value = some events ∧
        listOfJson? (listToJson noon events) = some (events.map (stamp noon))) ∧
      ∃ events, listOfJson? (listToJson noon log) = some events ∧
        ∀ sender, (Tracker.ofEvents sender Table.empty events).state =
          (Tracker.ofEvents "trip" Table.empty log).state := by
  intro noon message greeting log value
  have writable : ∀ event ∈ log ++ [formDeactivated], event.Writable := by
    have isMessage : message.parse.Writable :=
      UserMessage.writable_withEntity
        (UserMessage.writable_withIntent (UserMessage.writable_ofText "hi") "greet")
        ⟨by simp, by simp⟩
    intro event member
    rcases List.mem_cons.mp member with rfl | member
    · exact isMessage
    · rcases List.mem_pair.mp member with rfl | rfl
      · trivial
      · trivial
  have logWritable : ∀ event ∈ log, event.Writable := fun event member =>
    writable event (List.mem_append_left _ member)
  have timed : ∀ event ∈ log, event.Timed := by
    intro event member
    rcases List.mem_pair.mp member with rfl | rfl
    · exact ⟨noon, rfl⟩
    · exact ⟨noon, rfl⟩
  obtain ⟨comesBack, readAgain, rebuilt⟩ := listOfJson?_roundTrip noon
  refine ⟨?_, (comesBack _ writable).1, ⟨_, rfl, (readAgain value _ rfl).2.1⟩, ?_⟩
  · exact ((listOfJson?_roundTrip (Binary64.zero false)).1 log logWritable).2 timed
  · exact rebuilt Table.empty log _ (.ofEvents "trip" log) logWritable

end Event

end Dialogue
