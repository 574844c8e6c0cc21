import Dialogue.Config.Environment
import Dialogue.Proofs.Table.Lookup
import Mathlib.Data.Nat.Digits.Defs

/-!
# Overrides and valid settings

Each of four environment variables settles one setting: a text that is of use replaces the
setting, and any other text, or none, leaves it alone.  For three of the variables only
what keeps valid settings valid is of use.  For the address of the action server any text is
that is not empty, so that valid settings stay valid exactly if the text is the address of
a server.
-/

namespace Dialogue

/-! ## Texts that are of use -/

/-- Some characters are the digits of a decimal number. -/
structure IsNumeral (digits : List Char) (number : Nat) : Prop where
  /-- There is a digit. -/
  notEmpty : digits ≠ []
  /-- There is nothing but digits. -/
  areDigits : ∀ digit ∈ digits, digit.isDigit = true
  /-- They denote the number. -/
  denotes : number = Nat.ofDigits 10 (digits.map digitValue).reverse

/-- A text spells a number by decimal digits, which may follow a plus sign. -/
def Spells (text : String) (number : Nat) : Prop :=
  ∃ digits, (text.toList = digits ∨ text.toList = '+' :: digits) ∧ IsNumeral digits number

/-- A text spells a number of 64 bits other than zero. -/
def SpellsPositive (text : String) (number : Nat) : Prop :=
  Spells text number ∧ 0 < number ∧ number < 2 ^ 64

/-- A text is the address of an action server. -/
def NamesServer (readUrl : Url.Reader) (text : String) : Prop :=
  ∃ url, readUrl text = some url ∧ url.scheme ∈ Config.serverSchemes

theorem decimalValue_eq (digits : List Char) :
    decimalValue digits = Nat.ofDigits 10 (digits.map digitValue).reverse := by
  rw [decimalValue, Nat.ofDigits_eq_foldr, List.foldr_reverse, List.foldl_map]
  simp [Nat.add_comm, Nat.mul_comm]

/-- A text without the plus sign in front of it. -/
def withoutSign : List Char → List Char
  | '+' :: digits => digits
  | digits => digits

/-- A plus sign is no digit, so that digits are what is left of themselves. -/
theorem withoutSign_of_isDigit {digits : List Char}
    (areDigits : ∀ digit ∈ digits, digit.isDigit = true) : withoutSign digits = digits := by
  unfold withoutSign
  split
  · exact absurd (areDigits '+' List.mem_cons_self) (by decide)
  · rfl

theorem eq_or_of_withoutSign (chars : List Char) :
    chars = withoutSign chars ∨ chars = '+' :: withoutSign chars := by
  unfold withoutSign
  split
  · exact .inr rfl
  · exact .inl rfl

theorem spells_iff {text : String} {number : Nat} :
    Spells text number ↔ IsNumeral (withoutSign text.toList) number := by
  constructor
  · rintro ⟨digits, unsigned | signed, numeral⟩
    · rw [unsigned, withoutSign_of_isDigit numeral.areDigits]
      exact numeral
    · rw [signed]
      exact numeral
  · intro numeral
    exact ⟨_, eq_or_of_withoutSign text.toList, numeral⟩

namespace Environment

variable {environment : Environment} {name text : String} {number : Nat}

/-- A text is read as a number exactly if it spells one that fits 64 bits. -/
theorem word?_eq_some_iff : word? text = some number ↔ Spells text number ∧ number < 2 ^ 64 := by
  have reads : word? text =
      if (withoutSign text.toList).isEmpty || !(withoutSign text.toList).all Char.isDigit then none
      else (some (decimalValue (withoutSign text.toList))).filter (· < 2 ^ 64) := rfl
  rw [reads, spells_iff, Option.ite_none_left_eq_some, Option.filter_eq_some_iff,
    decide_eq_true_iff, Option.some_inj, decimalValue_eq, ← and_assoc]
  apply and_congr_left
  intro _
  constructor
  · rintro ⟨readable, denotes⟩
    simp only [Bool.or_eq_true, not_or, Bool.not_eq_true', Bool.not_eq_false] at readable
    exact ⟨by simpa using readable.1, by simpa using readable.2, denotes.symm⟩
  · rintro ⟨notEmpty, areDigits, denotes⟩
    exact ⟨by simpa [notEmpty] using areDigits, denotes.symm⟩

theorem text?_eq_some_iff {value : String} :
    environment.text? name = some value ↔ environment.find? name = some value ∧ value ≠ "" := by
  rw [text?, Option.filter_eq_some_iff]
  simp

theorem positive?_eq_some_iff :
    environment.positive? name = some number ↔
      ∃ text, environment.find? name = some text ∧ SpellsPositive text number := by
  rw [positive?, Option.filter_eq_some_iff, Option.bind_eq_some_iff, decide_eq_true_iff]
  simp only [word?_eq_some_iff, SpellsPositive]
  constructor
  · rintro ⟨⟨text, given, spells, fits⟩, positive⟩
    exact ⟨text, given, spells, positive, fits⟩
  · rintro ⟨text, given, spells, positive, fits⟩
    exact ⟨⟨text, given, spells, fits⟩, positive⟩

end Environment

/-! ## Overrides -/

/-- What a setting is after a variable had its say. -/
inductive Settled {α : Type} (ofUse : String → α → Prop) (given : Option String) (before : α) :
    α → Prop
  /-- A text that is of use replaces the setting. -/
  | replaced {text : String} {value : α} (isGiven : given = some text)
      (usable : ofUse text value) : Settled ofUse given before value
  /-- Any other text, or none, leaves it alone. -/
  | kept (useless : ∀ text, given = some text → ∀ value, ¬ofUse text value) :
      Settled ofUse given before before

/-- A choice settles what it chooses exactly from the texts that are of use. -/
theorem Settled.of_getD {α : Type} {ofUse : String → α → Prop} {given : Option String}
    {chosen : Option α}
    (chooses : ∀ {value}, chosen = some value ↔ ∃ text, given = some text ∧ ofUse text value)
    (before : α) : Settled ofUse given before (chosen.getD before) := by
  cases isChosen : chosen with
  | some value =>
      obtain ⟨text, isGiven, usable⟩ := chooses.mp isChosen
      exact .replaced isGiven usable
  | none =>
      apply Settled.kept
      intro text isGiven value usable
      rw [chooses.mpr ⟨text, isGiven, usable⟩] at isChosen
      cases isChosen

/-- What holds of the setting and of every value that a given text is of use for holds of
what the setting is afterwards. -/
theorem Settled.holds {α : Type} {ofUse : String → α → Prop} {given : Option String}
    {before after : α} {motive : α → Prop} (settled : Settled ofUse given before after)
    (usable : ∀ text, given = some text → ∀ value, ofUse text value → motive value)
    (held : motive before) : motive after := by
  cases settled with
  | replaced isGiven ofUse => exact usable _ isGiven _ ofUse
  | kept => exact held

/-- A text that is of use for one value alone replaces the setting by it. -/
theorem Settled.eq_of_given {α : Type} {ofUse : String → α → Prop} {given : Option String}
    {before after value : α} {text : String} (settled : Settled ofUse given before after)
    (isGiven : given = some text) (usable : ofUse text value)
    (single : ∀ other, ofUse text other → other = value) : after = value := by
  cases settled with
  | @replaced other _ isOther ofUse =>
      rw [isGiven] at isOther
      obtain rfl := Option.some.inj isOther
      exact single _ ofUse
  | kept useless => exact absurd usable (useless text isGiven value)

/-- Whether a given text is of use is all that matters of what texts are of use. -/
theorem Settled.congr {α : Type} {ofUse useful : String → α → Prop} {given : Option String}
    {before after : α} (settled : Settled ofUse given before after)
    (same : ∀ text, given = some text → ∀ value, ofUse text value ↔ useful text value) :
    Settled useful given before after := by
  cases settled with
  | replaced isGiven usable => exact .replaced isGiven ((same _ isGiven _).mp usable)
  | kept useless =>
      apply Settled.kept
      intro text isGiven value usable
      exact useless text isGiven value ((same text isGiven value).mpr usable)

/-- Each variable has settled its setting, and the other settings are as they were.  The
texts that are of use as an address are a matter of choice. -/
structure Config.Overridden (addresses : String → Prop) (environment : Environment)
    (before after : Config) : Prop where
  url : Settled (fun text url => addresses text ∧ url = text)
    (environment.find? Environment.urlVariable) before.endpoint.url after.endpoint.url
  timeoutSecs : Settled SpellsPositive
    (environment.find? Environment.timeoutVariable)
    before.endpoint.timeoutSecs after.endpoint.timeoutSecs
  logLevel : Settled (fun text level => text ≠ "" ∧ level = text)
    (environment.find? Environment.logLevelVariable)
    before.logging.logLevel after.logging.logLevel
  maxHistory : Settled
    (fun text turns => ∃ number, SpellsPositive text number ∧ turns = some number)
    (environment.find? Environment.maxHistoryVariable)
    before.validation.maxHistory after.validation.maxHistory
  connectTimeoutSecs : after.endpoint.connectTimeoutSecs = before.endpoint.connectTimeoutSecs
  token : after.endpoint.token = before.endpoint.token
  stubs : after.stubs = before.stubs
  ignoreWarnings : after.validation.ignoreWarnings = before.validation.ignoreWarnings

/-- The text that the environment gives as an address, if it is not empty, is the address of
an action server. -/
def Environment.OffersServer (readUrl : Url.Reader) (environment : Environment) : Prop :=
  ∀ text, environment.find? urlVariable = some text → text ≠ "" → NamesServer readUrl text

/-- A text is replaced by one that is not empty. -/
theorem Environment.settled_text? (environment : Environment) (name before : String) :
    Settled (fun text value => text ≠ "" ∧ value = text) (environment.find? name) before
      ((environment.text? name).getD before) := by
  apply Settled.of_getD
  intro value
  rw [text?_eq_some_iff]
  constructor
  · rintro ⟨found, notEmpty⟩
    exact ⟨value, found, notEmpty, rfl⟩
  · rintro ⟨text, found, notEmpty, rfl⟩
    exact ⟨found, notEmpty⟩

/-- A number that may be missing is replaced by one other than zero. -/
theorem Environment.settled_positive? (environment : Environment) (name : String)
    (before : Option Nat) :
    Settled (fun text turns => ∃ number, SpellsPositive text number ∧ turns = some number)
      (environment.find? name) before ((environment.positive? name).or before) := by
  have chosen : (environment.positive? name).or before =
      ((environment.positive? name).map some).getD before := by
    cases environment.positive? name <;> rfl
  rw [chosen]
  apply Settled.of_getD
  intro value
  rw [Option.map_eq_some_iff]
  simp only [positive?_eq_some_iff]
  constructor
  · rintro ⟨number, ⟨text, found, spells⟩, rfl⟩
    exact ⟨text, found, number, spells, rfl⟩
  · rintro ⟨text, found, number, spells, rfl⟩
    exact ⟨number, ⟨text, found, spells⟩, rfl⟩

namespace Config

theorem overridden_override (config : Config) (environment : Environment) :
    config.Overridden (· ≠ "") environment (config.override environment) where
  url := environment.settled_text? Environment.urlVariable config.endpoint.url
  timeoutSecs := .of_getD Environment.positive?_eq_some_iff config.endpoint.timeoutSecs
  logLevel := environment.settled_text? Environment.logLevelVariable config.logging.logLevel
  maxHistory :=
    environment.settled_positive? Environment.maxHistoryVariable config.validation.maxHistory
  connectTimeoutSecs := rfl
  token := rfl
  stubs := rfl
  ignoreWarnings := rfl

/-! ## Valid settings -/

/-- The settings are of use. -/
structure Valid (readUrl : Url.Reader) (config : Config) : Prop where
  /-- Actions run on an action server. -/
  server : NamesServer readUrl config.endpoint.url
  /-- A request may take some time. -/
  timeoutSecs : 0 < config.endpoint.timeoutSecs
  /-- A connection may take some time. -/
  connectTimeoutSecs : 0 < config.endpoint.connectTimeoutSecs
  /-- Some turns are compared. -/
  maxHistory : config.validation.maxHistory ≠ some 0

variable {readUrl : Url.Reader}

/-- A check that may fail passes exactly if it does not and the rest passes. -/
theorem ite_error_eq_ok_iff {Failure Result : Type} {fails : Prop} [Decidable fails]
    {failure : Failure} {rest : Except Failure Result} {result : Result} :
    (if fails then .error failure else rest) = .ok result ↔ ¬fails ∧ rest = .ok result := by
  by_cases failed : fails
  · simp [failed]
  · simp [failed]

theorem validate_eq_ok_iff {config : Config} :
    config.validate readUrl = .ok () ↔ config.Valid readUrl := by
  rw [validate]
  cases parsed : readUrl config.endpoint.url with
  | none =>
      constructor
      · intro failed
        cases failed
      · intro valid
        obtain ⟨url, found, _⟩ := valid.server
        rw [parsed] at found
        cases found
  | some url =>
      simp only [ite_error_eq_ok_iff, Bool.not_eq_true', Bool.not_eq_false,
        List.contains_iff_mem, Nat.pos_iff_ne_zero.symm]
      constructor
      · rintro ⟨served, timeoutSecs, connectTimeoutSecs, maxHistory, _⟩
        exact ⟨⟨url, parsed, served⟩, timeoutSecs, connectTimeoutSecs, maxHistory⟩
      · rintro ⟨⟨other, found, served⟩, timeoutSecs, connectTimeoutSecs, maxHistory⟩
        rw [parsed] at found
        obtain rfl := Option.some.inj found
        exact ⟨served, timeoutSecs, connectTimeoutSecs, maxHistory, trivial⟩

/-- Overrides keep valid settings valid exactly if the address is one of an action server. -/
theorem Valid.override_iff {config : Config} (valid : config.Valid readUrl)
    (environment : Environment) :
    (config.override environment).Valid readUrl ↔ environment.OffersServer readUrl := by
  have settings := overridden_override config environment
  constructor
  · intro stillValid text given notEmpty
    have replaced : (config.override environment).endpoint.url = text :=
      settings.url.eq_of_given given ⟨notEmpty, rfl⟩ fun _ usable => usable.2
    rw [← replaced]
    exact stillValid.server
  · intro offers
    constructor
    · apply settings.url.holds
      · rintro text given _ ⟨notEmpty, rfl⟩
        exact offers _ given notEmpty
      · exact valid.server
    · apply settings.timeoutSecs.holds
      · intro text _ number spells
        exact spells.2.1
      · exact valid.timeoutSecs
    · rw [settings.connectTimeoutSecs]
      exact valid.connectTimeoutSecs
    · apply settings.maxHistory.holds (motive := (· ≠ some 0))
      · rintro text _ _ ⟨number, spells, rfl⟩ isZero
        exact absurd (Option.some.inj isZero) (Nat.ne_of_gt spells.2.1)
      · exact valid.maxHistory

/-- Where every text that is not empty and given is the address of a server, the texts that
are of use are exactly the addresses of servers. -/
theorem Overridden.of_offersServer (noAddress : readUrl "" = none) {before after : Config}
    {environment : Environment} (settings : Overridden (· ≠ "") environment before after)
    (offers : environment.OffersServer readUrl) :
    Overridden (NamesServer readUrl) environment before after :=
  { settings with
    url := by
      apply settings.url.congr
      intro text given url
      apply and_congr_left
      intro _
      constructor
      · exact offers text given
      · rintro ⟨address, read, _⟩ rfl
        rw [noAddress] at read
        cases read }

/-- Each of the four variables settles its own setting and nothing else: a number other than
zero replaces a limit, and a text that is not empty replaces the address or the log level.
Valid settings stay valid exactly if the address is one of an action server, and then every
variable leaves its setting alone unless its text is of use, provided that the empty text
is no address.  It does not matter how addresses are read beyond that. -/
theorem override_exact (readUrl : Url.Reader) (config : Config) (environment : Environment) :
    config.Overridden (· ≠ "") environment (config.override environment) ∧
    (config.validate readUrl = .ok () →
      ((config.override environment).validate readUrl = .ok () ↔
        environment.OffersServer readUrl)) ∧
    (readUrl "" = none → environment.OffersServer readUrl →
      config.Overridden (NamesServer readUrl) environment (config.override environment)) := by
  have settings := overridden_override config environment
  refine ⟨settings, ?stillValid, fun noAddress => settings.of_offersServer noAddress⟩
  intro isValid
  rw [validate_eq_ok_iff] at isValid ⊢
  exact isValid.override_iff environment

example :
    let config := ({} : Config).override <| Table.ofList [
      ("CONVO_ACTION_ENDPOINT_URL", "http://actions/"), ("CONVO_ACTION_TIMEOUT_SECS", "+30"),
      ("CONVO_LOG_LEVEL", "debug"), ("CONVO_MAX_HISTORY", "7")]
    config.endpoint.url = "http://actions/" ∧ config.endpoint.timeoutSecs = 30 ∧
      config.logging.logLevel = "debug" ∧ config.validation.maxHistory = some 7 := by
  exact ⟨by rfl, by rfl, by rfl, by rfl⟩

/-- The address of an action server, a limit, and a number of turns that is of no use. -/
def deployment : Environment :=
  Table.ofList [(Environment.urlVariable, "https://actions.example.com/webhook"),
    (Environment.timeoutVariable, "30"), (Environment.maxHistoryVariable, "0")]

theorem offersServer_deployment : deployment.OffersServer Url.parse? := by
  intro text given _
  have address :
      deployment.find? Environment.urlVariable = some "https://actions.example.com/webhook" := by
    rfl
  rw [address] at given
  obtain rfl := Option.some.inj given
  exact ⟨_, rfl, by decide⟩

/-- The default settings stay valid where the address and a limit are replaced. -/
theorem override_exact_of_server :
    Url.parse? "" = none ∧ ({} : Config).validate Url.parse? = .ok () ∧
    deployment.OffersServer Url.parse? ∧
    (({} : Config).override deployment).validate Url.parse? = .ok () ∧
    (({} : Config).override deployment).endpoint.timeoutSecs = 30 ∧
    Overridden (NamesServer Url.parse?) deployment {} (({} : Config).override deployment) := by
  have noAddress : Url.parse? "" = none := by rfl
  obtain ⟨_, staysValid, settled⟩ := override_exact Url.parse? {} deployment
  have isValid : ({} : Config).validate Url.parse? = .ok () := by rfl
  have offers := offersServer_deployment
  exact ⟨noAddress, isValid, offers, (staysValid isValid).mpr offers, by rfl,
    settled noAddress offers⟩

/-- A text that is not the address of anything. -/
def misspelling : Environment :=
  Table.ofList [(Environment.urlVariable, "not a url")]

/-- A text that is no address replaces the address all the same, and valid settings are valid
no more. -/
theorem override_of_no_address :
    ({} : Config).validate Url.parse? = .ok () ∧ Url.parse? "not a url" = none ∧
    (({} : Config).override misspelling).endpoint.url = "not a url" ∧
    (({} : Config).override misspelling).validate Url.parse? =
      .error (.validation "action_endpoint.url 'not a url' is not a valid URL") ∧
    ¬Overridden (NamesServer Url.parse?) misspelling {} (({} : Config).override misspelling) := by
  have unparsed : Url.parse? "not a url" = none := by rfl
  refine ⟨by rfl, unparsed, by rfl, by rfl, ?unsettled⟩
  intro settings
  have kept : (({} : Config).override misspelling).endpoint.url = ({} : Config).endpoint.url := by
    apply settings.url.holds (motive := (· = ({} : Config).endpoint.url))
    · rintro text given value ⟨⟨url, parsed, _⟩, rfl⟩
      have address : misspelling.find? Environment.urlVariable = some "not a url" := by
        rfl
      rw [address] at given
      obtain rfl := Option.some.inj given
      rw [unparsed] at parsed
      cases parsed
    · rfl
  exact absurd kept (by decide)

end Config

end Dialogue
