import Herald.Proofs.Config.Number

/-!
# Which configurations are accepted

A configuration is made of nine variables, each of which counts as unset where it is blank. Eight
of them are checked, one after another: the address and the numbers have defaults but must be
readable, and the secret and what is needed for the chat must be there.

Main statements: what a configuration that is accepted is made of (`read_eq_ok_iff`), which fault is
reported otherwise (`read_eq_error_iff`), and both together (`configuration_decided`).
-/

namespace Herald.Config

/-- The variables that are numbers where they are set. -/
def numbers : List Variable :=
  [.workers, .queueCapacity, .httpTimeout]

/-- The variables that must be set. -/
def needed : List Variable :=
  [.webhookSecret, .chatUrl, .botToken, .botUserId]

/-- The variables that are checked, in order. -/
def checked : List Variable :=
  [.listenAddress, .workers, .queueCapacity, .httpTimeout, .webhookSecret, .chatUrl, .botToken,
    .botUserId]

/-- What is wrong with a variable. -/
inductive AtFault (lookup : String → Option String) : Variable → ConfigError → Prop
  | address {value : String} (given : value? lookup .listenAddress = some value)
      (unread : Net.SocketAddress.ofText? value = none) :
      AtFault lookup .listenAddress (.invalid .listenAddress value .noAddress)
  | number {v : Variable} {value : String} {fault : ValueFault} (numeric : v ∈ numbers)
      (given : value? lookup v = some value) (wrong : NumberFault value fault) :
      AtFault lookup v (.invalid v value fault)
  | missing {v : Variable} (required : v ∈ needed) (unset : value? lookup v = none) :
      AtFault lookup v (.missing v)

/-- Nothing is wrong with any variable. -/
structure Acceptable (lookup : String → Option String) : Prop where
  address : ∀ value, value? lookup .listenAddress = some value →
    ∃ a, Net.SocketAddress.ofText? value = some a
  number : ∀ v ∈ numbers, ∀ value, value? lookup v = some value → ∃ n, IsCount value n
  given : ∀ v ∈ needed, ∃ value, value? lookup v = some value

variable {α β ε : Type}

/-- A setting is what the value means, or the default where there is no value. -/
def Setting (value : Option String) (default : α) (means : String → α → Prop) (a : α) : Prop :=
  (value = none ∧ a = default) ∨ ∃ text, value = some text ∧ means text a

/-- Each setting comes from its variable or is the default. -/
structure MadeOf (lookup : String → Option String) (c : Config) : Prop where
  listenAddress : Setting (value? lookup .listenAddress) (.v4 ⟨0, 0, 0, 0⟩ 3000)
    (fun value a => Net.SocketAddress.ofText? value = some a) c.listenAddress
  workers : Setting (value? lookup .workers) 4 IsCount c.workers
  queueCapacity : Setting (value? lookup .queueCapacity) 1024 IsCount c.queueCapacity
  httpTimeout : Setting (value? lookup .httpTimeout) 30 IsCount c.httpTimeout
  webhookSecret : value? lookup .webhookSecret = some c.webhookSecret
  storePath : value? lookup .storePath = c.storePath
  chatUrl : value? lookup .chatUrl = some c.chatUrl
  botToken : value? lookup .botToken = some c.botToken
  botUserId : value? lookup .botUserId = some c.botUserId

/-- How reading went wrong, if it did. -/
def fault? : Except ε α → Option ε
  | .error e => some e
  | .ok _ => none

variable {lookup : String → Option String} {v : Variable} {value : String} {e : ConfigError}

theorem fault?_eq_some_iff {result : Except ε α} {e : ε} :
    fault? result = some e ↔ result = .error e := by
  cases result <;> simp [fault?]

/-- The faults of the first part count first, where those of the second do not depend on it. -/
theorem fault?_bind {first : Except ε α} {next : α → Except ε β} {later : Option ε}
    (same : ∀ a, fault? (next a) = later) : fault? (first >>= next) = (fault? first).or later := by
  cases first with
  | error e => rfl
  | ok a => exact same a

theorem bind_eq_ok_iff {first : Except ε α} {next : α → Except ε β} {b : β} :
    (first >>= next) = .ok b ↔ ∃ a, first = .ok a ∧ next a = .ok b := by
  cases first with
  | error e => exact ⟨nofun, fun given => nomatch given.choose_spec.1⟩
  | ok a => exact ⟨fun made => ⟨a, rfl, made⟩, fun ⟨_, rfl, made⟩ => made⟩

/-- The value of a variable is trimmed and not empty. -/
theorem value?_eq_some_iff : value? lookup v = some value ↔
    value ≠ "" ∧ ∃ raw, lookup v.name = some raw ∧ value = Text.trimmed raw := by
  unfold value?
  rw [Option.filter_eq_some_iff, Option.map_eq_some_iff]
  constructor
  · rintro ⟨⟨raw, given, rfl⟩, nonempty⟩
    exact ⟨by simpa using nonempty, raw, given, rfl⟩
  · rintro ⟨nonempty, raw, given, rfl⟩
    exact ⟨⟨raw, given, rfl⟩, by simpa using nonempty⟩

theorem address_eq_ok_iff {a : Net.SocketAddress} :
    address value = .ok a ↔ Net.SocketAddress.ofText? value = some a := by
  unfold address
  cases Net.SocketAddress.ofText? value <;> simp

theorem address_eq_error_iff {fault : ValueFault} : address value = .error fault ↔
    Net.SocketAddress.ofText? value = none ∧ fault = .noAddress := by
  unfold address
  cases Net.SocketAddress.ofText? value <;> simp [eq_comm]

section Parts

variable {default a : α} {readValue : String → Except ValueFault α}

theorem optional_eq_ok_iff {means : String → α → Prop}
    (read : ∀ value a, value ≠ "" → (readValue value = .ok a ↔ means value a)) :
    optional lookup v default readValue = .ok a ↔ Setting (value? lookup v) default means a := by
  unfold optional Setting
  cases given : value? lookup v with
  | none => simp [eq_comm]
  | some value =>
    have nonempty := (value?_eq_some_iff.mp given).1
    have meant := read value a nonempty
    cases found : readValue value with
    | error fault =>
      rw [found] at meant
      simp [Except.mapError, ← meant, found]
    | ok b =>
      rw [found] at meant
      simp [Except.mapError, ← meant, found]

theorem optional_eq_error_iff : optional lookup v default readValue = .error e ↔
    ∃ value fault, value? lookup v = some value ∧ readValue value = .error fault ∧
      e = .invalid v value fault := by
  unfold optional
  cases value? lookup v with
  | none => simp
  | some value =>
    cases found : readValue value with
    | error fault => simp [Except.mapError, found, eq_comm]
    | ok b => simp [Except.mapError, found]

theorem required_eq_ok_iff : required lookup v = .ok value ↔ value? lookup v = some value := by
  unfold required
  cases value? lookup v <;> simp

theorem required_eq_error_iff :
    required lookup v = .error e ↔ value? lookup v = none ∧ e = .missing v := by
  unfold required
  cases value? lookup v <;> simp [eq_comm]

end Parts

/-- A configuration that is read is made of the variables, and what they make up is read. -/
theorem read_eq_ok_iff {c : Config} : read lookup = .ok c ↔ MadeOf lookup c := by
  have numeric : ∀ value n, value ≠ "" → (positiveWord value = .ok n ↔ IsCount value n) :=
    fun value n nonempty => positiveWord_eq_ok_iff nonempty
  unfold read
  simp only [bind_eq_ok_iff, optional_eq_ok_iff fun _ _ _ => address_eq_ok_iff,
    optional_eq_ok_iff numeric, required_eq_ok_iff]
  constructor
  · rintro ⟨listenAddress, isAddress, workers, isWorkers, queueCapacity, isCapacity, httpTimeout,
      isTimeout, webhookSecret, isSecret, chatUrl, isUrl, botToken, isToken, botUserId, isUser,
      made⟩
    cases made
    exact ⟨isAddress, isWorkers, isCapacity, isTimeout, isSecret, rfl, isUrl, isToken, isUser⟩
  · intro made
    refine ⟨_, made.listenAddress, _, made.workers, _, made.queueCapacity, _, made.httpTimeout, _,
      made.webhookSecret, _, made.chatUrl, _, made.botToken, _, made.botUserId, ?_⟩
    rw [made.storePath]
    rfl

/-- What the check of a variable reports. -/
def faultOf (lookup : String → Option String) : Variable → Option ConfigError
  | .listenAddress => fault? (optional lookup .listenAddress defaultAddress address)
  | .workers => fault? (optional lookup .workers defaultWorkers positiveWord)
  | .queueCapacity => fault? (optional lookup .queueCapacity defaultQueueCapacity positiveWord)
  | .httpTimeout => fault? (optional lookup .httpTimeout defaultHttpTimeout positiveWord)
  | .storePath => none
  | v => fault? (required lookup v)

/-- The first variable whose check reports a fault decides. -/
theorem fault?_read (lookup : String → Option String) :
    fault? (read lookup) = checked.findSome? (faultOf lookup) := by
  have last : ∀ {made : String → Config}, fault? (required lookup .botUserId >>= fun botUserId =>
      pure (made botUserId)) = fault? (required lookup .botUserId) := by
    intro made
    cases required lookup .botUserId <;> rfl
  have first : ∀ (v : Variable) (rest : List Variable),
      (v :: rest).findSome? (faultOf lookup) =
        (faultOf lookup v).or (rest.findSome? (faultOf lookup)) := by
    intro v rest
    rw [List.findSome?_cons]
    cases faultOf lookup v <;> rfl
  unfold read checked
  rw [fault?_bind fun _ => fault?_bind fun _ => fault?_bind fun _ => fault?_bind fun _ =>
    fault?_bind fun _ => fault?_bind fun _ => fault?_bind fun _ => last]
  simp only [first, List.findSome?_nil, Option.or_none, faultOf]

theorem not_needed_of_number : ∀ v ∈ numbers, v ∉ needed := by decide

theorem fault?_number {default : Nat} (numeric : v ∈ numbers) :
    fault? (optional lookup v default positiveWord) = some e ↔ AtFault lookup v e := by
  rw [fault?_eq_some_iff, optional_eq_error_iff]
  constructor
  · rintro ⟨value, fault, given, wrong, rfl⟩
    have nonempty := (value?_eq_some_iff.mp given).1
    exact .number numeric given ((positiveWord_eq_error_iff nonempty).mp wrong)
  · intro wrong
    cases wrong with
    | address => exact absurd numeric (by decide)
    | missing required => exact absurd required (not_needed_of_number _ numeric)
    | number _ given wrong =>
      have nonempty := (value?_eq_some_iff.mp given).1
      exact ⟨_, _, given, (positiveWord_eq_error_iff nonempty).mpr wrong, rfl⟩

theorem fault?_required (required : v ∈ needed) :
    fault? (Config.required lookup v) = some e ↔ AtFault lookup v e := by
  rw [fault?_eq_some_iff, required_eq_error_iff]
  constructor
  · rintro ⟨unset, rfl⟩
    exact .missing required unset
  · intro wrong
    cases wrong with
    | address => exact absurd required (by decide)
    | missing _ unset => exact ⟨unset, rfl⟩
    | number numeric => exact absurd required (not_needed_of_number _ numeric)

theorem faultOf_eq_some_iff : faultOf lookup v = some e ↔ AtFault lookup v e := by
  cases v with
  | listenAddress =>
    rw [faultOf, fault?_eq_some_iff, optional_eq_error_iff]
    constructor
    · rintro ⟨value, fault, given, wrong, rfl⟩
      obtain ⟨unread, rfl⟩ := address_eq_error_iff.mp wrong
      exact .address given unread
    · intro wrong
      cases wrong with
      | address given unread => exact ⟨_, _, given, address_eq_error_iff.mpr ⟨unread, rfl⟩, rfl⟩
      | number numeric => exact absurd numeric (by decide)
      | missing required => exact absurd required (by decide)
  | workers => exact fault?_number (by decide)
  | queueCapacity => exact fault?_number (by decide)
  | httpTimeout => exact fault?_number (by decide)
  | webhookSecret => exact fault?_required (by decide)
  | chatUrl => exact fault?_required (by decide)
  | botToken => exact fault?_required (by decide)
  | botUserId => exact fault?_required (by decide)
  | storePath =>
    constructor
    · nofun
    · intro wrong
      cases wrong with
      | number numeric => exact absurd numeric (by decide)
      | missing required => exact absurd required (by decide)

/-- What is reported is the fault of the first variable that is at fault. -/
theorem read_eq_error_iff : read lookup = .error e ↔ ∃ before v after,
    checked = before ++ v :: after ∧ AtFault lookup v e ∧
      ∀ w ∈ before, ∀ e', ¬ AtFault lookup w e' := by
  rw [← fault?_eq_some_iff, fault?_read, List.findSome?_eq_some_iff]
  simp only [faultOf_eq_some_iff, Option.eq_none_iff_forall_ne_some, ne_eq]

theorem exists_setting_iff {text : Option String} {default : α} {means : String → α → Prop} :
    (∃ a, Setting text default means a) ↔ ∀ value, text = some value → ∃ a, means value a := by
  unfold Setting
  cases text with
  | none => simp
  | some text => simp

/-- A configuration can be made of the variables exactly where nothing is wrong with them. -/
theorem exists_madeOf_iff : (∃ c, MadeOf lookup c) ↔ Acceptable lookup := by
  constructor
  · rintro ⟨c, made⟩
    refine ⟨exists_setting_iff.mp ⟨_, made.listenAddress⟩, ?_, ?_⟩
    · intro v numeric
      simp only [numbers, List.mem_cons, List.not_mem_nil, or_false] at numeric
      rcases numeric with rfl | rfl | rfl
      · exact exists_setting_iff.mp ⟨_, made.workers⟩
      · exact exists_setting_iff.mp ⟨_, made.queueCapacity⟩
      · exact exists_setting_iff.mp ⟨_, made.httpTimeout⟩
    · intro v required
      simp only [needed, List.mem_cons, List.not_mem_nil, or_false] at required
      rcases required with rfl | rfl | rfl | rfl
      · exact ⟨_, made.webhookSecret⟩
      · exact ⟨_, made.chatUrl⟩
      · exact ⟨_, made.botToken⟩
      · exact ⟨_, made.botUserId⟩
  · rintro ⟨address, number, given⟩
    obtain ⟨a, isAddress⟩ := exists_setting_iff.mpr address
    obtain ⟨w, isWorkers⟩ := exists_setting_iff.mpr (number .workers (by decide))
    obtain ⟨q, isCapacity⟩ := exists_setting_iff.mpr (number .queueCapacity (by decide))
    obtain ⟨t, isTimeout⟩ := exists_setting_iff.mpr (number .httpTimeout (by decide))
    obtain ⟨secret, isSecret⟩ := given .webhookSecret (by decide)
    obtain ⟨url, isUrl⟩ := given .chatUrl (by decide)
    obtain ⟨token, isToken⟩ := given .botToken (by decide)
    obtain ⟨user, isUser⟩ := given .botUserId (by decide)
    exact ⟨⟨a, w, q, secret, value? lookup .storePath, url, token, user, t⟩,
      isAddress, isWorkers, isCapacity, isTimeout, isSecret, rfl, isUrl, isToken, isUser⟩

/-- Only the values of the nine variables matter. -/
theorem read_congr {other : String → Option String}
    (same : ∀ v, value? other v = value? lookup v) : read other = read lookup := by
  unfold read optional required
  simp only [same]

/-- A configuration is accepted exactly where the address, if it is set, can be read, the numbers
that are set are decimal and between 1 and the largest of 64 bits, and what is needed is set; a
value is trimmed, and set where something is left of it. Otherwise the first variable that is at
fault is reported, with its trimmed value or as missing. A configuration that is accepted is made of
the trimmed values and the defaults, and of nothing else. -/
theorem configuration_decided (lookup : String → Option String) :
    (∀ v value, value? lookup v = some value ↔
      value ≠ "" ∧ ∃ raw, lookup v.name = some raw ∧ value = Text.trimmed raw) ∧
    ((∃ c, read lookup = .ok c) ↔ Acceptable lookup) ∧
    (∀ e, read lookup = .error e ↔ ∃ before v after, checked = before ++ v :: after ∧
      AtFault lookup v e ∧ ∀ w ∈ before, ∀ e', ¬ AtFault lookup w e') ∧
    (∀ c, read lookup = .ok c ↔ MadeOf lookup c) ∧
    ∀ other, (∀ v, value? other v = value? lookup v) → read other = read lookup := by
  refine ⟨fun v value => value?_eq_some_iff, ?_, fun e => read_eq_error_iff,
    fun c => read_eq_ok_iff, fun other same => read_congr same⟩
  simp only [read_eq_ok_iff]
  exact exists_madeOf_iff

/-- Variables as they come, with blanks around some values. -/
def untidy (name : String) : Option String :=
  [("JIRA_RELAY_WORKERS", " +007 "), ("JIRA_RELAY_QUEUE_CAPACITY", "18446744073709551615\n"),
    ("JIRA_RELAY_STORE_PATH", " \t "), ("JIRA_RELAY_WEBHOOK_SECRET", "s3cret"),
    ("MATTERMOST_URL", "https://chat"), ("MATTERMOST_BOT_TOKEN", "tok\u3000"),
    ("MATTERMOST_BOT_USER_ID", "bot")].lookup name

/-- The same variables without the blanks. -/
def tidy (name : String) : Option String :=
  [("JIRA_RELAY_WORKERS", "+007"), ("JIRA_RELAY_QUEUE_CAPACITY", "18446744073709551615"),
    ("JIRA_RELAY_WEBHOOK_SECRET", "s3cret"), ("MATTERMOST_URL", "https://chat"),
    ("MATTERMOST_BOT_TOKEN", "tok"), ("MATTERMOST_BOT_USER_ID", "bot")].lookup name

/-- Variables of which several are at fault. -/
def faulty (name : String) : Option String :=
  [("JIRA_RELAY_WORKERS", "7"), ("JIRA_RELAY_QUEUE_CAPACITY", " 018446744073709551616x"),
    ("JIRA_RELAY_HTTP_TIMEOUT_SECS", "0"), ("MATTERMOST_URL", "https://chat")].lookup name

/-- Blanks make no difference, and of several faults the one of the queue's capacity comes first. -/
theorem first_fault_reported :
    read untidy = read tidy ∧ (∃ c, read untidy = .ok c ∧ MadeOf untidy c ∧ c.workers = 7 ∧
      c.queueCapacity = Nat.pow 2 64 - 1 ∧ c.httpTimeout = 30 ∧ c.storePath = none) ∧
    read faulty = .error (.invalid .queueCapacity "018446744073709551616x" .tooLarge) ∧
    AtFault faulty .httpTimeout (.invalid .httpTimeout "0" .zero) ∧
    AtFault faulty .webhookSecret (.missing .webhookSecret) := by
  obtain ⟨-, -, -, -, alike⟩ := configuration_decided tidy
  obtain ⟨-, -, -, made, -⟩ := configuration_decided untidy
  obtain ⟨-, -, reported, -⟩ := configuration_decided faulty
  have same : ∀ v, value? untidy v = value? tidy v := by
    intro v
    cases v <;> decide +kernel
  have isRead : ((read untidy).toOption.any fun c => c.workers = 7 ∧
      c.queueCapacity = Nat.pow 2 64 - 1 ∧ c.httpTimeout = 30 ∧ c.storePath = none) = true := by
    decide +kernel
  obtain ⟨c, isOk, settings⟩ := (Option.any_eq_true _ _).mp isRead
  have ok : read untidy = .ok c := by
    cases found : read untidy with
    | error e => rw [found] at isOk; cases isOk
    | ok d => rw [found] at isOk; cases isOk; rfl
  have before : ∀ w ∈ [Variable.listenAddress, .workers], faultOf faulty w = none := by
    decide +kernel
  refine ⟨alike untidy same, ⟨c, ok, (made c).mp ok, of_decide_eq_true settings⟩,
    (reported _).mpr ⟨[.listenAddress, .workers], .queueCapacity, _, rfl, ?_, ?_⟩, ?_, ?_⟩
  · exact .number (by decide) (by decide +kernel)
      ⟨"018446744073709551616".toList, ['x'], by decide +kernel,
        List.all_eq_true.mp (by decide +kernel), by decide +kernel⟩
  · intro w early e wrong
    rw [← faultOf_eq_some_iff, before w early] at wrong
    cases wrong
  · exact .number (by decide) (by decide +kernel)
      ⟨by decide +kernel, List.all_eq_true.mp (by decide +kernel), by decide +kernel⟩
  · exact .missing (by decide) (by decide +kernel)

end Herald.Config
