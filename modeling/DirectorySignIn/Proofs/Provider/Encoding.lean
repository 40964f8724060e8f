import DirectorySignIn.Proofs.Json.Reader
import DirectorySignIn.Proofs.Json.Record
import DirectorySignIn.Proofs.SignIn.Bracketing

/-!
# Provider configurations as JSON

The JSON of a configuration is decoded as the configuration, except that the password is not in it:
in its place comes the text that is shown for secrets.  Nothing else is lost, and what was lost once
is not lost again.

Main results:

- `Port.parse_text`: a port is read from its own text.
- `encodes_members`: the members of a configuration encode it.
- `IsDocument.takes`: a configuration is decoded from its members in any order and among unknown
  ones, and from their values in order.
- `roundTrip`: what is written is read as the redacted configuration, and configurations that
  differ in their passwords only cannot be told apart by what is shown of them.
-/

namespace DirectorySignIn

/-! ## The values of the fields -/

/-- A digit is no white space. -/
theorem Text.isBlank_of_isDigit {c : Char} (h : c.isDigit = true) : Text.isBlank c = false := by
  obtain ⟨low, high⟩ := Char.isDigit_iff_toNat.mp h
  have low : 48 ≤ c.toNat := low
  have high : c.toNat ≤ 57 := high
  simp [Text.isBlank]
  omega

namespace Port

/-- A port is read from its own text. -/
theorem parse_text (port : Port) : parse port.text = .ok port := by
  have digit {c : Char} (hc : c ∈ port.text.toList) : c.isDigit = true :=
    List.all_eq_true.mp port.all_isDigit_text c hc
  have trimmed : Text.trimBlanks port.text.toList = port.text.toList :=
    Text.trimBlanks_blankless
      (fun _ first => Text.isBlank_of_isDigit (digit (List.mem_of_head? first)))
      (fun _ last => Text.isBlank_of_isDigit (digit (List.mem_of_getLast? last)))
  have no_sign : unsigned port.text.toList = port.text.toList := by
    unfold unsigned
    split
    · rename_i starts
      exact absurd (digit (starts ▸ List.mem_cons_self ..)) (by decide)
    · rfl
  have read : ofDigits? port.text.toList = some port := by
    rw [ofDigits?, no_sign, if_pos ⟨port.text_ne_nil, port.all_isDigit_text⟩,
      port.ofDigitChars_text]
    exact (ofNat?_eq_some_iff port.number port).mpr rfl
  rw [parse, trimmed, read]

/-- A port is taken from its text. -/
theorem takes_text (port : Port) : decode.Takes port.json port := by
  intro origin doc spells
  have text := (Json.Decoder.takes_text port.text).refine port.parse_text origin doc spells
  cases spells with
  | string h =>
    simp [decode, Json.Document.validate, h.text_eq, Json.ofRead, text, bind, Except.bind]

/-- A port is taken from its number as well. -/
theorem takes_number (port : Port) : decode.Takes (.number port.number) port := by
  intro origin doc spells
  have le_max : port.number ≤ Json.Numeral.maxNatural := port.le_max.trans (by decide)
  have known : ofNat? port.number = some port := (ofNat?_eq_some_iff port.number port).mpr rfl
  cases spells with
  | number h =>
    have natural := h.natural le_max
    simp [decode, Json.Document.validate, h.read le_max, natural, known, Json.ofRead, bind,
      Except.bind, pure, Except.pure]

end Port

/-- Every text is taken for a secret. -/
theorem Secret.takes_text (s : String) : Secret.decode.Takes (.string s) ⟨s⟩ := by
  intro origin doc spells
  simp [Secret.decode, Json.Decoder.takes_text s origin doc spells, Except.map]

/-- A number of one byte is taken for itself. -/
theorem takes_byte {n : Nat} (small : n ≤ 255) : decodeByte.Takes (.number n) n := by
  intro origin doc spells
  have natural := Json.Decoder.takes_natural (small.trans (by decide)) origin doc spells
  simp [decodeByte, natural, small, bind, Except.bind]

/-- A status is decoded from its document. -/
theorem ProviderStatus.takes_json (status : ProviderStatus) :
    ProviderStatus.decode.Takes status.json status :=
  (takes_byte (by cases status <;> decide)).refine (ofCode_code status)

/-- A protocol is decoded from its document. -/
theorem Protocol.takes_json (protocol : Protocol) :
    Protocol.decode.Takes protocol.json protocol :=
  (takes_byte (by cases protocol <;> decide)).refine (ofCode_code protocol)

/-- A scope of searches is decoded from its document. -/
theorem SearchScope.takes_json (scope : SearchScope) : SearchScope.decode.Takes scope.json scope :=
  (takes_byte (by cases scope <;> decide)).refine (ofCode_code scope)

namespace ProviderConfig

/-- A number of 64 bits is taken for itself. -/
theorem takes_word (word : UInt64) : decodeWord.Takes (.number word.toNat) word := by
  intro origin doc spells
  have le_max : word.toNat ≤ Json.Numeral.maxNatural := Nat.le_pred_of_lt word.toNat_lt
  simp [decodeWord, Json.Decoder.takes_natural le_max origin doc spells, Except.map]

/-! ## The members of a configuration -/

/-- A configuration with its password replaced by what is shown in its place. -/
def redacted (config : ProviderConfig) : ProviderConfig :=
  { config with bindPassword := ⟨Secret.redacted⟩ }

/-- The members of a configuration with a value for its port and one for its password. -/
def members (config : ProviderConfig) (port : Json) (password : String) : List (String × Json) := [
  ("id", .number config.id.toNat),
  ("provider", .string config.provider),
  ("displayName", .string config.displayName),
  ("status", config.status.json),
  ("protocol", config.protocol.json),
  ("certCheck", .bool config.certCheck),
  ("hostname", .string config.hostname),
  ("port", port),
  ("bindUsername", .string config.bindUsername),
  ("bindPassword", .string password),
  ("rootDN", .string config.rootDn),
  ("scope", config.scope.json),
  ("userSearchFilter", .string config.userSearchFilter),
  ("usernameLdapAttribute", .string config.usernameAttribute),
  ("nameLdapAttribute", .string config.nameAttribute),
  ("mailLdapAttribute", .string config.mailAttribute)]

/-- The values of the fields in their order. -/
def row (config : ProviderConfig) : Json.Row [UInt64, String, String, ProviderStatus, Protocol,
    Bool, String, Port, String, Secret, String, SearchScope, String, String, String, String] :=
  (config.id, config.provider, config.displayName, config.status, config.protocol,
    config.certCheck, config.hostname, config.port, config.bindUsername, config.bindPassword,
    config.rootDn, config.scope, config.userSearchFilter, config.usernameAttribute,
    config.nameAttribute, config.mailAttribute, ())

/-- The members of a configuration with its password encode it. -/
theorem encodes_members (config : ProviderConfig) {port : Json}
    (spelled : Port.decode.Takes port config.port) :
    fields.Encodes config.row (config.members port config.bindPassword.reveal) :=
  .cons (takes_word config.id) <|
  .cons (Json.Decoder.takes_text config.provider) <|
  .cons (Json.Decoder.takes_text config.displayName) <|
  .cons config.status.takes_json <|
  .cons config.protocol.takes_json <|
  .cons (Json.Decoder.takes_bool config.certCheck) <|
  .cons (Json.Decoder.takes_text config.hostname) <|
  .cons spelled <|
  .cons (Json.Decoder.takes_text config.bindUsername) <|
  .cons (Secret.takes_text config.bindPassword.reveal) <|
  .cons (Json.Decoder.takes_text config.rootDn) <|
  .cons config.scope.takes_json <|
  .cons (Json.Decoder.takes_text config.userSearchFilter) <|
  .cons (Json.Decoder.takes_text config.usernameAttribute) <|
  .cons (Json.Decoder.takes_text config.nameAttribute) <|
  .cons (Json.Decoder.takes_text config.mailAttribute) .nil

/-- No two fields of a configuration have one name. -/
theorem names_nodup : fields.names.Nodup := by
  decide +kernel

/-- A configuration is decoded from its row. -/
theorem takes_of_fields {value : Json} {config : ProviderConfig}
    (h : fields.decode.Takes value config.row) : decode.Takes value config := by
  intro origin doc spells
  simp [decode, h origin doc spells, row, bind, Except.bind, pure, Except.pure]

/-- A value is a document of a configuration: an object of its members in any order and among
unknown ones, or an array of their values.  The port is a text or a number. -/
inductive IsDocument (config : ProviderConfig) : Json → Prop
  | object {port : Json} {given : List (String × Json)}
      (port_mem : port ∈ [.string config.port.text, .number config.port.number])
      (same : (given.filter (·.1 ∈ fields.names)).Perm
        (config.members port config.bindPassword.reveal)) :
      IsDocument config (.object given)
  | array {port : Json}
      (port_mem : port ∈ [.string config.port.text, .number config.port.number]) :
      IsDocument config (.array ((config.members port config.bindPassword.reveal).map Prod.snd))

/-- A configuration is decoded from each of its documents. -/
theorem IsDocument.takes {config : ProviderConfig} {value : Json} (h : config.IsDocument value) :
    decode.Takes value config := by
  have spelled {port : Json}
      (port_mem : port ∈ [.string config.port.text, .number config.port.number]) :
      Port.decode.Takes port config.port := by
    rcases List.mem_pair.mp port_mem with rfl | rfl
    · exact config.port.takes_text
    · exact config.port.takes_number
  cases h with
  | object port_mem same =>
    have encodes := config.encodes_members (spelled port_mem)
    exact takes_of_fields (encodes.takes_object names_nodup same)
  | array port_mem => exact takes_of_fields (config.encodes_members (spelled port_mem)).takes_array

/-- The JSON of a configuration is a document of the redacted configuration. -/
theorem isDocument_json (config : ProviderConfig) : config.redacted.IsDocument config.json := by
  have encodes := config.redacted.encodes_members config.redacted.port.takes_text
  exact .object (List.mem_cons_self ..) (.of_eq encodes.filter_eq_self)

/-- Whatever a document of a configuration is decoded from, the configuration is decoded from it.
The JSON of a configuration is decoded as the configuration with its password redacted, and that
has the same JSON.  Configurations that differ in their passwords only have the same JSON, the same
diagnostic text and the same option, but a copy keeps its password.  Hence decoding what was decoded
from any text or document and written again changes nothing but the password. -/
theorem roundTrip :
    (∀ (config : ProviderConfig) (value : Json), config.IsDocument value →
      Json.decodeText decode value.text = .ok config ∧
        Json.decodeValue decode value.document = .ok config) ∧
    (∀ config : ProviderConfig, config.redacted.IsDocument config.json ∧
      Json.decodeText decode config.json.text = .ok config.redacted ∧
      Json.decodeValue decode config.json.document = .ok config.redacted ∧
      config.redacted.json = config.json) ∧
    (∀ config other : ProviderConfig, config.redacted = other.redacted →
      config.json = other.json ∧ config.describe = other.describe ∧
        config.option = other.option) ∧
    (∀ config : ProviderConfig, config.copy = config) ∧
    (∀ text, ((Json.decodeText decode text).bind fun config =>
        Json.decodeText decode config.json.text) =
      (Json.decodeText decode text).map redacted) ∧
    ∀ doc, ((Json.decodeValue decode doc).bind fun config =>
        Json.decodeValue decode config.json.document) =
      (Json.decodeValue decode doc).map redacted := by
  have taken (config : ProviderConfig) := config.isDocument_json.takes
  refine ⟨fun _ _ h => ⟨h.takes.decodeText, h.takes.decodeValue⟩,
    fun config => ⟨config.isDocument_json, (taken config).decodeText, (taken config).decodeValue,
      rfl⟩, ?_, fun _ => rfl, fun text => ?_, fun doc => ?_⟩
  · intro config other same
    have json : config.redacted.json = other.redacted.json := congrArg _ same
    have describe : config.redacted.describe = other.redacted.describe := congrArg _ same
    have option : config.redacted.option = other.redacted.option := congrArg _ same
    exact ⟨json, describe, option⟩
  · cases Json.decodeText decode text with
    | error e => rfl
    | ok config => exact (taken config).decodeText
  · cases Json.decodeValue decode doc with
    | error e => rfl
    | ok config => exact (taken config).decodeValue

/-- A document in another order, with an unknown member and a number for its port. -/
theorem roundTrip_reversed :
    let config := ProviderConfig.sample
    let value := Json.object (("note", .array [.null, .string "\x01"]) ::
      (config.members (.number 636) "reader-pw").reverse)
    config.IsDocument value ∧ Json.decodeText decode value.text = .ok config ∧
      Json.decodeText decode config.json.text = .ok config.redacted ∧
      config.redacted ≠ config ∧
      config.json = { config with bindPassword := ⟨"other-pw"⟩ }.json := by
  intro config value
  have isDocument : config.IsDocument value := by
    have encodes := config.encodes_members config.port.takes_number
    refine @IsDocument.object config (.number config.port.number) _ (by simp) ?_
    rw [List.filter_cons_of_neg (by decide +kernel), List.filter_reverse]
    exact (List.reverse_perm _).trans (.of_eq encodes.filter_eq_self)
  refine ⟨isDocument, (roundTrip.1 config value isDocument).1, (roundTrip.2.1 config).2.1,
    by decide +kernel, (roundTrip.2.2.1 config _ rfl).1⟩

end ProviderConfig

end DirectorySignIn
