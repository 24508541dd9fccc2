import Mathlib.Data.List.Basic
import SqlDraft.Record.Options

/-!
# Settings

Options are made from any table of fields in which no name occurs twice.  They are accepted exactly
if every field is one of the four settings and gives a text that is not blank.  Otherwise every
refused setting is reported once, in the order in which settings are declared, and then every name
that is no setting, in the order of the table.
-/

namespace SqlDraft

namespace Checked

variable {α β : Type}

/-- The faults that are reported; a checked value has none. -/
def faults : Checked α → List Fault
  | .ok _ => []
  | .error faults => faults

theorem faults_apply (function : Checked (α → β)) (argument : Checked α) :
    (apply function argument).faults = function.faults ++ argument.faults := by
  cases function <;> cases argument <;> simp [apply, faults]

theorem faults_except (checked : Checked α) (further : List Fault) :
    (except checked further).faults = checked.faults ++ further := by
  cases checked <;> cases further <;> simp [except, faults]

theorem apply_eq_ok_iff {function : Checked (α → β)} {argument : Checked α} {result : β} :
    apply function argument = .ok result ↔
      ∃ applied value, function = .ok applied ∧ argument = .ok value ∧ applied value = result := by
  cases function <;> cases argument <;> simp [apply]

theorem except_eq_ok_iff {checked : Checked α} {further : List Fault} {value : α} :
    except checked further = .ok value ↔ checked = .ok value ∧ further = [] := by
  cases checked <;> cases further <;> simp [except]

theorem outcome_eq_ok_iff {record : RecordType} {checked : Checked α} {value : α} :
    outcome record checked = .ok value ↔ checked = .ok value := by
  cases checked <;> simp [outcome, Except.mapError]

theorem eq_of_outcome_eq_error {record : RecordType} {checked : Checked α} {failure : Failure}
    (refused : outcome record checked = .error failure) :
    failure = .invalid record checked.faults := by
  cases checked with
  | ok value => cases refused
  | error faults => exact (Except.error.inj refused).symm

end Checked

theorem Text.allBlank_eq_false_iff {content : String} :
    allBlank content = false ↔ ∃ c ∈ content.toList, isBlank c = false := by
  simp [allBlank]

namespace Value

/-- The value gives the text: it is the text, a kind with that name, or the text in UTF-8. -/
inductive Gives : Value → String → Prop
  | text (content : String) : Gives (.text content) content
  | kind (which : Kind) : Gives (.kind which) which.name
  | bytes (content : String) : Gives (.bytes content.toUTF8.data.toList) content

theorem Gives.eq_of_text {content other : String} (gives : (Value.text content).Gives other) :
    content = other := by
  cases gives
  rfl

/-- The value gives a text with a character that is not blank. -/
def Sets (value : Value) (content : String) : Prop :=
  value.Gives content ∧ ∃ c ∈ content.toList, Text.isBlank c = false

/-- The value is refused as a setting for the given cause. -/
inductive Offends : Value → FaultCause → Prop
  /-- Neither a text nor bytes. -/
  | notText {value : Value} (noBytes : ∀ content, value ≠ .bytes content)
      (noText : ∀ content, ¬ value.Gives content) : Offends value .notText
  /-- Bytes that are not the UTF-8 of any text. -/
  | notUnicode {bytes : List UInt8} (noText : ∀ content, ¬ (Value.bytes bytes).Gives content) :
      Offends (.bytes bytes) .notUnicode
  /-- A text without a character that is not blank. -/
  | blank {value : Value} {content : String} (gives : value.Gives content)
      (blank : ∀ c ∈ content.toList, Text.isBlank c = true) : Offends value .blank

end Value

namespace Field

variable {value : Value} {content : String} {cause : FaultCause}

/-- Bytes are decoded exactly if they are the UTF-8 of a text. -/
theorem decode?_eq_some_iff {bytes : List UInt8} :
    decode? bytes = some content ↔ bytes = content.toUTF8.data.toList := by
  rw [decode?, String.fromUTF8?]
  constructor
  · intro decoded
    split at decoded
    · rw [← Option.some.inj decoded]
      rfl
    · cases decoded
  · rintro rfl
    rw [Array.toArray_toList]
    exact dif_pos content.isValidUTF8

theorem readText_eq_ok_iff : readText value = .ok content ↔ value.Gives content := by
  constructor
  · intro read
    cases value with
    | text | kind =>
        obtain rfl := Except.ok.inj read
        constructor
    | bytes bytes =>
        rw [readText] at read
        cases decoded : decode? bytes with
        | none => simp [decoded] at read
        | some text =>
            obtain rfl : text = content := by simpa [decoded] using read
            rw [decode?_eq_some_iff.mp decoded]
            exact .bytes text
    | _ => cases read
  · rintro (_ | _ | bytes)
    · rfl
    · rfl
    · rw [readText, decode?_eq_some_iff.mpr rfl]
      rfl

/-- A field refuses a value that gives no text, and tells bytes from other values. -/
theorem readText_eq_error {cause : FaultCause} (refused : readText value = .error cause) :
    value.Offends cause := by
  have noText (content : String) : ¬ value.Gives content := fun gives => by
    rw [readText_eq_ok_iff.mpr gives] at refused
    cases refused
  cases value with
  | text content => exact absurd (.text content) (noText content)
  | kind which => exact absurd (.kind which) (noText which.name)
  | bytes bytes =>
      rw [readText] at refused
      cases decoded : decode? bytes with
      | some content => simp [decoded] at refused
      | none =>
          obtain rfl : .notUnicode = cause := by simpa [decoded] using refused
          exact .notUnicode noText
  | _ =>
      obtain rfl := Except.error.inj refused
      exact .notText (by simp) noText

theorem readSetting_of_gives (gives : value.Gives content) :
    readSetting value = if Text.allBlank content then .error .blank else .ok content := by
  rw [readSetting, readText_eq_ok_iff.mpr gives]

theorem readSetting_of_readText {cause : FaultCause} (refused : readText value = .error cause) :
    readSetting value = .error cause := by
  rw [readSetting, refused]

theorem readSetting_eq_ok_iff : readSetting value = .ok content ↔ value.Sets content := by
  constructor
  · intro accepted
    cases read : readText value with
    | error cause =>
        rw [readSetting_of_readText read] at accepted
        cases accepted
    | ok text =>
        have gives := readText_eq_ok_iff.mp read
        rw [readSetting_of_gives gives] at accepted
        split_ifs at accepted with blank
        obtain rfl := Except.ok.inj accepted
        exact ⟨gives, Text.allBlank_eq_false_iff.mp (eq_false_of_ne_true blank)⟩
  · rintro ⟨gives, solid⟩
    rw [readSetting_of_gives gives, Text.allBlank_eq_false_iff.mpr solid]
    rfl

theorem readSetting_eq_error_iff {cause : FaultCause} :
    readSetting value = .error cause ↔ value.Offends cause := by
  constructor
  · intro refused
    cases read : readText value with
    | error found =>
        rw [readSetting_of_readText read] at refused
        obtain rfl := Except.error.inj refused
        exact readText_eq_error read
    | ok content =>
        have gives := readText_eq_ok_iff.mp read
        rw [readSetting_of_gives gives] at refused
        split_ifs at refused with blank
        obtain rfl := Except.error.inj refused
        exact .blank gives (by simpa [Text.allBlank] using blank)
  · rintro (⟨noBytes, noText⟩ | noText | ⟨gives, blank⟩)
    · cases value with
      | text content => exact absurd (.text content) (noText content)
      | kind which => exact absurd (.kind which) (noText which.name)
      | bytes bytes => exact absurd rfl (noBytes bytes)
      | _ => rfl
    · rename_i bytes
      have undecoded : decode? bytes = none := by
        refine Option.eq_none_iff_forall_ne_some.mpr fun content decoded => noText content ?_
        exact decode?_eq_some_iff.mp decoded ▸ .bytes content
      exact readSetting_of_readText (by rw [readText, undecoded]; rfl)
    · rw [readSetting_of_gives gives]
      exact if_pos (by simpa [Text.allBlank] using blank)

/-! ### Faults under names -/

variable {α : Type} {read : Value → Except FaultCause α} {name : String}

theorem check_eq_ok_iff {result : α} :
    check read name value = .ok result ↔ read value = .ok result := by
  rw [check]
  cases read value <;> simp [Except.mapError]

theorem mem_faults_check {fault : Fault} :
    fault ∈ (check read name value).faults ↔
      fault.field = name ∧ read value = .error fault.cause := by
  obtain ⟨field, cause⟩ := fault
  rw [check]
  cases read value with
  | ok result => simp [Except.mapError, Checked.faults]
  | error found => simp [Except.mapError, Checked.faults, eq_comm]

theorem sublist_faults_check : ((check read name value).faults.map Fault.field).Sublist [name] := by
  rw [check]
  cases read value <;> simp [Except.mapError, Checked.faults]

end Field

namespace Fields

variable {fields : Fields} {name : String} {value : Value}

theorem get?_eq_some_iff (distinct : (fields.map Prod.fst).Nodup) :
    fields.get? name = some value ↔ (name, value) ∈ fields := by
  rw [get?, List.lookup_eq_some_iff]
  constructor
  · rintro ⟨before, behind, rfl, -⟩
    exact List.mem_append_right before List.mem_cons_self
  · intro mem
    obtain ⟨before, behind, rfl⟩ := List.append_of_mem mem
    -- What stands before the entry is given under other names, so the search passes over it.
    rw [List.map_append, List.map_cons] at distinct
    obtain ⟨-, -, apart⟩ := List.nodup_append.mp distinct
    refine ⟨before, behind, rfl, fun field earlier => bne_iff_ne.mpr ?_⟩
    exact (apart field.1 (List.mem_map_of_mem earlier) name List.mem_cons_self).symm

/-- A field has the value that is given for it, or its default if none is given. -/
theorem getD_cases (distinct : (fields.map Prod.fst).Nodup) (name : String) (default : Value) :
    (name, fields.getD name default) ∈ fields ∨
      (∀ value, (name, value) ∉ fields) ∧ fields.getD name default = default := by
  cases given : fields.get? name with
  | some value =>
      left
      rw [getD, given]
      exact (get?_eq_some_iff distinct).mp given
  | none =>
      right
      refine ⟨fun value mem => ?_, by rw [getD, given]; rfl⟩
      rw [(get?_eq_some_iff distinct).mpr mem] at given
      cases given

theorem getD_of_mem (distinct : (fields.map Prod.fst).Nodup) (mem : (name, value) ∈ fields)
    (default : Value) : fields.getD name default = value := by
  rw [getD, (get?_eq_some_iff distinct).mpr mem]
  rfl

theorem undeclared_eq_nil_iff {declared : List String} :
    fields.undeclared declared = [] ↔ ∀ field ∈ fields, field.1 ∈ declared := by
  simp [undeclared, List.filter_eq_nil_iff]

/-- A setting with the given name and default as it is read. -/
def setting (fields : Fields) (standard : String × String) : Checked String :=
  Field.check Field.readSetting standard.1 (fields.getD standard.1 (.text standard.2))

theorem setting_eq_ok_iff {standard : String × String} {content : String} :
    fields.setting standard = .ok content ↔
      (fields.getD standard.1 (.text standard.2)).Sets content :=
  Field.check_eq_ok_iff.trans Field.readSetting_eq_ok_iff

theorem mem_faults_setting {standard : String × String} {fault : Fault} :
    fault ∈ (fields.setting standard).faults ↔
      fault.field = standard.1 ∧
        (fields.getD standard.1 (.text standard.2)).Offends fault.cause := by
  rw [setting, Field.mem_faults_check, Field.readSetting_eq_error_iff]

/-- Settings report their faults in their order, and each of them one at most. -/
theorem sublist_faults_settings (fields : Fields) (standards : List (String × String)) :
    ((standards.flatMap fun standard => (fields.setting standard).faults).map Fault.field).Sublist
      (standards.map Prod.fst) := by
  induction standards with
  | nil => exact .slnil
  | cons standard standards ih =>
      rw [List.flatMap_cons, List.map_append]
      exact Field.sublist_faults_check.append ih

end Fields

theorem Value.Offends.code_mem {value : Value} {cause : FaultCause}
    (offends : value.Offends cause) :
    cause.code ∈ ["string_type", "string_unicode", "value_error"] := by
  cases offends <;> decide

theorem Value.Sets.not_offends {value : Value} {content : String} (sets : value.Sets content)
    (cause : FaultCause) : ¬ value.Offends cause := by
  intro offends
  have accepted := Field.readSetting_eq_ok_iff.mpr sets
  rw [Field.readSetting_eq_error_iff.mpr offends] at accepted
  cases accepted

namespace Options

/-- The settings under their names, in the order in which they are declared. -/
def settings (options : Options) : List (String × String) :=
  [("quoter", options.quoter), ("placeholder", options.placeholder),
    ("default_operator", options.defaultOperator), ("default_join_type", options.defaultJoinType)]

theorem map_fst_settings (options : Options) : options.settings.map Prod.fst = declared := rfl

/-- The options that the settings among the fields make. -/
def gather (fields : Fields) : Checked Options :=
  (((Checked.apply (.ok mk) (fields.setting ("quoter", default.quoter))).apply
    (fields.setting ("placeholder", default.placeholder))).apply
    (fields.setting ("default_operator", default.defaultOperator))).apply
    (fields.setting ("default_join_type", default.defaultJoinType))

variable {fields : Fields} {options : Options}

theorem ofFields_eq (fields : Fields) :
    ofFields fields = ((gather fields).except (fields.undeclared declared)).outcome .options := rfl

theorem faults_gather (fields : Fields) :
    (gather fields).faults =
      default.settings.flatMap fun standard => (fields.setting standard).faults := by
  have made : Checked.faults (.ok mk) = [] := rfl
  simp [gather, Checked.faults_apply, settings, made]

theorem gather_eq_ok_iff :
    gather fields = .ok options ↔
      ∀ setting ∈ options.settings, ∃ standard ∈ default.settings,
        standard.1 = setting.1 ∧ fields.setting standard = .ok setting.2 := by
  obtain ⟨quoter, placeholder, operator, joinType⟩ := options
  simp [gather, Checked.apply_eq_ok_iff, settings, and_assoc]

theorem exists_gather_iff :
    (∃ options, gather fields = .ok options) ↔
      ∀ standard ∈ default.settings, ∃ content, fields.setting standard = .ok content := by
  simp [gather, Checked.apply_eq_ok_iff, settings, and_assoc]

theorem ofFields_eq_ok_iff :
    ofFields fields = .ok options ↔
      gather fields = .ok options ∧ ∀ field ∈ fields, field.1 ∈ declared := by
  rw [ofFields_eq, Checked.outcome_eq_ok_iff, Checked.except_eq_ok_iff,
    Fields.undeclared_eq_nil_iff]

/-- Refused settings come first, and fields that are no settings come last. -/
theorem eq_of_ofFields_eq_error {failure : Failure} (refused : ofFields fields = .error failure) :
    failure = .invalid .options ((gather fields).faults ++ fields.undeclared declared) := by
  rw [ofFields_eq] at refused
  rw [Checked.eq_of_outcome_eq_error refused, Checked.faults_except]

theorem sets_standard {standard : String × String} (mem : standard ∈ default.settings) :
    (Value.text standard.2).Sets standard.2 := by
  have solid : ∀ standard ∈ default.settings, Text.allBlank standard.2 = false := by decide
  exact ⟨.text _, Text.allBlank_eq_false_iff.mp (solid standard mem)⟩

theorem exists_standard {name : String} (isDeclared : name ∈ declared) :
    ∃ standard ∈ default.settings, standard.1 = name :=
  List.mem_map.mp (default.map_fst_settings ▸ isDeclared)

theorem mem_declared {standard : String × String} (mem : standard ∈ options.settings) :
    standard.1 ∈ declared :=
  options.map_fst_settings ▸ List.mem_map_of_mem mem

theorem mem_faults_gather (distinct : (fields.map Prod.fst).Nodup) {fault : Fault} :
    fault ∈ (gather fields).faults ↔
      fault.field ∈ declared ∧
        ∃ value, (fault.field, value) ∈ fields ∧ value.Offends fault.cause := by
  rw [faults_gather, List.mem_flatMap]
  constructor
  · rintro ⟨standard, mem, reported⟩
    obtain ⟨same, offends⟩ := Fields.mem_faults_setting.mp reported
    rw [same]
    rcases Fields.getD_cases distinct standard.1 (.text standard.2) with given | ⟨-, unset⟩
    · exact ⟨mem_declared mem, _, given, offends⟩
    · rw [unset] at offends
      exact absurd offends ((sets_standard mem).not_offends _)
  · rintro ⟨isDeclared, value, given, offends⟩
    obtain ⟨standard, mem, same⟩ := exists_standard isDeclared
    refine ⟨standard, mem, Fields.mem_faults_setting.mpr ⟨same.symm, ?_⟩⟩
    rwa [same, Fields.getD_of_mem distinct given]

/-- Options can be made from settings exactly if each value that is given for one sets a text. -/
theorem exists_gather_iff_sets (distinct : (fields.map Prod.fst).Nodup) :
    (∃ options, gather fields = .ok options) ↔
      ∀ field ∈ fields, field.1 ∈ declared → ∃ content, field.2.Sets content := by
  simp only [exists_gather_iff, Fields.setting_eq_ok_iff]
  constructor
  · intro accepted field given isDeclared
    obtain ⟨standard, mem, same⟩ := exists_standard isDeclared
    have sets := accepted standard mem
    rwa [same, Fields.getD_of_mem distinct given] at sets
  · intro accepted standard mem
    rcases Fields.getD_cases distinct standard.1 (.text standard.2) with given | ⟨-, unset⟩
    · exact accepted _ given (mem_declared mem)
    · rw [unset]
      exact ⟨_, sets_standard mem⟩

theorem exists_solid_of_mem_settings (accepted : ofFields fields = .ok options)
    {setting : String × String} (mem : setting ∈ options.settings) :
    ∃ c ∈ setting.2.toList, Text.isBlank c = false := by
  obtain ⟨gathered, -⟩ := ofFields_eq_ok_iff.mp accepted
  obtain ⟨standard, -, -, read⟩ := gather_eq_ok_iff.mp gathered setting mem
  exact (Fields.setting_eq_ok_iff.mp read).2

theorem given_or_standard (distinct : (fields.map Prod.fst).Nodup)
    (accepted : ofFields fields = .ok options) {setting : String × String}
    (mem : setting ∈ options.settings) :
    (∃ value, (setting.1, value) ∈ fields ∧ value.Gives setting.2) ∨
      (∀ value, (setting.1, value) ∉ fields) ∧ setting ∈ default.settings := by
  obtain ⟨gathered, -⟩ := ofFields_eq_ok_iff.mp accepted
  obtain ⟨standard, isStandard, same, read⟩ := gather_eq_ok_iff.mp gathered setting mem
  have gives := (Fields.setting_eq_ok_iff.mp read).1
  rw [← same]
  rcases Fields.getD_cases distinct standard.1 (.text standard.2) with given | ⟨absent, unset⟩
  · exact .inl ⟨_, given, gives⟩
  · rw [unset] at gives
    refine .inr ⟨absent, ?_⟩
    rwa [← Prod.ext same gives.eq_of_text]

/-- Options are made from fields exactly if every field is a setting whose value gives a text that
is not blank.  The settings are then these texts, with defaults for those that are not given, and
none of them is blank.  Otherwise every setting that is given with another value is reported once,
with its cause and in the order of declaration, and every field that is no setting is reported
behind them, in the order given. -/
theorem accepts_iff_sets (distinct : (fields.map Prod.fst).Nodup) :
    ((∃ options, ofFields fields = .ok options) ↔
      ∀ field ∈ fields, field.1 ∈ declared ∧ ∃ content, field.2.Sets content) ∧
    (∀ options, ofFields fields = .ok options → ∀ setting ∈ options.settings,
      ((∃ value, (setting.1, value) ∈ fields ∧ value.Gives setting.2) ∨
        (∀ value, (setting.1, value) ∉ fields) ∧ setting ∈ default.settings) ∧
      ∃ c ∈ setting.2.toList, Text.isBlank c = false) ∧
    (∀ failure, ofFields fields = .error failure → ∃ offending : List Fault,
      failure = .invalid .options (offending ++
        (fields.filter fun field => field.1 ∉ declared).map fun field =>
          ⟨field.1, .unknownField⟩) ∧
      (offending.map Fault.field).Sublist declared ∧
      (∀ fault ∈ offending, fault.cause.code ∈ ["string_type", "string_unicode", "value_error"]) ∧
      ∀ fault, fault ∈ offending ↔ fault.field ∈ declared ∧
        ∃ value, (fault.field, value) ∈ fields ∧ value.Offends fault.cause) := by
  refine ⟨?_, ?_, ?_⟩
  · simp only [ofFields_eq_ok_iff, exists_and_right, exists_gather_iff_sets distinct]
    constructor
    · rintro ⟨sets, known⟩ field mem
      exact ⟨known field mem, sets field mem (known field mem)⟩
    · intro accepted
      exact ⟨fun field mem _ => (accepted field mem).2, fun field mem => (accepted field mem).1⟩
  · intro options accepted setting mem
    exact ⟨given_or_standard distinct accepted mem, exists_solid_of_mem_settings accepted mem⟩
  · intro failure refused
    refine ⟨(gather fields).faults, ?_, ?_, ?_, fun fault => mem_faults_gather distinct⟩
    · rw [eq_of_ofFields_eq_error refused]
      simp [Fields.undeclared]
    · rw [faults_gather, ← default.map_fst_settings]
      exact Fields.sublist_faults_settings fields default.settings
    · intro fault mem
      obtain ⟨-, value, -, offends⟩ := (mem_faults_gather distinct).mp mem
      exact offends.code_mem

/-- Fields of which one setting is blank, one is not the UTF-8 of a text and two are unknown. -/
def disorderly : Fields :=
  [("limit", .int 5), ("default_operator", .bytes [0xC3, 0x28]), ("placeholder", .text ":v"),
    ("quoter", .text "\u00a0\t"), ("dialect", .null)]

/-- The settings are reported in the order in which they are declared, and the placeholder between
them is not. -/
theorem refuses_disorderly :
    (disorderly.map Prod.fst).Nodup ∧
      ofFields disorderly = .error (.invalid .options
        [⟨"quoter", .blank⟩, ⟨"default_operator", .notUnicode⟩, ⟨"limit", .unknownField⟩,
          ⟨"dialect", .unknownField⟩]) ∧
      ∀ fault : Fault, fault ∈ [(⟨"quoter", .blank⟩ : Fault), ⟨"default_operator", .notUnicode⟩] ↔
        fault.field ∈ declared ∧
          ∃ value, (fault.field, value) ∈ disorderly ∧ value.Offends fault.cause := by
  have distinct : (disorderly.map Prod.fst).Nodup := by decide
  have refused : ofFields disorderly = .error (.invalid .options
      ([⟨"quoter", .blank⟩, ⟨"default_operator", .notUnicode⟩] ++
        [⟨"limit", .unknownField⟩, ⟨"dialect", .unknownField⟩])) := rfl
  obtain ⟨-, -, reported⟩ := accepts_iff_sets distinct
  obtain ⟨offending, same, -, -, causes⟩ := reported _ refused
  have settings : [⟨"quoter", .blank⟩, ⟨"default_operator", .notUnicode⟩] = offending :=
    List.append_cancel_right (Failure.invalid.inj same).2
  rw [← settings] at causes
  exact ⟨distinct, refused, causes⟩

end Options
end SqlDraft
