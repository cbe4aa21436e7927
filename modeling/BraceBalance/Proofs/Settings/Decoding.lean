import BraceBalance.Proofs.Outcome
import BraceBalance.Proofs.Settings.Layers
import BraceBalance.Settings.Decode

/-!
# What decoded settings are

Every setting has a type, and a value of a layer may or may not be of that type
(`Setting.Holds`). A layer in which sections are tables is decoded exactly if each of its settings
has a value of its type, and then to these values and the built-in ones. Nothing else in the
layer matters.
-/

namespace BraceBalance

namespace Tree

inductive IsText : Tree → Text → Prop where
  | text (origin : Origin) (value : Text) : IsText (.scalar origin (.text value)) value
  | character (origin : Origin) (value : Char) : IsText (.scalar origin (.character value)) [value]

inductive IsTexts : Tree → List Text → Prop where
  | sequence (origin : Origin) {elements : List Tree} {values : List Text}
      (each : List.Forall₂ IsText elements values) : IsTexts (.sequence origin elements) values

inductive IsBoolean : Tree → Bool → Prop where
  | boolean (origin : Origin) (value : Bool) : IsBoolean (.scalar origin (.boolean value)) value

inductive IsNatural : Tree → Nat → Prop where
  | unsigned (origin : Origin) (value : Nat) : IsNatural (.scalar origin (.unsigned value)) value
  | signed (origin : Origin) (value : Nat) : IsNatural (.scalar origin (.signed value)) value

inductive IsFormat : Tree → OutputFormat → Prop where
  | text (origin : Origin) (format : OutputFormat) :
      IsFormat (.scalar origin (.text format.name)) format

end Tree

namespace Setting

def Value : Setting → Type
  | version | commentMarker => Text
  | extensions | exclude => List Text
  | maxFileSize => Nat
  | format => OutputFormat
  | trace | failOnImbalance => Bool

/-- The value of a layer is a value of the setting's type. -/
def Holds : (setting : Setting) → Tree → setting.Value → Prop
  | version | commentMarker => Tree.IsText
  | extensions | exclude => Tree.IsTexts
  | maxFileSize => Tree.IsNatural
  | format => Tree.IsFormat
  | trace | failOnImbalance => Tree.IsBoolean

/-- The value of a layer is of the setting's type. -/
def Fits (setting : Setting) (tree : Tree) : Prop :=
  ∃ value, setting.Holds tree value

end Setting

namespace Settings

def get (settings : Settings) : (setting : Setting) → setting.Value
  | .version => settings.version
  | .commentMarker => settings.analysis.commentMarker
  | .extensions => settings.scan.extensions
  | .exclude => settings.scan.exclude
  | .maxFileSize => settings.scan.maxFileSize
  | .format => settings.output.format
  | .trace => settings.output.trace
  | .failOnImbalance => settings.check.failOnImbalance

end Settings

namespace Setting

/-- What a layer has for the setting, if it has something, or else the built-in value. -/
def Gives (setting : Setting) (tree? : Option Tree) (value : setting.Value) : Prop :=
  match tree? with
  | some tree => setting.Holds tree value
  | none => value = Settings.default.get setting

theorem not_holds_of_isTable {setting : Setting} {tree : Tree} (isTable : tree.IsTable)
    (value : setting.Value) : ¬setting.Holds tree value := by
  intro holds
  cases isTable
  cases setting <;> cases holds

/-- The content of tables does not matter to a setting. -/
theorem Gives.of_agrees {setting : Setting} {left right : Option Tree} {value : setting.Value}
    (gives : setting.Gives left value) (agree : Option.Rel Tree.Agrees left right) :
    setting.Gives right value := by
  cases agree with
  | none => exact gives
  | some agree =>
      rcases agree with rfl | ⟨isTable, _⟩
      · exact gives
      · exact absurd gives (not_holds_of_isTable isTable value)

theorem forall_iff {property : Setting → Prop} :
    (∀ setting, property setting) ↔
      property .commentMarker ∧ property .failOnImbalance ∧
        (property .format ∧ property .trace) ∧
        (property .exclude ∧ property .extensions ∧ property .maxFileSize) ∧
        property .version := by
  constructor
  · intro all
    exact ⟨all _, all _, ⟨all _, all _⟩, ⟨all _, all _, all _⟩, all _⟩
  · rintro ⟨commentMarker, failOnImbalance, ⟨format, trace⟩, ⟨exclude, extensions, maxFileSize⟩,
      version⟩ setting
    cases setting <;> assumption

end Setting

/-! ## Values -/

namespace Decode

theorem text_eq_ok_iff {tree : Tree} {value : Text} :
    text tree = .ok value ↔ tree.IsText value := by
  constructor
  · intro decoded
    unfold text at decoded
    split at decoded
    · exact Except.ok.inj decoded ▸ .text _ _
    · exact Except.ok.inj decoded ▸ .character _ _
    · cases decoded
  · intro isText
    cases isText <;> rfl

theorem boolean_eq_ok_iff {tree : Tree} {value : Bool} :
    boolean tree = .ok value ↔ tree.IsBoolean value := by
  constructor
  · intro decoded
    unfold boolean at decoded
    split at decoded
    · exact Except.ok.inj decoded ▸ .boolean _ _
    · cases decoded
  · intro isBoolean
    cases isBoolean
    rfl

theorem natural_eq_ok_iff {tree : Tree} {value : Nat} :
    natural tree = .ok value ↔ tree.IsNatural value := by
  constructor
  · intro decoded
    unfold natural at decoded
    split at decoded
    · exact Except.ok.inj decoded ▸ .unsigned _ _
    · exact Except.ok.inj decoded ▸ .signed _ _
    · cases decoded
    · cases decoded
  · intro isNatural
    cases isNatural <;> rfl

theorem textsFrom_eq_ok_iff {number : Nat} {elements : List Tree} {values : List Text} :
    textsFrom number elements = .ok values ↔ List.Forall₂ Tree.IsText elements values := by
  induction elements generalizing number values with
  | nil =>
      rw [textsFrom, List.forall₂_nil_left_iff, Except.ok.injEq]
      exact eq_comm
  | cons element rest ih =>
      simp only [textsFrom, Outcome.bind_eq_ok_iff, Outcome.mapError_eq_ok_iff, text_eq_ok_iff, ih,
        List.forall₂_cons_left_iff]
      constructor
      · rintro ⟨first, isText, later, areTexts, same⟩
        exact ⟨first, later, isText, areTexts, (Except.ok.inj same).symm⟩
      · rintro ⟨first, later, isText, areTexts, rfl⟩
        exact ⟨first, isText, later, areTexts, rfl⟩

theorem texts_eq_ok_iff {tree : Tree} {values : List Text} :
    texts tree = .ok values ↔ tree.IsTexts values := by
  constructor
  · intro decoded
    unfold texts at decoded
    split at decoded
    · exact .sequence _ (textsFrom_eq_ok_iff.mp decoded)
    · cases decoded
  · intro isTexts
    cases isTexts with
    | sequence origin each => exact textsFrom_eq_ok_iff.mpr each

theorem formatOfName?_eq_some_iff {name : Text} {format : OutputFormat} :
    formatOfName? name = some format ↔ name = format.name := by
  rw [formatOfName?]
  constructor
  · intro found
    split at found
    · exact Option.some.inj found ▸ ‹_›
    · split at found
      · exact Option.some.inj found ▸ ‹_›
      · cases found
  · rintro rfl
    cases format <;> rfl

theorem format_eq_ok_iff {tree : Tree} {value : OutputFormat} :
    format tree = .ok value ↔ tree.IsFormat value := by
  constructor
  · intro decoded
    unfold format at decoded
    split at decoded
    · split at decoded
      · rename_i found
        rw [Except.ok.inj decoded] at found
        rw [formatOfName?_eq_some_iff.mp found]
        exact .text _ _
      · cases decoded
    · cases decoded
    · split at decoded <;> cases decoded
    · cases decoded
  · intro isFormat
    cases isFormat with
    | text origin =>
        rw [format, formatOfName?_eq_some_iff.mpr rfl]

/-! ## Sections -/

/-- The decoder of a setting's type. -/
def value : (setting : Setting) → Tree → Except DecodeError setting.Value
  | .version | .commentMarker => text
  | .extensions | .exclude => texts
  | .maxFileSize => natural
  | .format => format
  | .trace | .failOnImbalance => boolean

theorem value_eq_ok_iff (setting : Setting) {tree : Tree} {result : setting.Value} :
    value setting tree = .ok result ↔ setting.Holds tree result := by
  cases setting
  case version => exact text_eq_ok_iff
  case commentMarker => exact text_eq_ok_iff
  case extensions => exact texts_eq_ok_iff
  case exclude => exact texts_eq_ok_iff
  case maxFileSize => exact natural_eq_ok_iff
  case format => exact format_eq_ok_iff
  case trace => exact boolean_eq_ok_iff
  case failOnImbalance => exact boolean_eq_ok_iff

theorem eq_of_gives {setting : Setting} {tree? : Option Tree} {left right : setting.Value}
    (givesLeft : setting.Gives tree? left) (givesRight : setting.Gives tree? right) :
    left = right := by
  unfold Setting.Gives at givesLeft givesRight
  cases tree? with
  | none => exact givesLeft.trans givesRight.symm
  | some tree =>
      have isLeft := (value_eq_ok_iff setting).mpr givesLeft
      have isRight := (value_eq_ok_iff setting).mpr givesRight
      exact Except.ok.inj (isLeft.symm.trans isRight)

theorem field_byKey_eq_ok_iff {α : Type} {members : List (Text × Tree)} {key : Text} {place : Nat}
    {decode : Tree → Except DecodeError α} {default result : α} :
    (Section.byKey members).field key place decode default = .ok result ↔
      match members.lookup key with
      | some tree => decode tree = .ok result
      | none => result = default := by
  rw [Section.field]
  cases members.lookup key with
  | none => simpa using eq_comm
  | some tree => simpa using Outcome.mapError_eq_ok_iff

theorem field_eq_ok_iff (setting : Setting) {members : List (Text × Tree)} {place : Nat}
    {result : setting.Value} :
    (Section.byKey members).field setting.key place (value setting)
        (Settings.default.get setting) = .ok result ↔
      setting.Gives (members.lookup setting.key) result := by
  rw [field_byKey_eq_ok_iff]
  unfold Setting.Gives
  cases members.lookup setting.key with
  | none => rfl
  | some tree => exact value_eq_ok_iff setting

/-- A section is decoded from what is found at the keys of its table, and a table without members
is like no table. -/
structure ReadsTable {α : Type} (decode : Tree → Except DecodeError α) (default : α)
    (gives : (Text → Option Tree) → α → Prop) : Prop where
  table : ∀ origin members result, decode (.table origin members) = .ok result ↔
    gives (fun key => members.lookup key) result
  nothing : ∀ result, gives (fun _ => none) result ↔ result = default

/-- Where a layer has a section or not, it is decoded from what the layer has in it. -/
theorem ReadsTable.field_eq_ok_iff {α : Type} {decode : Tree → Except DecodeError α}
    {default : α} {gives : (Text → Option Tree) → α → Prop}
    (reads : ReadsTable decode default gives) {layer : Layer} {name : Text}
    (isTable : ∀ tree, layer.lookup name = some tree → tree.IsTable) (place : Nat) (result : α) :
    (Section.byKey layer).field name place decode default = .ok result ↔
      gives (fun key => layer.inSection? name key) result := by
  rw [field_byKey_eq_ok_iff]
  cases found : layer.lookup name with
  | none => simpa only [Layer.inSection?, found] using (reads.nothing result).symm
  | some tree =>
      cases isTable tree found with
      | table origin members =>
          simpa only [Layer.inSection?, found] using reads.table origin members result

theorem analysis_readsTable :
    ReadsTable Decode.analysis Settings.default.analysis fun found result =>
      Setting.commentMarker.Gives (found "comment_marker") result.commentMarker where
  table := by
    rintro origin members ⟨commentMarker⟩
    change (do
      let commentMarker ← (Section.byKey members).field Setting.commentMarker.key 0
        (value .commentMarker) (Settings.default.get .commentMarker)
      return { commentMarker } : Except DecodeError AnalysisSettings) = _ ↔ _
    simp only [Outcome.bind_eq_ok_iff, Decode.field_eq_ok_iff]
    constructor
    · rintro ⟨_, gives, same⟩
      cases same
      exact gives
    · intro gives
      exact ⟨_, gives, rfl⟩
  nothing := by
    rintro ⟨commentMarker⟩
    rw [AnalysisSettings.mk.injEq]
    rfl

theorem check_readsTable :
    ReadsTable Decode.check Settings.default.check fun found result =>
      Setting.failOnImbalance.Gives (found "fail_on_imbalance") result.failOnImbalance where
  table := by
    rintro origin members ⟨failOnImbalance⟩
    change (do
      let failOnImbalance ← (Section.byKey members).field Setting.failOnImbalance.key 0
        (value .failOnImbalance) (Settings.default.get .failOnImbalance)
      return { failOnImbalance } : Except DecodeError CheckSettings) = _ ↔ _
    simp only [Outcome.bind_eq_ok_iff, Decode.field_eq_ok_iff]
    constructor
    · rintro ⟨_, gives, same⟩
      cases same
      exact gives
    · intro gives
      exact ⟨_, gives, rfl⟩
  nothing := by
    rintro ⟨failOnImbalance⟩
    rw [CheckSettings.mk.injEq]
    rfl

theorem output_readsTable :
    ReadsTable Decode.output Settings.default.output fun found result =>
      Setting.format.Gives (found "format") result.format ∧
        Setting.trace.Gives (found "trace") result.trace where
  table := by
    rintro origin members ⟨format, trace⟩
    change (do
      let format ← (Section.byKey members).field Setting.format.key 0
        (value .format) (Settings.default.get .format)
      let trace ← (Section.byKey members).field Setting.trace.key 1
        (value .trace) (Settings.default.get .trace)
      return { format, trace } : Except DecodeError OutputSettings) = _ ↔ _
    simp only [Outcome.bind_eq_ok_iff, Decode.field_eq_ok_iff]
    constructor
    · rintro ⟨_, formatGives, _, traceGives, same⟩
      cases same
      exact ⟨formatGives, traceGives⟩
    · rintro ⟨formatGives, traceGives⟩
      exact ⟨_, formatGives, _, traceGives, rfl⟩
  nothing := by
    rintro ⟨format, trace⟩
    rw [OutputSettings.mk.injEq]
    rfl

theorem scan_readsTable :
    ReadsTable Decode.scan Settings.default.scan fun found result =>
      Setting.exclude.Gives (found "exclude") result.exclude ∧
        Setting.extensions.Gives (found "extensions") result.extensions ∧
        Setting.maxFileSize.Gives (found "max_file_size") result.maxFileSize where
  table := by
    rintro origin members ⟨extensions, exclude, maxFileSize⟩
    change (do
      let exclude ← (Section.byKey members).field Setting.exclude.key 1
        (value .exclude) (Settings.default.get .exclude)
      let extensions ← (Section.byKey members).field Setting.extensions.key 0
        (value .extensions) (Settings.default.get .extensions)
      let maxFileSize ← (Section.byKey members).field Setting.maxFileSize.key 2
        (value .maxFileSize) (Settings.default.get .maxFileSize)
      return { extensions, exclude, maxFileSize } : Except DecodeError ScanSettings) = _ ↔ _
    simp only [Outcome.bind_eq_ok_iff, Decode.field_eq_ok_iff]
    constructor
    · rintro ⟨_, excludeGives, _, extensionsGives, _, sizeGives, same⟩
      cases same
      exact ⟨excludeGives, extensionsGives, sizeGives⟩
    · rintro ⟨excludeGives, extensionsGives, sizeGives⟩
      exact ⟨_, excludeGives, _, extensionsGives, _, sizeGives, rfl⟩
  nothing := by
    rintro ⟨extensions, exclude, maxFileSize⟩
    rw [ScanSettings.mk.injEq]
    exact and_left_comm

end Decode

namespace Settings

/-- A layer is decoded to settings exactly if it gives all of them. -/
theorem decode_eq_ok_iff {layer : Layer} (sections : layer.SectionsAreTables)
    {settings : Settings} :
    decode layer = .ok settings ↔
      ∀ setting : Setting, setting.Gives (layer.setting? setting) (settings.get setting) := by
  rcases settings with ⟨version, analysis, scan, output, check⟩
  have analysisRead := Decode.analysis_readsTable.field_eq_ok_iff
    (sections .commentMarker "analysis" rfl) 1
  have checkRead := Decode.check_readsTable.field_eq_ok_iff
    (sections .failOnImbalance "check" rfl) 4
  have outputRead := Decode.output_readsTable.field_eq_ok_iff (sections .format "output" rfl) 3
  have scanRead := Decode.scan_readsTable.field_eq_ok_iff (sections .exclude "scan" rfl) 2
  have versionRead : ∀ result, (Decode.Section.byKey layer).field "version" 0 Decode.text
      Settings.default.version = .ok result ↔
        Setting.version.Gives (layer.lookup Setting.version.key) result :=
    fun result => Decode.field_eq_ok_iff .version
  rw [decode, Setting.forall_iff]
  simp only [Outcome.bind_eq_ok_iff, analysisRead, checkRead, outputRead, scanRead, versionRead]
  constructor
  · rintro ⟨_, analysisGives, _, checkGives, _, outputGives, _, scanGives, _, versionGives, same⟩
    cases same
    exact ⟨analysisGives, checkGives, outputGives, scanGives, versionGives⟩
  · rintro ⟨analysisGives, checkGives, outputGives, scanGives, versionGives⟩
    exact ⟨_, analysisGives, _, checkGives, _, outputGives, _, scanGives, _, versionGives, rfl⟩

end Settings

end BraceBalance
