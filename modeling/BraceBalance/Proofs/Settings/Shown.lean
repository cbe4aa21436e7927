import Mathlib
import BraceBalance.Command.Run
import BraceBalance.Proofs.Check.LoadedSettings
import BraceBalance.Proofs.Settings.Sources
import BraceBalance.Proofs.Toml.Integers

/-!
# Loaded settings can be shown

The writers take every text, but they take integers of 64 bits only. The one integer among the
settings is the size of files. It may come from a file, whose integers have 63 bits and a sign,
or from a variable, whose natural numbers have 64 bits, and it may be the built-in one. No layer
holds a number that is too large (`Tree.Fits`), laying layers over each other makes no new
numbers, and decoding changes none. So whatever is loaded can be written, in both formats.
-/

namespace BraceBalance

/-- A number with 64 bits, or no integer at all. -/
def Scalar.Fits : Scalar → Prop
  | unsigned value => Text.fitsUnsigned value
  | signed value => Text.fitsSigned value
  | text _ | character _ | boolean _ | float _ => True

/-- The integers in the value have 64 bits. -/
inductive Tree.Fits : Tree → Prop where
  | scalar (origin : Origin) {value : Scalar} (fits : value.Fits) : Fits (.scalar origin value)
  | sequence (origin : Origin) {elements : List Tree} (each : ∀ element ∈ elements, Fits element) :
      Fits (.sequence origin elements)
  | table (origin : Origin) {members : List (Text × Tree)}
      (each : ∀ member ∈ members, Fits member.2) : Fits (.table origin members)

/-! ## Layers -/

namespace Layer

def Fits (layer : Layer) : Prop :=
  ∀ member ∈ layer, member.2.Fits

theorem Fits.of_lookup {layer : Layer} (fits : layer.Fits) {key : Text} {value : Tree}
    (found : layer.lookup key = some value) : value.Fits := by
  rcases List.lookup_eq_some_iff.mp found with ⟨before, after, rfl, _⟩
  exact fits (key, value) (by simp)

theorem Fits.insert {layer : Layer} (fits : layer.Fits) (key : Text) {value : Tree}
    (valueFits : value.Fits) : (layer.insert key value).Fits := by
  intro member memberMem
  rcases mem_of_mem_insert memberMem with rfl | old
  · exact valueFits
  · exact fits member old

theorem fits_ofList {members : List (Text × Tree)} (each : ∀ member ∈ members, member.2.Fits) :
    (ofList members).Fits := by
  suffices fromAny : ∀ layer : Layer, layer.Fits →
      Fits (members.foldl (fun layer member => layer.insert member.1 member.2) layer) from
    fromAny [] (by simp [Fits])
  induction members with
  | nil => exact fun layer fits => fits
  | cons member members ih =>
      intro layer fits
      refine ih (fun later laterMem => each later (List.mem_cons_of_mem _ laterMem)) _ ?_
      exact fits.insert member.1 (each member List.mem_cons_self)

theorem Fits.overlayMembers {members : List (Text × Tree)}
    (each : ∀ member ∈ members, member.2.Fits)
    (overlaid : ∀ member ∈ members, ∀ lower : Tree, lower.Fits → (lower.overlay member.2).Fits)
    {lower : Layer} (lowerFits : lower.Fits) : Fits (Tree.overlayMembers lower members) := by
  induction members generalizing lower with
  | nil => simpa [Tree.overlayMembers] using lowerFits
  | cons member rest ih =>
      rw [Tree.overlayMembers]
      apply ih (fun later laterMem => each later (List.mem_cons_of_mem _ laterMem))
        (fun later laterMem => overlaid later (List.mem_cons_of_mem _ laterMem))
      apply lowerFits.insert
      cases found : lower.lookup member.1 with
      | none => exact each member List.mem_cons_self
      | some below => exact overlaid member List.mem_cons_self below (lowerFits.of_lookup found)

end Layer

theorem Tree.Fits.overlay {upper : Tree} (upperFits : upper.Fits) {lower : Tree}
    (lowerFits : lower.Fits) : (lower.overlay upper).Fits := by
  induction upperFits generalizing lower with
  | scalar origin fits => simpa [Tree.overlay] using Fits.scalar origin fits
  | sequence origin each => simpa [Tree.overlay] using Fits.sequence origin each
  | @table origin members each ih =>
      have overlaid : ∀ member ∈ members, ∀ below : Tree, below.Fits →
          (below.overlay member.2).Fits :=
        fun member memberMem below belowFits => ih member memberMem belowFits
      cases lowerFits with
      | scalar lowerOrigin fits => exact .table origin each
      | sequence lowerOrigin lowerEach => exact .table origin each
      | table lowerOrigin lowerEach =>
          have merged := Layer.Fits.overlayMembers each overlaid lowerEach
          simpa [Tree.overlay] using Fits.table origin merged

theorem Layer.fits_stack {layers : List Layer} (each : ∀ layer ∈ layers, layer.Fits) :
    (stack layers).Fits := by
  induction layers using List.reverseRecOn with
  | nil => simp [stack, Fits]
  | append_singleton layers layer ih =>
      rw [stack_append_singleton]
      have lower := ih fun lower lowerMem => each lower (List.mem_append_left _ lowerMem)
      have upper := each layer (by simp)
      refine lower.overlayMembers upper ?_
      intro member memberMem below belowFits
      exact (upper member memberMem).overlay belowFits

/-! ## Files -/

namespace Tree

theorem fits_ofMembers? {origin : Origin} {members : Layer} {tree : Tree}
    (fits : members.Fits) (isTree : ofMembers? origin members = some tree) : tree.Fits := by
  rw [ofMembers?] at isTree
  split at isTree
  · contradiction
  · rw [Option.some.injEq] at isTree
    subst isTree
    cases content : members.lookup contentKey with
    | none => exact .table origin fits
    | some value => exact fits.of_lookup content

mutual

theorem fits_ofToml? {origin : Origin} : (value : Toml.Value) → value.Fits → {tree : Tree} →
    ofToml? origin value = some tree → tree.Fits
  | .string _, _, _, isTree | .float _, _, _, isTree | .boolean _, _, _, isTree => by
      rw [ofToml?, Option.some.injEq] at isTree
      subst isTree
      exact .scalar origin trivial
  | .integer _, .integer fits, _, isTree => by
      rw [ofToml?, Option.some.injEq] at isTree
      subst isTree
      exact .scalar origin fits
  | .datetime _, _, _, isTree => by
      rw [ofToml?, Option.some.injEq] at isTree
      subst isTree
      refine .table origin ?_
      intro member memberMem
      rw [List.mem_singleton.mp memberMem]
      exact .scalar origin trivial
  | .array elements, .array each, _, isTree => by
      rw [ofToml?, Option.map_eq_some_iff] at isTree
      rcases isTree with ⟨trees, areTrees, rfl⟩
      exact .sequence origin (fits_elementsOfToml? elements each areTrees)
  | .table members, .table each, _, isTree => by
      rw [ofToml?, Option.bind_eq_bind, Option.bind_eq_some_iff] at isTree
      rcases isTree with ⟨trees, areTrees, isTree⟩
      exact fits_ofMembers? (Layer.fits_ofList (fits_membersOfToml? members each areTrees)) isTree

theorem fits_elementsOfToml? {origin : Origin} : (elements : List Toml.Value) →
    (∀ element ∈ elements, element.Fits) → {trees : List Tree} →
    elementsOfToml? origin elements = some trees → ∀ tree ∈ trees, tree.Fits
  | [], _, _, areTrees => by
      rw [elementsOfToml?, Option.some.injEq] at areTrees
      subst areTrees
      simp
  | element :: rest, each, _, areTrees => by
      simp only [elementsOfToml?, Option.bind_eq_bind, Option.bind_eq_some_iff, Option.pure_def,
        Option.some.injEq] at areTrees
      rcases areTrees with ⟨tree, isTree, trees, areTrees, rfl⟩
      intro other otherMem
      rcases List.mem_cons.mp otherMem with rfl | restMem
      · exact fits_ofToml? element (each element List.mem_cons_self) isTree
      · exact fits_elementsOfToml? rest
          (fun later laterMem => each later (List.mem_cons_of_mem _ laterMem)) areTrees other restMem

theorem fits_membersOfToml? {origin : Origin} : (members : List (Text × Toml.Value)) →
    (∀ member ∈ members, member.2.Fits) → {trees : List (Text × Tree)} →
    membersOfToml? origin members = some trees → ∀ member ∈ trees, member.2.Fits
  | [], _, _, areTrees => by
      rw [membersOfToml?, Option.some.injEq] at areTrees
      subst areTrees
      simp
  | (key, value) :: rest, each, _, areTrees => by
      simp only [membersOfToml?, Option.bind_eq_bind, Option.bind_eq_some_iff, Option.pure_def,
        Option.some.injEq] at areTrees
      rcases areTrees with ⟨tree, isTree, trees, areTrees, rfl⟩
      intro member memberMem
      rcases List.mem_cons.mp memberMem with rfl | restMem
      · exact fits_ofToml? value (each (key, value) List.mem_cons_self) isTree
      · exact fits_membersOfToml? rest
          (fun later laterMem => each later (List.mem_cons_of_mem _ laterMem)) areTrees member restMem

end

end Tree

namespace Workspace

theorem fits_of_fileLayer {workspace : Workspace} {path : Packed} {layer : Layer}
    (isLayer : workspace.fileLayer path = .ok layer) : layer.Fits := by
  unfold fileLayer at isLayer
  split at isLayer
  · cases isLayer
    simp [Layer.Fits]
  · dsimp only at isLayer
    split at isLayer
    · cases isLayer
    · split at isLayer
      · cases isLayer
      · rename_i found
        cases isLayer
        rcases Option.bind_eq_some_iff.mp found with ⟨members, isToml, found⟩
        rcases Option.map_eq_some_iff.mp found with ⟨trees, areTrees, rfl⟩
        exact Layer.fits_ofList
          (Tree.fits_membersOfToml? members (Toml.fits_of_parse? isToml) areTrees)

theorem fits_of_fileLayers {workspace : Workspace} {paths : List Packed} {layers : List Layer}
    (areLayers : workspace.fileLayers paths = .ok layers) : ∀ layer ∈ layers, layer.Fits := by
  unfold fileLayers at areLayers
  dsimp only at areLayers
  split at areLayers
  · cases areLayers
    intro layer layerMem
    rcases List.mem_filterMap.mp layerMem with ⟨read, readMem, isLayer⟩
    rcases List.mem_map.mp readMem with ⟨path, _, rfl⟩
    cases read : workspace.fileLayer path with
    | error fault =>
        rw [read] at isLayer
        cases isLayer
    | ok found =>
        rw [read] at isLayer
        cases isLayer
        exact fits_of_fileLayer read
  · cases areLayers

end Workspace

/-! ## Variables -/

namespace EnvironmentValue

theorem fitsUnsigned_of_unsigned? {text : Text} {value : Nat}
    (isUnsigned : unsigned? text = some value) : Text.fitsUnsigned value := by
  unfold unsigned? at isUnsigned
  split at isUnsigned
  · cases isUnsigned
  · exact (Option.filter_eq_some_iff.mp isUnsigned).2

theorem fitsSigned_of_signed? {text : Text} {value : Int} (isSigned : signed? text = some value) :
    Text.fitsSigned value := by
  rcases Option.bind_eq_some_iff.mp isSigned with ⟨magnitude, _, isSigned⟩
  dsimp only at isSigned
  rw [Option.ite_none_right_eq_some] at isSigned
  rcases isSigned with ⟨fits, same⟩
  exact Option.some.inj same ▸ fits

theorem fits_bare (text : Text) : (bare text).Fits := by
  unfold bare
  split
  · trivial
  · exact fitsUnsigned_of_unsigned? ‹_›
  · exact fitsSigned_of_signed? ‹_›
  · trivial

theorem isHereditary_fits : IsHereditary Tree.Fits where
  boolean _ := .scalar _ trivial
  text _ := .scalar _ trivial
  character _ := .scalar _ trivial
  bare text := .scalar _ (fits_bare text)
  sequence _ each := .sequence _ each
  table _ each := .table _ (Layer.fits_ofList each)

end EnvironmentValue

namespace EnvironmentLayer

theorem fits_single {value : Tree} (fits : value.Fits) (path : List Text) :
    (single value path).Fits := by
  induction path with
  | nil => simp [single, Layer.Fits]
  | cons name rest ih =>
      cases rest with
      | nil => simpa [single, Layer.Fits] using fits
      | cons next rest => simpa [single, Layer.Fits] using Tree.Fits.table .environment ih

theorem fits_of_ofVariable? {name value : Text} {layer : Layer}
    (isLayer : ofVariable? name value = some layer) : layer.Fits := by
  rw [ofVariable?] at isLayer
  split at isLayer
  · cases isLayer
    simp [Layer.Fits]
  · rename_i path _
    rw [Option.map_eq_some_iff] at isLayer
    rcases isLayer with ⟨tree, isTree, rfl⟩
    exact fits_single (EnvironmentValue.of_parse? EnvironmentValue.isHereditary_fits isTree) path

theorem fits_of_ofVariables? {bindings : List (Text × Text)} {layer : Layer}
    (isLayer : ofVariables? bindings = some layer) : layer.Fits := by
  rw [ofVariables?, Option.map_eq_some_iff] at isLayer
  rcases isLayer with ⟨layers, areLayers, rfl⟩
  apply Layer.fits_stack
  induction bindings generalizing layers with
  | nil =>
      cases areLayers
      simp
  | cons binding bindings ih =>
      rw [List.mapM_cons] at areLayers
      rcases Option.bind_eq_some_iff.mp areLayers with ⟨first, isFirst, areLayers⟩
      rcases Option.bind_eq_some_iff.mp areLayers with ⟨later, areLater, same⟩
      cases same
      exact List.forall_mem_cons.mpr ⟨fits_of_ofVariable? isFirst, ih later areLater⟩

end EnvironmentLayer

/-! ## Decoding -/

namespace Decode

theorem fitsUnsigned_of_natural {tree : Tree} (fits : tree.Fits) {number : Nat}
    (decoded : natural tree = .ok number) : Text.fitsUnsigned number := by
  unfold natural at decoded
  split at decoded
  · cases fits with
    | scalar origin fits =>
        cases decoded
        exact fits
  · cases fits with
    | scalar origin fits =>
        cases decoded
        simp only [Scalar.Fits, Text.fitsSigned, Bool.and_eq_true, decide_eq_true_eq] at fits
        have upper := fits.2
        have le_max : number ≤ Text.maxUnsigned := by
          simp only [Text.maxSigned, Text.maxUnsigned, Int.ofNat_eq_natCast] at upper ⊢
          omega
        simpa [Text.fitsUnsigned] using le_max
  · cases decoded
  · cases decoded

/-- The numbers of a section fit, wherever they stand. -/
def Section.Fits : Section → Prop
  | byKey members => ∀ member ∈ members, member.2.Fits
  | byPlace elements => ∀ element ∈ elements, element.Fits

theorem fits_sectionOf {expected : Text} {tree : Tree} (fits : tree.Fits) {content : Section}
    (isSection : sectionOf expected tree = .ok content) : content.Fits := by
  unfold sectionOf at isSection
  split at isSection
  · cases isSection
    cases fits with
    | table origin each => exact each
  · cases isSection
    cases fits with
    | sequence origin each => exact each
  · cases isSection

theorem Section.Fits.field {α : Type} {content : Section} (fits : content.Fits)
    (property : α → Prop) {key : Text} {place : Nat} {decode : Tree → Except DecodeError α}
    (decodes : ∀ tree value, tree.Fits → decode tree = .ok value → property value)
    {default result : α} (defaultHolds : property default)
    (found : content.field key place decode default = .ok result) : property result := by
  unfold Section.field at found
  split at found
  · rename_i members
    split at found
    · rename_i tree isTree
      exact decodes tree result (Layer.Fits.of_lookup fits isTree)
        (Outcome.mapError_eq_ok_iff.mp found)
    · cases found
      exact defaultHolds
  · split at found
    · rename_i elements tree isTree
      exact decodes tree result (fits tree (List.mem_of_getElem? isTree))
        (Outcome.mapError_eq_ok_iff.mp found)
    · cases found
      exact defaultHolds

theorem fitsUnsigned_of_scan {tree : Tree} (fits : tree.Fits) {scan : ScanSettings}
    (decoded : Decode.scan tree = .ok scan) : Text.fitsUnsigned scan.maxFileSize := by
  rcases Outcome.bind_eq_ok_iff.mp decoded with ⟨content, isSection, decoded⟩
  have contentFits := fits_sectionOf fits isSection
  dsimp only at decoded
  split at decoded
  all_goals
    simp only [Outcome.bind_eq_ok_iff] at decoded
    rcases decoded with ⟨_, _, _, _, size, isSize, same⟩
    cases same
    exact contentFits.field (fun size => Text.fitsUnsigned size)
      (fun tree number fits => fitsUnsigned_of_natural fits) rfl isSize

end Decode

namespace Settings

theorem fitsUnsigned_of_decode {layer : Layer} (fits : layer.Fits) {settings : Settings}
    (decoded : decode layer = .ok settings) : Text.fitsUnsigned settings.scan.maxFileSize := by
  simp only [decode, Outcome.bind_eq_ok_iff] at decoded
  rcases decoded with ⟨_, _, _, _, _, _, scan, isScan, _, _, same⟩
  cases same
  have contentFits : (Decode.Section.byKey layer).Fits := fits
  exact contentFits.field (fun scan => Text.fitsUnsigned scan.maxFileSize)
    (fun tree scan fits => Decode.fitsUnsigned_of_scan fits) rfl isScan

theorem fitsUnsigned_of_ofLayers {layers : List Layer} (fit : ∀ layer ∈ layers, layer.Fits)
    {settings : Settings} (loaded : ofLayers layers = .ok settings) :
    Text.fitsUnsigned settings.scan.maxFileSize := by
  simp only [ofLayers, Outcome.bind_eq_ok_iff, Outcome.mapError_eq_ok_iff] at loaded
  rcases loaded with ⟨decoded, isDecoded, _, _, same⟩
  cases same
  exact fitsUnsigned_of_decode (Layer.fits_stack fit) isDecoded

theorem Loads.fitsUnsigned {workspace : Workspace} {settings : Settings}
    (loads : Loads workspace settings) : Text.fitsUnsigned settings.scan.maxFileSize := by
  rcases loads.exists_ofLayers with ⟨paths, files, layers, areFiles, each, fromLayers⟩
  refine fitsUnsigned_of_ofLayers ?_ fromLayers
  intro layer layerMem
  rcases each layer layerMem with file | isSet
  · exact Workspace.fits_of_fileLayers areFiles layer file
  · exact EnvironmentLayer.fits_of_ofVariables? isSet

/-! ## Writing -/

/-- The TOML writer refuses settings for the size of files only. -/
theorem renderToml?_eq (settings : Settings) :
    settings.renderToml? =
      if Text.fitsUnsigned settings.scan.maxFileSize then some settings.renderToml else none := by
  rw [renderToml?, Toml.renderDocument?]
  simp [tomlEntries, tomlTables, Toml.Scalar.isWritable]
  rfl

theorem areWritable_strings (texts : List Text) : Json.areWritable (texts.map .string) := by
  induction texts with
  | nil => rfl
  | cons text texts ih => simpa [Json.areWritable, Json.isWritable] using ih

/-- The JSON writer refuses settings for the size of files only. -/
theorem renderJson?_eq (settings : Settings) :
    settings.renderJson? =
      if Text.fitsUnsigned settings.scan.maxFileSize then some settings.renderJson else none := by
  have notBelow : Text.minSigned ≤ settings.scan.maxFileSize :=
    Int.le_trans (by decide) (Int.natCast_nonneg _)
  have writable : settings.toJson.isWritable = Text.fitsUnsigned settings.scan.maxFileSize := by
    simp [toJson, Json.isWritable, Json.membersAreWritable, areWritable_strings, notBelow,
      Text.fitsUnsigned]
  rw [renderJson?, Json.render?, writable]
  rfl

end Settings

namespace Command

/-- Loaded settings are shown in both formats: the numbers of all layers that they may come from
are numbers that the writers take. -/
theorem showSettings_of_loads {workspace : Workspace} {settings : Settings}
    (loads : Settings.Loads workspace settings) :
    settings.renderToml? = some settings.renderToml ∧
      settings.renderJson? = some settings.renderJson ∧
      ∀ format, showSettings settings format = .ok (renderSettings settings format) ∧
        ∀ place colors invocation, invocation.action = .showSettings format →
          settingsOf place invocation = .ok settings →
          (perform place colors invocation).1.onConsole =
              (.ok 0, renderSettings settings format) ∧
            (perform place colors invocation).2 = place := by
  have fits := loads.fitsUnsigned
  have toml : settings.renderToml? = some settings.renderToml := by
    rw [Settings.renderToml?_eq, if_pos fits]
  have json : settings.renderJson? = some settings.renderJson := by
    rw [Settings.renderJson?_eq, if_pos fits]
  refine ⟨toml, json, ?_⟩
  intro format
  have shown : showSettings settings format = .ok (renderSettings settings format) := by
    rw [showSettings, renderSettings, toml, json]
    by_cases isJson : format = "json"
    · rw [if_pos isJson, if_pos isJson]
    · rw [if_neg isJson, if_neg isJson]
  refine ⟨shown, ?_⟩
  intro place colors invocation shows isSettings
  rw [perform, shows]
  refine ⟨?_, rfl⟩
  rw [Printing.onConsole_orStop_ok_bind isSettings, Printing.onConsole_orStop_ok_bind shown]
  rfl

/-- A workspace with a variable that allows files of every size. -/
def unlimited : Workspace where
  tree := .empty
  directory := []
  environment := [("BRACECHECK_SCAN__MAX_FILE_SIZE", "18446744073709551615")]

/-- The settings that are loaded there. -/
def unlimitedSettings : Settings :=
  { Settings.default with
    scan := { Settings.default.scan with maxFileSize := Text.maxUnsigned } }

/-- The greatest number of 64 bits is shown, though a settings file could not hold it. -/
theorem showSettings_of_loads_unlimited :
    Settings.Loads unlimited unlimitedSettings ∧
      unlimitedSettings.renderToml? = some unlimitedSettings.renderToml ∧
      showSettings unlimitedSettings "json" = .ok (renderSettings unlimitedSettings "json") := by
  have loads : Settings.Loads unlimited unlimitedSettings := .layers (by cbv)
  rcases showSettings_of_loads loads with ⟨toml, json, shown⟩
  exact ⟨loads, toml, (shown "json").1⟩

end Command

end BraceBalance
