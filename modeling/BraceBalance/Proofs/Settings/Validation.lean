import Mathlib
import BraceBalance.Proofs.Outcome
import BraceBalance.Scan

/-!
# Validated settings

Settings are validated last when they are loaded, from whatever layers they come. So loaded
settings have a comment marker without braces, a size that some file has, and exclude patterns
that can be read.

The exclude patterns are read twice: validation reads them in a loop and drops what they are,
and the scan reads them again into a filter. Both stop at the first pattern that cannot be read,
and for the same reason.
-/

namespace BraceBalance

/-- The text can be read as an exclude pattern. -/
def Glob.IsReadable (text : Text) : Prop :=
  ∃ pattern, Pattern.parse text = .ok pattern

namespace ScanSettings

/-- The fault is that of the first exclude pattern that cannot be read. -/
inductive FirstUnreadable (scan : ScanSettings) : SettingsFault → Prop where
  | pattern {before after : List Text} {pattern : Text} {error : Glob.PatternError}
      (splits : scan.exclude = before ++ pattern :: after)
      (readable : ∀ earlier ∈ before, Glob.IsReadable earlier)
      (unreadable : Glob.Pattern.parse pattern = .error error) :
      FirstUnreadable scan (.excludePattern pattern error)

theorem excludePatterns_eq_error_iff {scan : ScanSettings} {fault : SettingsFault} :
    scan.excludePatterns = .error fault ↔ scan.FirstUnreadable fault := by
  rw [excludePatterns]
  constructor
  · intro fails
    rcases Outcome.exists_first_error fails with ⟨before, pattern, after, splits, succeed, isFault⟩
    rcases Outcome.mapError_eq_error_iff.mp isFault with ⟨error, unreadable, rfl⟩
    refine .pattern splits ?_ unreadable
    intro earlier earlierMem
    rcases succeed earlier earlierMem with ⟨compiled, isCompiled⟩
    exact ⟨compiled, Outcome.mapError_eq_ok_iff.mp isCompiled⟩
  · rintro ⟨splits, readable, unreadable⟩
    rw [splits]
    apply Outcome.mapM_eq_error
    · intro earlier earlierMem
      rcases readable earlier earlierMem with ⟨compiled, isCompiled⟩
      exact ⟨compiled, Outcome.mapError_eq_ok_iff.mpr isCompiled⟩
    · exact Outcome.mapError_eq_error_iff.mpr ⟨_, unreadable, rfl⟩

theorem exists_excludePatterns_iff {scan : ScanSettings} :
    (∃ patterns, scan.excludePatterns = .ok patterns) ↔
      ∀ pattern ∈ scan.exclude, Glob.IsReadable pattern := by
  constructor
  · rintro ⟨patterns, areRead⟩ pattern patternMem
    have each := Outcome.mapM_eq_ok_iff.mp areRead
    rcases List.forall₂_iff_get.mp each with ⟨sameLength, eachAt⟩
    rcases List.mem_iff_get.mp patternMem with ⟨index, rfl⟩
    have isRead := eachAt index.1 index.2 (sameLength ▸ index.2)
    exact ⟨_, Outcome.mapError_eq_ok_iff.mp isRead⟩
  · intro readable
    cases areRead : scan.excludePatterns with
    | ok patterns => exact ⟨patterns, rfl⟩
    | error fault =>
        rcases excludePatterns_eq_error_iff.mp areRead with ⟨splits, _, unreadable⟩
        rcases readable _ (splits ▸ List.mem_append_right _ List.mem_cons_self) with ⟨_, isRead⟩
        cases isRead.symm.trans unreadable

theorem filter_eq_error_iff {scan : ScanSettings} {fault : SettingsFault} :
    scan.filter = .error fault ↔ scan.FirstUnreadable fault := by
  rw [← excludePatterns_eq_error_iff, filter]
  cases scan.excludePatterns <;> simp [bind, Except.bind, pure, Except.pure]

theorem exists_filter {scan : ScanSettings}
    (readable : ∀ pattern ∈ scan.exclude, Glob.IsReadable pattern) :
    ∃ filter, scan.filter = .ok filter := by
  rcases exists_excludePatterns_iff.mpr readable with ⟨patterns, areRead⟩
  exact ⟨_, by rw [filter, areRead]; rfl⟩

theorem exists_filter_eq_error_iff {scan : ScanSettings} :
    (∃ fault, scan.filter = .error fault) ↔
      ∃ pattern ∈ scan.exclude, ¬Glob.IsReadable pattern := by
  constructor
  · rintro ⟨fault, noFilter⟩
    by_contra noPattern
    have readable : ∀ pattern ∈ scan.exclude, Glob.IsReadable pattern := by
      intro pattern patternMem
      by_contra unreadable
      exact noPattern ⟨pattern, patternMem, unreadable⟩
    rcases exists_filter readable with ⟨filter, isFilter⟩
    cases isFilter.symm.trans noFilter
  · rintro ⟨pattern, patternMem, unreadable⟩
    cases isFilter : scan.filter with
    | error fault => exact ⟨fault, rfl⟩
    | ok filter =>
        rcases Outcome.bind_eq_ok_iff.mp isFilter with ⟨patterns, areRead, _⟩
        exact absurd (exists_excludePatterns_iff.mp ⟨patterns, areRead⟩ pattern patternMem)
          unreadable

end ScanSettings

/-- Reading the patterns in a loop fails as reading them into a filter does. -/
theorem ScanSettings.checkExclude_eq (scan : ScanSettings) :
    scan.checkExclude = scan.excludePatterns.map fun _ => () := by
  rw [excludePatterns, ← Outcome.forIn_eq_map_mapM]
  unfold checkExclude
  simp

namespace Settings

/-- The settings pass the checks that come before that of the exclude patterns. -/
structure HasMarkerAndSize (settings : Settings) : Prop where
  marker : settings.analysis.commentMarker ≠ []
  noOpenBrace : '{' ∉ settings.analysis.commentMarker
  noCloseBrace : '}' ∉ settings.analysis.commentMarker
  size : 0 < settings.scan.maxFileSize

/-- A check can be made with the settings. -/
structure IsUsable (settings : Settings) : Prop extends settings.HasMarkerAndSize where
  readable : ∀ pattern ∈ settings.scan.exclude, Glob.IsReadable pattern

/-- The settings are loaded in the workspace, from all layers or from a file that is named. -/
inductive Loads (workspace : Workspace) (settings : Settings) : Prop where
  | layers (loaded : load workspace = .ok settings)
  | file (path : Packed) (loaded : loadFile workspace path = .ok settings)

theorem validate_of_hasMarkerAndSize {settings : Settings}
    (checked : settings.HasMarkerAndSize) :
    settings.validate = settings.scan.checkExclude := by
  have marker : settings.analysis.commentMarker.isEmpty = false := by simpa using checked.marker
  have size : settings.scan.maxFileSize ≠ 0 := Nat.ne_of_gt checked.size
  simp [validate, marker, checked.noOpenBrace, checked.noCloseBrace, size]

theorem hasMarkerAndSize_of_validate {settings : Settings} (valid : settings.validate = .ok ()) :
    settings.HasMarkerAndSize := by
  simp only [validate] at valid
  split at valid
  · cases valid
  rename_i marker
  split at valid
  · cases valid
  rename_i braces
  split at valid
  · cases valid
  rename_i size
  simp at marker braces
  exact ⟨marker, braces.1, braces.2, Nat.pos_of_ne_zero size⟩

theorem validate_eq_ok_iff {settings : Settings} :
    settings.validate = .ok () ↔ settings.IsUsable := by
  constructor
  · intro valid
    have checked := hasMarkerAndSize_of_validate valid
    refine ⟨checked, ?_⟩
    rw [validate_of_hasMarkerAndSize checked, ScanSettings.checkExclude_eq] at valid
    apply ScanSettings.exists_excludePatterns_iff.mp
    cases areRead : settings.scan.excludePatterns with
    | ok patterns => exact ⟨patterns, rfl⟩
    | error fault =>
        rw [areRead] at valid
        cases valid
  · intro usable
    rcases ScanSettings.exists_excludePatterns_iff.mpr usable.readable with ⟨patterns, areRead⟩
    rw [validate_of_hasMarkerAndSize usable.toHasMarkerAndSize, ScanSettings.checkExclude_eq,
      areRead]
    rfl

theorem validate_eq_error_iff {settings : Settings} (checked : settings.HasMarkerAndSize)
    {fault : SettingsFault} :
    settings.validate = .error fault ↔ settings.scan.FirstUnreadable fault := by
  rw [validate_of_hasMarkerAndSize checked, ScanSettings.checkExclude_eq,
    ← ScanSettings.excludePatterns_eq_error_iff]
  cases settings.scan.excludePatterns <;> simp [Except.map]

theorem validate_of_ofLayers {layers : List Layer} {settings : Settings}
    (loaded : ofLayers layers = .ok settings) : settings.validate = .ok () := by
  simp only [ofLayers, Outcome.bind_eq_ok_iff, Outcome.mapError_eq_ok_iff] at loaded
  rcases loaded with ⟨decoded, _, checked, valid, same⟩
  cases same
  exact valid

/-- Whatever is loaded comes from layers that are files or the variables. -/
theorem Loads.exists_ofLayers {workspace : Workspace} {settings : Settings}
    (loads : Loads workspace settings) :
    ∃ paths files layers, workspace.fileLayers paths = .ok files ∧
      (∀ layer ∈ layers, layer ∈ files ∨
        EnvironmentLayer.ofVariables? workspace.environment = some layer) ∧
      ofLayers layers = .ok settings := by
  cases loads with
  | layers loaded =>
      unfold load at loaded
      split at loaded
      · cases loaded
      · rename_i environment isEnvironment
        rcases Outcome.bind_eq_ok_iff.mp loaded with ⟨files, areFiles, fromLayers⟩
        refine ⟨_, files, _, areFiles, ?_, fromLayers⟩
        intro layer layerMem
        rcases List.mem_append.mp layerMem with file | isSet
        · exact .inl file
        · exact .inr (List.mem_singleton.mp isSet ▸ isEnvironment)
  | file path loaded =>
      unfold loadFile at loaded
      dsimp only at loaded
      split at loaded
      · rcases Outcome.bind_eq_ok_iff.mp loaded with ⟨files, areFiles, fromLayers⟩
        exact ⟨_, files, files, areFiles, fun layer layerMem => .inl layerMem, fromLayers⟩
      · cases loaded

theorem Loads.isUsable {workspace : Workspace} {settings : Settings}
    (loads : Loads workspace settings) : settings.IsUsable := by
  rcases loads.exists_ofLayers with ⟨_, _, layers, _, _, fromLayers⟩
  exact validate_eq_ok_iff.mp (validate_of_ofLayers fromLayers)

/-- The built-in settings are loaded where no file and no variable holds others. -/
theorem load_of_no_layers {workspace : Workspace} (noFiles : workspace.settingsFiles = [])
    (noVariables : EnvironmentLayer.ofVariables? workspace.environment = some []) :
    load workspace = .ok default := by
  have builtIn : ofLayers [[]] = .ok default := by cbv
  rw [load, noVariables, noFiles]
  exact builtIn

end Settings

end BraceBalance
