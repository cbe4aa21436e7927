import BraceBalance.Proofs.Glob.DirectoryPattern
import BraceBalance.Proofs.Outcome
import BraceBalance.Proofs.Scan.Collect
import BraceBalance.Proofs.Scan.PathFilter
import BraceBalance.Proofs.Text.Packed

/-!
# What is excluded by default

The built-in patterns exclude what lies below some directories, wherever these are below the root
of a scan. They say nothing of files with such a name, of names that only contain such a name, or
of the root itself.
-/

namespace BraceBalance

namespace Packed

/-- Names in a row are shown one by one. -/
theorem shown_join {names : List Packed} (more : names ≠ []) :
    shown (Text.join [slash] names) = Text.join "/" (names.map shown) := by
  induction names with
  | nil => contradiction
  | cons name names ih =>
      by_cases isLast : names = []
      · subst isLast
        simp [Text.join]
      · have shownMore : names.map shown ≠ [] := by simpa using isLast
        rw [Text.join_cons_of_ne_nil _ _ isLast, List.singleton_append, shown_append_slash,
          ih isLast, List.map_cons, Text.join_cons_of_ne_nil _ _ shownMore]
        rfl

end Packed

namespace ScanSettings

open Packed (slash)

/-- The directories below which nothing is scanned by default. -/
def excludedDirectories : List Text :=
  ["node_modules", "target", "dist", "build", ".git", "vendor"]

theorem defaultExclude_eq : defaultExclude = excludedDirectories.map Glob.directoryPattern := by
  decide

theorem isPlain_of_mem_excludedDirectories :
    ∀ name ∈ excludedDirectories, Glob.IsPlain name ∧ '/' ∉ name ∧ '\uFFFD' ∉ name := by
  simp [excludedDirectories, Glob.IsPlain]

theorem excludePatterns_of_default {scan : ScanSettings}
    (isDefault : scan.exclude = defaultExclude) :
    scan.excludePatterns =
      .ok (excludedDirectories.map fun name => ⟨Glob.directoryTokens name⟩) := by
  rw [excludePatterns, isDefault, defaultExclude_eq, Outcome.mapM_eq_ok_iff,
    List.forall₂_map_left_iff, List.forall₂_map_right_iff, List.forall₂_same]
  intro name nameMem
  rw [Glob.parse_directoryPattern (isPlain_of_mem_excludedDirectories name nameMem).1]
  rfl

/-- One of the names before the last is that of an excluded directory. -/
def PassesExcluded (names : List Packed) : Prop :=
  ∃ name ∈ excludedDirectories, Packed.ofText name ∈ names.dropLast

/-- A name is shown as that of an excluded directory only if it is this name, for a mark for what
is broken stands in none of them. -/
theorem mem_dropLast_shown_iff {name : Text} (nameMem : name ∈ excludedDirectories)
    (names : List Packed) :
    name ∈ (names.map Packed.shown).dropLast ↔ Packed.ofText name ∈ names.dropLast := by
  have unmarked := (isPlain_of_mem_excludedDirectories name nameMem).2.2
  simp [← List.map_dropLast, Packed.shown_eq_iff unmarked]

theorem any_isMatch_iff_passesExcluded {names : List Packed} (more : names ≠ [])
    (noSlashes : ∀ name ∈ names, slash ∉ name) :
    (excludedDirectories.map fun name => Glob.Pattern.mk (Glob.directoryTokens name)).any
      (·.isMatch (Packed.shown (Text.join [slash] names))) ↔ PassesExcluded names := by
  have shownMore : names.map Packed.shown ≠ [] := by simpa using more
  have noShownSlashes : ∀ name ∈ names.map Packed.shown, '/' ∉ name := by
    simp only [List.forall_mem_map]
    exact fun name nameMem => mt Packed.slash_mem_of_mem_shown (noSlashes name nameMem)
  rw [List.any_map, List.any_eq_true, Packed.shown_join more]
  constructor
  · rintro ⟨name, nameMem, isMatch⟩
    have noSlash := (isPlain_of_mem_excludedDirectories name nameMem).2.1
    have onTheWay := (Glob.isMatch_directoryTokens_join noSlash shownMore noShownSlashes).mp isMatch
    exact ⟨name, nameMem, (mem_dropLast_shown_iff nameMem names).mp onTheWay⟩
  · rintro ⟨name, nameMem, onTheWay⟩
    have noSlash := (isPlain_of_mem_excludedDirectories name nameMem).2.1
    have isShown := (mem_dropLast_shown_iff nameMem names).mpr onTheWay
    exact ⟨name, nameMem,
      (Glob.isMatch_directoryTokens_join noSlash shownMore noShownSlashes).mpr isShown⟩

/-- With the built-in patterns a file is excluded exactly if it lies below one of the excluded
directories, and these lie below the root. The scan takes all other files that it wants. -/
theorem excludes_iff_passesExcluded {scan : ScanSettings}
    (isDefault : scan.exclude = defaultExclude) :
    ∃ filter, scan.filter = .ok filter ∧ ∀ names, names ≠ [] →
      (∀ name ∈ names, name ≠ [] ∧ slash ∉ name) →
      (filter.exclude.any (·.isMatch (Packed.shown (Text.join [slash] names))) ↔
        PassesExcluded names) ∧
      (∀ size, filter.accepts names size ↔ ¬PassesExcluded names ∧
        (∃ name extension, names.getLast? = some name ∧
          Path.extension? name = some (Packed.ofText extension) ∧
          extension ∈ scan.extensions) ∧ size ≤ scan.maxFileSize) ∧
      ∀ root, root ≠ [] → (∀ name ∈ names, name ≠ ".") →
        (filter.excludes root (Path.appendNames root names) ↔ PassesExcluded names) := by
  refine ⟨_, by rw [filter, excludePatterns_of_default isDefault]; rfl, ?_⟩
  intro names more named
  have noSlashes : ∀ name ∈ names, slash ∉ name := fun name nameMem => (named name nameMem).2
  have excluded := any_isMatch_iff_passesExcluded more noSlashes
  refine ⟨excluded, ?_, ?_⟩
  · intro size
    have kept : (∀ pattern ∈ excludedDirectories.map fun name => Glob.Pattern.mk
        (Glob.directoryTokens name),
          pattern.isMatch (Packed.shown (Text.join [slash] names)) = false) ↔
            ¬PassesExcluded names := by
      rw [← excluded, List.any_eq_true]
      simp
    rw [Scan.accepts_iff, kept]
  · intro root nonempty noDot
    have areParts : ∀ name ∈ names, Path.IsPart name := by
      intro name nameMem
      exact ⟨(named name nameMem).1, noDot name nameMem, (named name nameMem).2⟩
    rw [ScanFilter.excludes_appendNames _ nonempty more areParts]
    exact excluded

instance (names : List Packed) : Decidable (PassesExcluded names) := by
  unfold PassesExcluded
  infer_instance

/-- A file below a directory of a package, and one with the name of a build directory below one whose
name goes on, both in a root with the name of another such directory. -/
theorem excludes_iff_passesExcluded_nested :
    Settings.default.scan.exclude = defaultExclude ∧
      ∃ filter, Settings.default.scan.filter = .ok filter ∧
        filter.excludes "vendor//" (Path.appendNames "vendor//" ["app", "target", "lib.rs"]) ∧
        ¬filter.excludes "vendor//" (Path.appendNames "vendor//" ["targets", "build"]) ∧
        filter.accepts ["targets", "build.rs"] 9 := by
  have isDefault : Settings.default.scan.exclude = defaultExclude := rfl
  rcases excludes_iff_passesExcluded isDefault with ⟨filter, isFilter, excluded⟩
  refine ⟨isDefault, filter, isFilter, ?_, ?_, ?_⟩
  · have ofPackage := excluded ["app", "target", "lib.rs"] (by decide) (by decide)
    exact (ofPackage.2.2 "vendor//" (by decide) (by decide)).mpr (by decide)
  · have ofBuild := excluded ["targets", "build"] (by decide) (by decide)
    rw [ofBuild.2.2 "vendor//" (by decide) (by decide)]
    decide
  · have ofSource := excluded ["targets", "build.rs"] (by decide) (by decide)
    exact (ofSource.2.1 9).mpr ⟨by decide, ⟨"build.rs", "rs", by decide⟩, by decide⟩

end ScanSettings

end BraceBalance
