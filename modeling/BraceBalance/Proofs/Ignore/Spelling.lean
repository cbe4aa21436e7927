import BraceBalance.Ignore.Scope
import BraceBalance.Proofs.FileTree.PathSpelling
import BraceBalance.Proofs.Text.Packed

/-!
# Paths as ignore files see them

An ignore file sees a path as it is spelled behind the directory of the file. For the paths of a
walk that are the names below that directory, whatever the spelling of the root, with one exception:
of several single dots at the beginning of a root only one is dropped from a directory, but two are
dropped from a path, so that the directory does not stand at the beginning of its own paths.
-/

namespace BraceBalance

theorem Text.dropBeginning?_append {α : Type} [DecidableEq α] (beginning rest : List α) :
    dropBeginning? (beginning ++ rest) beginning = some rest := by
  simp [dropBeginning?]

theorem Text.prefix_of_head?_splitOn {α : Type} [DecidableEq α] {separator : α}
    {text part : List α} (first : (splitOn separator text).head? = some part) :
    part ++ [separator] <+: text ++ [separator] := by
  induction text generalizing part with
  | nil =>
      cases first
      exact List.prefix_refl _
  | cons char text ih =>
      by_cases same : char = separator
      · rw [same, splitOn_cons_separator] at first
        cases first
        simp [same]
      · cases parts : splitOn separator text with
        | nil => exact absurd parts (splitOn_ne_nil separator text)
        | cons begin later =>
            rw [splitOn_cons_of_ne same parts] at first
            cases first
            simpa using ih (by rw [parts]; rfl)

theorem Path.body_append (before : Packed) {path : Packed} (nonempty : path ≠ []) :
    body (before ++ path) = before ++ body path := by
  have ends : endsWithSlash (before ++ path) = endsWithSlash path := by
    rw [endsWithSlash, endsWithSlash, List.getLast?_append_of_ne_nil _ nonempty]
  rw [body, body, ends]
  split
  · exact List.dropLast_append_of_ne_nil nonempty
  · rfl

namespace Ignore

open Packed (slash dot)

/-- The first part of a path is a single dot. -/
def BeginsHere (path : Packed) : Prop :=
  [dot, slash] <+: path ++ [slash]

/-- The first two parts of a path are single dots. -/
def BeginsHereTwice (path : Packed) : Prop :=
  [dot, slash, dot, slash] <+: path ++ [slash]

instance (path : Packed) : Decidable (BeginsHereTwice path) := by
  unfold BeginsHereTwice
  infer_instance

variable {root path : Packed} {names reached rest : List Packed}

theorem beginsHere_iff :
    BeginsHere path ↔ path = [dot] ∨ ∃ behind, path = [dot, slash] ++ behind := by
  unfold BeginsHere
  rcases path with _ | ⟨first, _ | ⟨second, behind⟩⟩
  · simp
  · simp [@eq_comm _ first]
  · simp [@eq_comm _ first, @eq_comm _ second]

theorem not_beginsHere_join (areParts : ∀ name ∈ names, Path.IsPart name) :
    ¬BeginsHere (Text.join [slash] names) := by
  rw [beginsHere_iff]
  cases names with
  | nil => simp [Text.join]
  | cons name names =>
      have isPart := areParts name List.mem_cons_self
      rcases name with _ | ⟨first, _ | ⟨second, behind⟩⟩
      · exact absurd rfl isPart.notEmpty
      · have notDot : first ≠ dot := fun same => isPart.notDot (same ▸ rfl)
        simp [Text.join, notDot]
      · have notSlash : second ≠ slash := fun slash => isPart.noSlash (by simp [slash])
        simp [Text.join, notSlash]

theorem dropHere_of_not_beginsHere (notHere : ¬BeginsHere path) : dropHere path = path := by
  have notPrefix : [dot, slash].isPrefixOf path = false := by
    rw [Bool.eq_false_iff, ne_eq, List.isPrefixOf_iff_prefix]
    rintro ⟨behind, rfl⟩
    exact notHere (beginsHere_iff.mpr (Or.inr ⟨behind, rfl⟩))
  rw [dropHere, Text.dropBeginning?, notPrefix]
  rfl

theorem isHere_eq_false (notHere : ¬BeginsHere path) : isHere path = false := by
  rw [isHere, decide_eq_false_iff_not]
  intro onlyHere
  apply notHere
  have first : (Text.splitOn slash path).head? = some [dot] := by
    unfold Path.components at onlyHere
    split at onlyHere
    · simp at onlyHere
    split at onlyHere
    · assumption
    · rw [List.nil_append, List.map_eq_cons_iff] at onlyHere
      rcases onlyHere with ⟨name, _, _, isHere, _⟩
      unfold Component.ofName at isHere
      split at isHere <;> contradiction
  exact Text.prefix_of_head?_splitOn first

/-- What stands before the names in the paths below a root, less a single dot. -/
def lead (root : Packed) : Packed :=
  if root = [dot] ∨ root = [dot, slash] then [] else Path.body (dropHere root) ++ [slash]

theorem not_beginsHere_body (notHere : ¬BeginsHere path) (nonempty : path ≠ []) (behind : Packed) :
    ¬BeginsHere (Path.body path ++ slash :: behind) := by
  rw [beginsHere_iff] at notHere ⊢
  rcases Path.eq_body_or path with ⟨_, shape⟩ | ⟨_, shape⟩ <;>
    rcases same : Path.body path with _ | ⟨first, _ | ⟨second, later⟩⟩ <;>
    rw [same] at shape <;> rw [shape] at notHere <;> simp_all

/-- A root is one single dot, or goes on behind one, or begins with none. -/
inductive Spelled : Packed → Prop where
  | dot : Spelled [dot]
  | dotSlash : Spelled [dot, slash]
  | behindDot {behind : Packed} (more : behind ≠ []) : Spelled ([dot, slash] ++ behind)
  | plain {root : Packed} (notHere : ¬BeginsHere root) : Spelled root

theorem spelled (root : Packed) : Spelled root := by
  by_cases begins : BeginsHere root
  · rcases beginsHere_iff.mp begins with rfl | ⟨behind, rfl⟩
    · exact .dot
    · by_cases more : behind = []
      · subst more
        exact .dotSlash
      · exact .behindDot more
  · exact .plain begins

theorem dropHere_append (behind : Packed) : dropHere ([dot, slash] ++ behind) = behind := by
  rw [dropHere, Text.dropBeginning?_append]
  rfl

theorem lead_append {behind : Packed} (more : behind ≠ []) :
    lead ([dot, slash] ++ behind) = Path.body behind ++ [slash] := by
  rw [lead, if_neg (by simp [more]), dropHere_append]

theorem lead_of_not_beginsHere (notHere : ¬BeginsHere root) :
    lead root = Path.body root ++ [slash] := by
  have notDot : ¬(root = [dot] ∨ root = [dot, slash]) := by
    rw [beginsHere_iff] at notHere
    rintro (rfl | rfl)
    · exact notHere (Or.inl rfl)
    · exact notHere (Or.inr ⟨[], rfl⟩)
  rw [lead, if_neg notDot, dropHere_of_not_beginsHere notHere]

theorem dropHere_appendNames (nonempty : root ≠ []) (more : names ≠ [])
    (areParts : ∀ name ∈ names, Path.IsPart name) :
    dropHere (Path.appendNames root names) = lead root ++ Text.join [slash] names := by
  rw [Path.appendNames_eq_body nonempty more areParts]
  cases spelled root with
  | dot => rfl
  | dotSlash => rfl
  | behindDot notEmpty =>
      rw [Path.body_append _ notEmpty, List.append_assoc, dropHere_append, lead_append notEmpty]
      simp
  | plain notHere =>
      rw [dropHere_of_not_beginsHere (not_beginsHere_body notHere nonempty _),
        lead_of_not_beginsHere notHere]
      simp

theorem not_beginsHere_of_twice {behind : Packed}
    (once : ¬BeginsHereTwice ([dot, slash] ++ behind)) :
    ¬BeginsHere behind := by
  intro begins
  apply once
  simpa [BeginsHereTwice, BeginsHere] using begins

theorem not_beginsHere_lead (nonempty : root ≠ []) (once : ¬BeginsHereTwice root)
    (areParts : ∀ name ∈ names, Path.IsPart name) :
    ¬BeginsHere (lead root ++ Text.join [slash] names) := by
  cases spelled root with
  | dot => exact not_beginsHere_join areParts
  | dotSlash => exact not_beginsHere_join areParts
  | behindDot notEmpty =>
      rw [lead_append notEmpty, List.append_assoc]
      exact not_beginsHere_body (not_beginsHere_of_twice once) notEmpty _
  | plain notHere =>
      rw [lead_of_not_beginsHere notHere, List.append_assoc]
      exact not_beginsHere_body notHere nonempty _

/-! ## What a directory sees -/

theorem dropDirectory_append (directory : Packed) (relative : Path.isAbsolute path = false) :
    dropDirectory directory (directory ++ path) = path := by
  have stays : Text.dropBeginning? path [slash] = none := by
    rcases path with _ | ⟨char, path⟩
    · rfl
    · have notSlash : char ≠ slash := by simpa [Path.isAbsolute] using relative
      simp [Text.dropBeginning?, notSlash.symm]
  rw [dropDirectory, Text.dropBeginning?_append]
  simp only [stays, Option.getD_none]

theorem dropDirectory_append_slash (directory path : Packed) :
    dropDirectory directory (directory ++ slash :: path) = path := by
  have behind : Text.dropBeginning? (slash :: path) [slash] = some path :=
    Text.dropBeginning?_append [slash] path
  rw [dropDirectory, Text.dropBeginning?_append]
  simp only [behind, Option.getD_some]

theorem dropDirectory_body (directory : Packed) (relative : Path.isAbsolute path = false) :
    dropDirectory directory (Path.body directory ++ slash :: path) = path := by
  rcases Path.eq_body_or directory with ⟨_, shape⟩ | ⟨_, shape⟩
  · rw [← shape]
    exact dropDirectory_append_slash directory path
  · have split : Path.body directory ++ slash :: path = directory ++ path := by
      conv_rhs => rw [shape]
      simp
    rw [split]
    exact dropDirectory_append directory relative

theorem isAbsolute_join (areParts : ∀ name ∈ names, Path.IsPart name) :
    Path.isAbsolute (Text.join [slash] names) = false := by
  rcases names with _ | ⟨name, names⟩
  · rfl
  · have isPart := areParts name List.mem_cons_self
    rcases name with _ | ⟨char, name⟩
    · exact absurd rfl isPart.notEmpty
    · have notSlash : char ≠ slash := fun slash => isPart.noSlash (by simp [slash])
      simp [Path.isAbsolute, Text.join, notSlash]

/-- A path that does not begin with a dot is seen as it goes on behind the directory. -/
theorem seenFrom_eq {directory : Packed} (directoryNotHere : ¬BeginsHere (dropHere directory))
    (notHere : ¬BeginsHere path) (hasSlash : slash ∈ path) :
    seenFrom directory path = dropDirectory (dropHere directory) path := by
  simp only [seenFrom, dropHere_of_not_beginsHere notHere, isHere_eq_false directoryNotHere]
  rw [if_neg (by simpa using hasSlash)]

/-- A root sees the names below it. -/
theorem seenFrom_root (nonempty : root ≠ []) (once : ¬BeginsHereTwice root)
    (areParts : ∀ name ∈ names, Path.IsPart name) :
    seenFrom root (lead root ++ Text.join [slash] names) = Text.join [slash] names := by
  have notHere := not_beginsHere_lead nonempty once areParts
  have relative := isAbsolute_join areParts
  cases spelled root with
  | dot =>
      have stays : dropHere (Text.join [slash] names) = Text.join [slash] names :=
        dropHere_of_not_beginsHere notHere
      exact stays
  | dotSlash =>
      simp only [seenFrom, dropHere_of_not_beginsHere notHere]
      split
      · rfl
      · exact dropDirectory_append [] relative
  | behindDot notEmpty =>
      have behindNotHere := not_beginsHere_of_twice once
      rw [lead_append notEmpty, List.append_assoc] at notHere ⊢
      rw [seenFrom_eq (by rwa [dropHere_append]) notHere (by simp), dropHere_append]
      exact dropDirectory_body _ relative
  | plain rootNotHere =>
      have stays := dropHere_of_not_beginsHere rootNotHere
      rw [lead_of_not_beginsHere rootNotHere, List.append_assoc] at notHere ⊢
      rw [seenFrom_eq (by rwa [stays]) notHere (by simp), stays]
      exact dropDirectory_body root relative

/-- A directory on the way to an entry sees the names that lead on from there. -/
theorem seenFrom_appendNames (nonempty : root ≠ []) (once : ¬BeginsHereTwice root)
    (more : rest ≠ []) (areParts : ∀ name ∈ reached ++ rest, Path.IsPart name) :
    seenFrom (Path.appendNames root reached) (dropHere (Path.appendNames root (reached ++ rest))) =
      Text.join [slash] rest := by
  rw [dropHere_appendNames nonempty (by simp [more]) areParts]
  by_cases atRoot : reached = []
  · subst atRoot
    exact seenFrom_root nonempty once areParts
  · have reachedParts : ∀ name ∈ reached, Path.IsPart name := fun name nameMem =>
      areParts name (List.mem_append_left rest nameMem)
    have directory := dropHere_appendNames nonempty atRoot reachedParts
    have path : lead root ++ Text.join [slash] (reached ++ rest) =
        lead root ++ Text.join [slash] reached ++ slash :: Text.join [slash] rest := by
      rw [Text.join_append [slash] atRoot more]
      simp
    have notHere := not_beginsHere_lead nonempty once areParts
    have directoryNotHere := not_beginsHere_lead nonempty once reachedParts
    rw [path] at notHere ⊢
    rw [seenFrom_eq (by rwa [directory]) notHere (by simp), directory]
    exact dropDirectory_append_slash _ _

end Ignore

end BraceBalance
