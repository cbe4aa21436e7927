import BraceBalance.FileTree.Path
import BraceBalance.Proofs.Text.Parts

/-!
# Names behind a path

A path goes on with names in the same way however it is spelled itself: behind what is spelled so far,
less a slash at its end, the names stand with a slash before each. What is read off the longer path,
its parts, components and steps, is therefore what is read off the shorter one and then the names.

`behind?` goes the other way. It takes a path off the front of another by their components, and of
what is left it keeps the spelling between the first and the last name.
-/

namespace BraceBalance

namespace Component

theorem ofName_injective : Function.Injective ofName := by
  intro name other same
  unfold ofName at same
  split at same <;> split at same <;> simp_all

theorem ofName_ne_here (name : Packed) : ofName name ≠ here := by
  unfold ofName
  split <;> simp

theorem ofName_eq_parent_iff {name : Packed} : ofName name = parent ↔ name = ".." := by
  unfold ofName
  split <;> simp_all

end Component

namespace Path

open Packed (slash)

/-- A part of a path that counts. -/
structure IsPart (name : Packed) : Prop where
  notEmpty : name ≠ []
  notDot : name ≠ "."
  noSlash : slash ∉ name

/-- The path without one slash at its end. -/
def body (path : Packed) : Packed :=
  if endsWithSlash path then path.dropLast else path

theorem eq_body_or (path : Packed) :
    (endsWithSlash path = false ∧ path = body path) ∨
      (endsWithSlash path = true ∧ path = body path ++ [slash]) := by
  unfold body
  cases ends : endsWithSlash path with
  | false => simp
  | true =>
      right
      unfold endsWithSlash at ends
      have last : path.getLast? = some slash := by simpa using ends
      rcases List.getLast?_eq_some_iff.mp last with ⟨before, rfl⟩
      simp

variable {path : Packed} {names : List Packed}

theorem append_eq_body {name : Packed} (nonempty : path ≠ []) (isPart : IsPart name) :
    append path name = body path ++ slash :: name := by
  have relative : isAbsolute name = false := by
    unfold isAbsolute
    simp only [decide_eq_false_iff_not]
    intro slash
    exact isPart.noSlash (List.mem_of_head? slash)
  have notEmpty : path.isEmpty = false := by simpa using nonempty
  rcases eq_body_or path with ⟨ends, shape⟩ | ⟨ends, shape⟩
  · simp [append, relative, notEmpty, ends, ← shape]
  · simp only [append, relative, notEmpty, ends, Bool.or_self, Bool.false_eq_true, if_false, if_true]
    conv_lhs => rw [shape]
    simp

theorem endsWithSlash_body_append {name : Packed} (isPart : IsPart name) (before : Packed) :
    endsWithSlash (before ++ slash :: name) = false := by
  unfold endsWithSlash
  simp only [decide_eq_false_iff_not]
  intro slash
  rcases name with _ | ⟨char, name⟩
  · exact isPart.notEmpty rfl
  · rw [List.getLast?_append_cons, List.getLast?_cons_cons] at slash
    exact isPart.noSlash (List.mem_of_getLast? slash)

theorem appendNames_eq_body (nonempty : path ≠ []) (more : names ≠ [])
    (areParts : ∀ name ∈ names, IsPart name) :
    appendNames path names = body path ++ slash :: Text.join [slash] names := by
  induction names generalizing path with
  | nil => contradiction
  | cons name names ih =>
      have isPart := areParts name List.mem_cons_self
      have appended := append_eq_body nonempty isPart
      have step : appendNames path (name :: names) = appendNames (append path name) names := rfl
      by_cases isLast : names = []
      · subst isLast
        simpa [step, appendNames, Text.join] using appended
      · have notEmpty : append path name ≠ [] := by simp [appended]
        have ends : body (append path name) = append path name := by
          rw [body, appended, endsWithSlash_body_append isPart]
          rfl
        have later := ih notEmpty isLast fun other otherMem =>
          areParts other (List.mem_cons_of_mem name otherMem)
        rw [step, later, ends, appended, Text.join_cons_of_ne_nil _ _ isLast]
        simp

theorem splitOn_appendNames (nonempty : path ≠ []) (more : names ≠ [])
    (areParts : ∀ name ∈ names, IsPart name) :
    Text.splitOn slash (appendNames path names) = Text.splitOn slash (body path) ++ names := by
  have joined : Text.splitOn slash (Text.join [slash] names) = names :=
    Text.splitOn_join more fun name nameMem => (areParts name nameMem).noSlash
  rw [appendNames_eq_body nonempty more areParts, Text.splitOn_append_cons, joined]

theorem splitOn_eq_body (path : Packed) :
    Text.splitOn slash path =
      Text.splitOn slash (body path) ++ if endsWithSlash path then [[]] else [] := by
  rcases eq_body_or path with ⟨ends, shape⟩ | ⟨ends, shape⟩
  · simp [ends, ← shape]
  · rw [ends, if_pos rfl]
    conv_lhs => rw [shape]
    exact Text.splitOn_append_cons slash (body path) []

/-! ## Components and steps -/

theorem names_eq_body (path : Packed) : Path.names path = Path.names (body path) := by
  rw [Path.names, Path.names, splitOn_eq_body path]
  cases endsWithSlash path <;> simp

theorem names_appendNames (nonempty : path ≠ []) (areParts : ∀ name ∈ names, IsPart name) :
    Path.names (appendNames path names) = Path.names path ++ names := by
  by_cases more : names = []
  · simp [more, appendNames]
  · have kept : names.filter (fun part => part ≠ [] ∧ part ≠ ".") = names := by
      rw [List.filter_eq_self]
      intro name nameMem
      have isPart := areParts name nameMem
      simpa using ⟨isPart.notEmpty, isPart.notDot⟩
    rw [names_eq_body path, Path.names, splitOn_appendNames nonempty more areParts,
      List.filter_append, kept]
    rfl

theorem isAbsolute_appendNames (nonempty : path ≠ []) (areParts : ∀ name ∈ names, IsPart name) :
    isAbsolute (appendNames path names) = isAbsolute path := by
  by_cases more : names = []
  · simp [more, appendNames]
  · rw [appendNames_eq_body nonempty more areParts]
    rcases eq_body_or path with ⟨_, shape⟩ | ⟨_, shape⟩
    · conv_rhs => rw [shape]
      have notEmpty : body path ≠ [] := shape ▸ nonempty
      rw [isAbsolute, isAbsolute, List.head?_append_of_ne_nil _ notEmpty]
    · conv_rhs => rw [shape]
      simp [isAbsolute, List.head?_append]

theorem components_appendNames (nonempty : path ≠ []) (areParts : ∀ name ∈ names, IsPart name) :
    components (appendNames path names) = components path ++ names.map Component.ofName := by
  by_cases more : names = []
  · simp [more, appendNames]
  · have begins : (Text.splitOn slash (appendNames path names)).head? =
        (Text.splitOn slash path).head? := by
      rw [splitOn_appendNames nonempty more areParts, splitOn_eq_body path,
        List.head?_append_of_ne_nil _ (Text.splitOn_ne_nil slash _),
        List.head?_append_of_ne_nil _ (Text.splitOn_ne_nil slash _)]
    simp only [components, isAbsolute_appendNames nonempty areParts, begins,
      names_appendNames nonempty areParts, List.map_append, List.append_assoc]

theorem endsWithSlash_appendNames (nonempty : path ≠ []) (more : names ≠ [])
    (areParts : ∀ name ∈ names, IsPart name) : endsWithSlash (appendNames path names) = false := by
  rcases List.eq_nil_or_concat names with rfl | ⟨before, last, rfl⟩
  · contradiction
  · have isPart := areParts last (by simp)
    have nonemptyBefore : appendNames path before ≠ [] := by
      by_cases noneBefore : before = []
      · simpa [noneBefore, appendNames] using nonempty
      · have partsBefore : ∀ name ∈ before, IsPart name := fun name nameMem =>
          areParts name (by simp [nameMem])
        simp [appendNames_eq_body nonempty noneBefore partsBefore]
    have step : appendNames path (before.concat last) = append (appendNames path before) last := by
      simp [appendNames]
    rw [step, append_eq_body nonemptyBefore isPart]
    exact endsWithSlash_body_append isPart _

/-- The steps of a path but for the one that a slash at its end is. -/
def leadingSteps (path : Packed) : List Packed :=
  (Text.splitOn slash (body path)).filter (· ≠ [])

theorem steps_eq_leadingSteps (path : Packed) :
    steps path = leadingSteps path ++ if endsWithSlash path then [[]] else [] := by
  rw [steps, leadingSteps, splitOn_eq_body path]
  cases endsWithSlash path <;> simp

theorem steps_appendNames (nonempty : path ≠ []) (more : names ≠ [])
    (areParts : ∀ name ∈ names, IsPart name) :
    steps (appendNames path names) = leadingSteps path ++ names := by
  have kept : names.filter (· ≠ []) = names := by
    rw [List.filter_eq_self]
    intro name nameMem
    simpa using (areParts name nameMem).notEmpty
  rw [steps, splitOn_appendNames nonempty more areParts,
    endsWithSlash_appendNames nonempty more areParts, List.filter_append, kept]
  simp [leadingSteps]

/-! ## Taking a path off the front -/

/-- A part between slashes that does not count. -/
def isIdle (part : Packed) : Bool :=
  part = [] || part = "."

/-- The parts behind so many that count. -/
def dropParts : Nat → List Packed → List Packed
  | 0, parts => parts
  | _ + 1, [] => []
  | count + 1, part :: rest =>
      if isIdle part then dropParts (count + 1) rest else dropParts count rest

/-- What is left of a path when another is taken off its front, component by component. -/
def behind? (path front : Packed) : Option Packed :=
  if (components front).isPrefixOf (components path) then
    if front.isEmpty then some (trimReversedEnd path.reverse).reverse
    else
      let rest := dropParts (Path.names front).length (Text.splitOn slash path)
      some (Text.join [slash] ((rest.dropWhile isIdle).reverse.dropWhile isIdle).reverse)
  else none

theorem isIdle_eq_false {name : Packed} (isPart : IsPart name) : isIdle name = false := by
  simpa [isIdle, isPart.notEmpty] using isPart.notDot

theorem dropWhile_isIdle (areParts : ∀ name ∈ names, IsPart name) :
    names.dropWhile isIdle = names := by
  cases names with
  | nil => rfl
  | cons name names =>
      rw [List.dropWhile_cons_of_neg]
      simp [isIdle_eq_false (areParts name List.mem_cons_self)]

/-- Behind the parts that count there may still be some that do not. -/
theorem dropWhile_dropParts (parts rest : List Packed) :
    (dropParts (parts.countP fun part => !isIdle part) (parts ++ rest)).dropWhile isIdle =
      rest.dropWhile isIdle := by
  induction parts with
  | nil => simp [dropParts]
  | cons part parts ih =>
      cases idle : isIdle part with
      | false => simpa [dropParts, idle] using ih
      | true =>
          cases count : parts.countP fun part => !isIdle part with
          | zero => simpa [dropParts, idle, count, List.dropWhile_cons] using ih
          | succ count' => simpa [dropParts, idle, count] using ih

theorem length_names (path : Packed) :
    (Path.names path).length = (Text.splitOn slash (body path)).countP fun part => !isIdle part := by
  rw [names_eq_body, Path.names, List.countP_eq_length_filter]
  congr
  funext part
  simp [isIdle, Bool.decide_and]

/-- Names behind a path are what is left of the longer path. -/
theorem behind?_appendNames (nonempty : path ≠ []) (more : names ≠ [])
    (areParts : ∀ name ∈ names, IsPart name) :
    behind? (appendNames path names) path = some (Text.join [slash] names) := by
  have begins : (components path).isPrefixOf (components (appendNames path names)) = true := by
    rw [List.isPrefixOf_iff_prefix, components_appendNames nonempty areParts]
    exact List.prefix_append _ _
  have notEmpty : path.isEmpty = false := by simpa using nonempty
  have reversedParts : ∀ name ∈ names.reverse, IsPart name := by simpa using areParts
  simp only [behind?, begins, notEmpty, Bool.false_eq_true, if_true, if_false, length_names path,
    splitOn_appendNames nonempty more areParts, dropWhile_dropParts, dropWhile_isIdle areParts,
    dropWhile_isIdle reversedParts, List.reverse_reverse]

end Path

end BraceBalance
