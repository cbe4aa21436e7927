import BraceBalance.Proofs.FileTree.Below
import BraceBalance.Proofs.Ignore.Spelling

/-!
# Ignore rules of a walked directory

Where no ignore file and no repository lies above a walked directory, an entry is ignored by the
rules of the directories below alone. These are read below those directories, and so they are the
same in two trees that hold the same there, unless a link or a file in the place of a repository
leads elsewhere.
-/

namespace BraceBalance

namespace Ignore

/-! ## Reading below a directory -/

section Reading

variable {tree other : FileTree} {location place : Location} {name : Packed} {names : List Packed}

theorem nodeFrom?_nil (tree : FileTree) (location : Location) :
    nodeFrom? tree location [] = tree.node? location := by
  rw [nodeFrom?, FileTree.follow]
  cases tree.node? location <;> rfl

theorem nodeFrom?_cons (here : tree.node? location = some .directory) (isName : Path.IsName name)
    (notLink : ∀ target, tree.node? (location ++ [name]) ≠ some (.link target)) :
    nodeFrom? tree location (name :: names) = nodeFrom? tree (location ++ [name]) names := by
  rw [nodeFrom?, FileTree.follow_named here isName.not_idle isName.notDots
    (Nat.not_lt.mpr isName.short)]
  cases there : tree.node? (location ++ [name]) with
  | none =>
      rw [nodeFrom?]
      cases names <;> rw [FileTree.follow, there] <;> rfl
  | some node =>
      cases node with
      | link target => exact absurd there (notLink target)
      | directory => rfl
      | file body => rfl
      | device body => rfl

theorem nodeFrom?_cons_of_not_directory (notHere : tree.node? location ≠ some .directory) :
    nodeFrom? tree location (name :: names) = none := by
  rw [nodeFrom?, FileTree.follow]
  cases stands : tree.node? location with
  | none => rfl
  | some node =>
      cases node with
      | directory => exact absurd stands notHere
      | link target => rfl
      | file body => rfl
      | device body => rfl

theorem nodeFrom?_of_absent (isName : Path.IsName name)
    (absent : tree.node? (location ++ [name]) = none) :
    nodeFrom? tree location (name :: names) = none := by
  by_cases here : tree.node? location = some .directory
  · rw [nodeFrom?_cons here isName (by simp [absent])]
    cases names with
    | nil => rw [nodeFrom?_nil, absent]
    | cons next names => exact nodeFrom?_cons_of_not_directory (by simp [absent])
  · exact nodeFrom?_cons_of_not_directory here

/-- What is reached without links depends only on what stands on the way. -/
theorem nodeFrom?_eq (areNames : ∀ name ∈ names, Path.IsName name)
    (same : ∀ above, tree.node? (location ++ above) = other.node? (place ++ above))
    (notLink : ∀ above, above <+: names → ∀ target,
      tree.node? (location ++ above) ≠ some (.link target)) :
    nodeFrom? tree location names = nodeFrom? other place names := by
  induction names generalizing location place with
  | nil => simpa [nodeFrom?_nil] using same []
  | cons name names ih =>
      have isName := areNames name List.mem_cons_self
      have sameHere : tree.node? location = other.node? place := by simpa using same []
      have notLinkThere := notLink [name] (List.prefix_append [name] names)
      by_cases here : tree.node? location = some .directory
      · rw [nodeFrom?_cons here isName notLinkThere,
          nodeFrom?_cons (sameHere ▸ here) isName (same [name] ▸ notLinkThere)]
        apply ih fun name nameMem => areNames name (List.mem_cons_of_mem _ nameMem)
        · intro above
          simpa using same (name :: above)
        · intro above isAbove target
          simpa using notLink (name :: above) (List.cons_prefix_cons.mpr ⟨rfl, isAbove⟩) target
      · rw [nodeFrom?_cons_of_not_directory here, nodeFrom?_cons_of_not_directory (sameHere ▸ here)]

end Reading

/-! ## The rules of a directory -/

/-- What makes a directory hold a repository. -/
def repositoryNames : List Packed :=
  [".git", ".jj"]

/-- Two directories have the same rules, and both hold a repository or none does. -/
structure SameRules (workspace : Workspace) (location : Location) (other : Workspace)
    (place : Location) : Prop where
  own : rulesFrom workspace.tree location [".ignore"] = rulesFrom other.tree place [".ignore"]
  repository : rulesFrom workspace.tree location [".gitignore"] =
    rulesFrom other.tree place [".gitignore"]
  excludes : excludesOf workspace location = excludesOf other place
  hasRepository : ∀ name ∈ repositoryNames,
    (nodeFrom? workspace.tree location [name]).isSome = (nodeFrom? other.tree place [name]).isSome

/-- The names by which rules and repositories are found in a directory. -/
def ruleNames : List (List Packed) :=
  [[".ignore"], [".gitignore"], [".git", "info", "exclude"], [".jj"]]

/-- No link leads to the rules of a directory, and no file stands for its repository. -/
structure KeepsRules (tree : FileTree) (location : Location) : Prop where
  notLinked : ∀ names ∈ ruleNames, ∀ above, above <+: names → ∀ target,
    tree.node? (location ++ above) ≠ some (.link target)
  notNamed : ∀ body, tree.node? (location ++ [(".git" : Packed)]) ≠ some (.file body)

theorem isName_ruleNames : ∀ names ∈ ruleNames, ∀ name ∈ names, Path.IsName name := by
  decide

theorem isName_git : Path.IsName ".git" :=
  isName_ruleNames [".git", "info", "exclude"] (by decide) ".git" (by decide)

namespace KeepsRules

variable {workspace other : Workspace} {location place : Location}

theorem excludesOf_eq (keeps : KeepsRules workspace.tree location) :
    excludesOf workspace location = rulesFrom workspace.tree location [".git", "info", "exclude"] := by
  have notFile : ∀ body, nodeFrom? workspace.tree location [".git"] ≠ some (.file body) := by
    intro body named
    by_cases here : workspace.tree.node? location = some .directory
    · rw [nodeFrom?_cons here isName_git, nodeFrom?_nil] at named
      · exact keeps.notNamed body named
      · exact keeps.notLinked [".git", "info", "exclude"] (by decide) [".git"] (by decide)
    · rw [nodeFrom?_cons_of_not_directory here] at named
      contradiction
  rw [excludesOf]
  split
  · rename_i body named
    exact absurd named (notFile body)
  · rfl

/-- What stands below a directory decides its rules. -/
theorem sameRules (keeps : KeepsRules workspace.tree location)
    (same : ∀ names, workspace.tree.node? (location ++ names) = other.tree.node? (place ++ names)) :
    SameRules workspace location other place := by
  have otherKeeps : KeepsRules other.tree place := by
    refine ⟨?_, ?_⟩
    · intro names namesMem above isAbove target
      exact same above ▸ keeps.notLinked names namesMem above isAbove target
    · intro body
      exact same [".git"] ▸ keeps.notNamed body
  have sameNode : ∀ names ∈ ruleNames, ∀ above, above <+: names →
      nodeFrom? workspace.tree location above = nodeFrom? other.tree place above := by
    intro names namesMem above isAbove
    apply nodeFrom?_eq _ same
    · intro further isFurther
      exact keeps.notLinked names namesMem further (isFurther.trans isAbove)
    · intro name nameMem
      exact isName_ruleNames names namesMem name (isAbove.subset nameMem)
  have sameOwn := sameNode [".ignore"] (by decide) _ (List.prefix_refl _)
  have sameRepository := sameNode [".gitignore"] (by decide) _ (List.prefix_refl _)
  have sameExcludes := sameNode [".git", "info", "exclude"] (by decide) _ (List.prefix_refl _)
  have sameGit := sameNode [".git", "info", "exclude"] (by decide) [".git"] (by decide)
  have sameJj := sameNode [".jj"] (by decide) _ (List.prefix_refl _)
  refine ⟨?_, ?_, ?_, ?_⟩
  · rw [rulesFrom, sameOwn, rulesFrom]
  · rw [rulesFrom, sameRepository, rulesFrom]
  · rw [keeps.excludesOf_eq, otherKeeps.excludesOf_eq, rulesFrom, sameExcludes, rulesFrom]
  · intro name nameMem
    rcases List.mem_pair.mp nameMem with rfl | rfl
    · rw [sameGit]
    · rw [sameJj]

end KeepsRules

/-! ## Directories above -/

/-- No ignore file that always counts and no repository is in a directory. -/
def IsSilent (tree : FileTree) (location : Location) : Prop :=
  ∀ name ∈ (".ignore" : Packed) :: repositoryNames, tree.node? (location ++ [name]) = none

instance (tree : FileTree) (location : Location) : Decidable (IsSilent tree location) := by
  unfold IsSilent
  infer_instance

theorem isSilent_of_notMem {tree : FileTree}
    (absent : ∀ entry ∈ tree.nodes, ∀ name ∈ (".ignore" : Packed) :: repositoryNames,
      entry.1.getLast? ≠ some name) (location : Location) : IsSilent tree location := by
  intro name nameMem
  rw [FileTree.node?_of_ne_nil (by simp), Option.map_eq_none_iff, List.find?_eq_none]
  intro entry entryMem same
  apply absent entry entryMem name nameMem
  rw [of_decide_eq_true same, List.getLast?_concat]

theorem nodeFrom?_of_absent_rules {tree : FileTree} {location : Location} {name : Packed}
    (nameMem : name ∈ (".ignore" : Packed) :: repositoryNames)
    (absent : tree.node? (location ++ [name]) = none) : nodeFrom? tree location [name] = none := by
  have listed : ∀ name ∈ (".ignore" : Packed) :: repositoryNames, ∃ names ∈ ruleNames, name ∈ names := by
    decide
  rcases listed name nameMem with ⟨names, namesMem, nameIn⟩
  exact nodeFrom?_of_absent (isName_ruleNames names namesMem name nameIn) absent

theorem hasRepository_eq_false {workspace : Workspace} {location : Location}
    (absent : ∀ name ∈ repositoryNames, workspace.tree.node? (location ++ [name]) = none)
    (directory path : Packed) :
    (Scope.ofDirectory workspace location directory path).hasRepository = false := by
  have noGit := nodeFrom?_of_absent_rules (by decide) (absent ".git" (by decide))
  have noJj := nodeFrom?_of_absent_rules (by decide) (absent ".jj" (by decide))
  unfold Scope.ofDirectory
  dsimp only
  rw [noGit, noJj]
  rfl

theorem IsSilent.ofDirectory {workspace : Workspace} {location : Location}
    (silent : IsSilent workspace.tree location) (directory path : Packed) :
    (Scope.ofDirectory workspace location directory path).ownRules = [] ∧
      (Scope.ofDirectory workspace location directory path).hasRepository = false := by
  constructor
  · have noIgnore := nodeFrom?_of_absent_rules (by decide) (silent ".ignore" (by decide))
    unfold Scope.ofDirectory rulesFrom
    dsimp only
    rw [noIgnore]
    rfl
  · apply hasRepository_eq_false
    intro name nameMem
    exact silent name (List.mem_cons_of_mem _ nameMem)

theorem repositoryScopes_append {above : List Scope}
    (silent : ∀ scope ∈ above, scope.hasRepository = false) (below : List Scope) :
    repositoryScopes (below ++ above) = repositoryScopes below := by
  have noneAbove : above.any Scope.hasRepository = false := by simpa using silent
  induction below with
  | nil =>
      rw [List.nil_append]
      cases above with
      | nil => rfl
      | cons scope above =>
          rw [List.any_cons, Bool.or_eq_false_iff] at noneAbove
          simp [repositoryScopes, noneAbove.1, noneAbove.2]
  | cons scope below ih =>
      have sameAny : (below ++ above).any Scope.hasRepository = below.any Scope.hasRepository := by
        rw [List.any_append, noneAbove, Bool.or_false]
      rw [List.cons_append, repositoryScopes, repositoryScopes, sameAny, ih]

theorem nearestVerdict?_append {above : List Scope} {rules : Scope → List Rule}
    (silent : ∀ scope ∈ above, rules scope = []) (below : List Scope) (isDirectory : Bool) :
    nearestVerdict? (below ++ above) rules isDirectory = nearestVerdict? below rules isDirectory := by
  have noneAbove : above.findSome? (fun scope => verdict? (rules scope) scope.path isDirectory) =
      none := by
    rw [List.findSome?_eq_none_iff]
    intro scope scopeMem
    rw [silent scope scopeMem]
    rfl
  rw [nearestVerdict?, List.findSome?_append, noneAbove, Option.or_none]
  rfl

/-- What the directories from an entry up to the walked root say of it. -/
def verdictBelow? (scopes : List Scope) (isDirectory : Bool) : Option Verdict :=
  let repository := repositoryScopes scopes
  nearestVerdict? scopes Scope.ownRules isDirectory
    <|> nearestVerdict? repository Scope.repositoryRules isDirectory
    <|> nearestVerdict? repository Scope.excludeRules isDirectory

variable {workspace other : Workspace} {root otherRoot : Packed} {location place : Location}
  {names : List Packed}

theorem repositoryScopes_eq_nil {scopes : List Scope}
    (noRepository : ∀ scope ∈ scopes, scope.hasRepository = false) : repositoryScopes scopes = [] :=
  repositoryScopes_append noRepository []

/-- Without rules from above and from the user, only what lies below the root decides. -/
theorem isIgnored_eq
    (silent : ∀ above, above <+: location → above ≠ location → IsSilent workspace.tree above)
    (noGlobal : globalRules workspace = [] ∨ ∀ reached, ∀ name ∈ repositoryNames,
      workspace.tree.node? (location ++ (reached ++ [name])) = none)
    (isDirectory : Bool) :
    isIgnored workspace root location names isDirectory =
      decide (verdictBelow? (scopesBelow workspace root location names) isDirectory =
        some .ignored) := by
  have silentAbove : ∀ scope ∈ scopesAbove workspace root location names,
      scope.ownRules = [] ∧ scope.hasRepository = false := by
    intro scope scopeMem
    rcases List.mem_map.mp scopeMem with ⟨count, countMem, rfl⟩
    apply IsSilent.ofDirectory
    apply silent _ (List.take_prefix _ location)
    intro whole
    have shorter := congrArg List.length whole
    rw [List.length_take] at shorter
    have bounded := List.mem_range.mp countMem
    omega
  have repositories := repositoryScopes_append (fun scope scopeMem => (silentAbove scope scopeMem).2)
    (scopesBelow workspace root location names)
  have own := nearestVerdict?_append (fun scope scopeMem => (silentAbove scope scopeMem).1)
    (scopesBelow workspace root location names) isDirectory
  have noneGlobal : (if (repositoryScopes (scopesBelow workspace root location names)).isEmpty then none
      else globalVerdict? workspace (Path.appendNames root names) isDirectory) = none := by
    rcases noGlobal with noRules | noRepository
    · split
      · rfl
      · rw [globalVerdict?, noRules]
        rfl
    · have noneBelow : ∀ scope ∈ scopesBelow workspace root location names,
          scope.hasRepository = false := by
        intro scope scopeMem
        rcases List.mem_map.mp scopeMem with ⟨count, _, rfl⟩
        apply hasRepository_eq_false
        intro name nameMem
        rw [List.append_assoc]
        exact noRepository _ name nameMem
      rw [repositoryScopes_eq_nil noneBelow]
      rfl
  simp only [isIgnored, repositories, own, noneGlobal, verdictBelow?, Option.orElse_eq_orElse,
    Option.orElse_eq_or, Option.or_none]

/-- Without ignore files and repositories, nothing is ignored. -/
theorem isIgnored_eq_false (silent : ∀ place, IsSilent workspace.tree place) (isDirectory : Bool) :
    isIgnored workspace root location names isDirectory = false := by
  have noRepository : ∀ reached, ∀ name ∈ repositoryNames,
      workspace.tree.node? (location ++ (reached ++ [name])) = none := by
    intro reached name nameMem
    rw [← List.append_assoc]
    exact silent (location ++ reached) name (List.mem_cons_of_mem _ nameMem)
  have silentBelow : ∀ scope ∈ scopesBelow workspace root location names,
      scope.ownRules = [] ∧ scope.hasRepository = false := by
    intro scope scopeMem
    rcases List.mem_map.mp scopeMem with ⟨count, _, rfl⟩
    exact (silent _).ofDirectory _ _
  have own := nearestVerdict?_append (fun scope scopeMem => (silentBelow scope scopeMem).1) []
    isDirectory
  rw [List.nil_append] at own
  rw [isIgnored_eq (fun above _ _ => silent above) (Or.inr noRepository), verdictBelow?,
    repositoryScopes_eq_nil fun scope scopeMem => (silentBelow scope scopeMem).2, own]
  rfl

theorem SameRules.ofDirectory_eq (same : SameRules workspace location other place)
    {directory path otherDirectory otherPath : Packed}
    (seen : seenFrom directory path = seenFrom otherDirectory otherPath) :
    Scope.ofDirectory workspace location directory path =
      Scope.ofDirectory other place otherDirectory otherPath := by
  have hasGit := same.hasRepository ".git" (by decide)
  have hasJj := same.hasRepository ".jj" (by decide)
  simp only [Scope.ofDirectory, seen, same.own, same.repository, same.excludes, hasGit, hasJj]

/-- Where the same rules are in the directories on the way to an entry, they see it alike. -/
theorem scopesBelow_eq (nonempty : root ≠ []) (once : ¬BeginsHereTwice root)
    (otherNonempty : otherRoot ≠ []) (otherOnce : ¬BeginsHereTwice otherRoot)
    (areParts : ∀ name ∈ names, Path.IsPart name)
    (same : ∀ reached, reached <+: names → reached ≠ names →
      SameRules workspace (location ++ reached) other (place ++ reached)) :
    scopesBelow workspace root location names = scopesBelow other otherRoot place names := by
  apply List.map_congr_left
  intro count countMem
  have bounded := List.mem_range.mp countMem
  let reached := names.take (names.length - 1 - count)
  let rest := names.drop (names.length - 1 - count)
  have split : reached ++ rest = names := List.take_append_drop _ names
  have more : rest ≠ [] := by
    simp only [rest, ne_eq, List.drop_eq_nil_iff]
    omega
  have seen := seenFrom_appendNames nonempty once more (split.symm ▸ areParts)
  have otherSeen := seenFrom_appendNames otherNonempty otherOnce more (split.symm ▸ areParts)
  rw [split] at seen otherSeen
  apply SameRules.ofDirectory_eq
  · apply same reached (List.take_prefix _ names)
    intro whole
    rw [whole] at split
    exact more (List.append_right_eq_self.mp split)
  · rw [seen, otherSeen]

end Ignore

end BraceBalance
