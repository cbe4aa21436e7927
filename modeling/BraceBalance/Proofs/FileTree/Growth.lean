import BraceBalance.Proofs.FileTree.Below

/-!
# File trees that grow

Directories are created and files are written, but nothing that stands in a tree is taken away,
and nothing but a file is changed, which stays a file. A path along which something was found, or
could be created, is then followed to the same location as before.
-/

namespace BraceBalance

/-- Where the path leads, whether something is there or not. -/
def Place.location : Place → Location
  | found location _ => location
  | vacant location => location

namespace FileTree

theorem node?_insert (tree : FileTree) {location : Location} (below : location ≠ [])
    (node : FileNode) (other : Location) :
    (tree.insert location node).node? other =
      if other = location then some node else tree.node? other := by
  by_cases same : other = location
  · subst same
    rw [if_pos rfl, node?_of_ne_nil below, insert]
    simp
  · rw [if_neg same]
    by_cases atRoot : other = []
    · simp [node?, atRoot]
    · rw [node?_of_ne_nil atRoot, node?_of_ne_nil atRoot, insert,
        List.find?_cons_of_neg (by simpa using Ne.symm same), List.find?_filter]
      congr 2
      funext entry
      by_cases atOther : entry.1 = other
      · simp [atOther, same]
      · simp [atOther]

theorem ne_nil_of_vacant {tree : FileTree} {location : Location}
    (vacant : tree.node? location = none) : location ≠ [] := by
  rintro rfl
  cases vacant

theorem ne_of_vacant {tree : FileTree} {location other : Location} {node : FileNode}
    (vacant : tree.node? location = none) (stands : tree.node? other = some node) :
    other ≠ location := by
  rintro rfl
  rw [vacant] at stands
  cases stands

/-- A file may stand at the location: one does, or nothing does. -/
def IsFree (tree : FileTree) (location : Location) : Prop :=
  ∀ node, tree.node? location = some node → ∃ body, node = .file body

theorem IsFree.ne_nil {tree : FileTree} {location : Location} (free : tree.IsFree location) :
    location ≠ [] := by
  rintro rfl
  rcases free .directory rfl with ⟨body, isFile⟩
  cases isFile

theorem node?_of_follow_vacant {tree : FileTree} {creating : Bool} {links : Nat}
    {location place : Location} {names : List Packed}
    (reached : tree.follow creating links location names = .ok (.vacant place)) :
    tree.node? place = none := by
  fun_induction follow tree creating links location names <;> simp_all

/-- All nodes of a tree stand in the other too, but a file may be another file. -/
structure KeepsNodes (before after : FileTree) : Prop where
  directory : ∀ {location}, before.node? location = some .directory →
    after.node? location = some .directory
  link : ∀ {location target}, before.node? location = some (.link target) →
    after.node? location = some (.link target)
  device : ∀ {location body}, before.node? location = some (.device body) →
    after.node? location = some (.device body)
  file : ∀ {location body}, before.node? location = some (.file body) →
    ∃ body, after.node? location = some (.file body)

theorem keepsNodes_of_forall {before after : FileTree}
    (kept : ∀ location node, before.node? location = some node →
      after.node? location = some node) : KeepsNodes before after where
  directory stands := kept _ _ stands
  link stands := kept _ _ stands
  device stands := kept _ _ stands
  file stands := ⟨_, kept _ _ stands⟩

theorem KeepsNodes.trans {before middle after : FileTree} (first : KeepsNodes before middle)
    (second : KeepsNodes middle after) : KeepsNodes before after where
  directory stands := second.directory (first.directory stands)
  link stands := second.link (first.link stands)
  device stands := second.device (first.device stands)
  file stands := by
    rcases first.file stands with ⟨body, kept⟩
    exact second.file kept

theorem keepsNodes_insert_of_vacant {tree : FileTree} {location : Location}
    (vacant : tree.node? location = none) (node : FileNode) :
    KeepsNodes tree (tree.insert location node) := by
  apply keepsNodes_of_forall
  intro other held stands
  rw [node?_insert tree (ne_nil_of_vacant vacant), if_neg (ne_of_vacant vacant stands), stands]

/-- A file may be put where a file was, or nothing. -/
theorem IsFree.keepsNodes {tree : FileTree} {location : Location} (free : tree.IsFree location)
    (body : FileBody) : KeepsNodes tree (tree.insert location (.file body)) := by
  have elsewhere : ∀ {other node}, tree.node? other = some node → (∀ body, node ≠ .file body) →
      (tree.insert location (.file body)).node? other = some node := by
    intro other node stands notFile
    have different : other ≠ location := by
      rintro rfl
      rcases free node stands with ⟨body, rfl⟩
      exact notFile body rfl
    rw [node?_insert tree free.ne_nil, if_neg different, stands]
  refine ⟨fun stands => elsewhere stands (by simp), fun stands => elsewhere stands (by simp),
    fun stands => elsewhere stands (by simp), ?_⟩
  intro other old stands
  rw [node?_insert tree free.ne_nil]
  split
  · exact ⟨body, rfl⟩
  · exact ⟨old, stands⟩

theorem KeepsNodes.exists_of_not_link {before after : FileTree} (keeps : KeepsNodes before after)
    {location : Location} {node : FileNode} (stands : before.node? location = some node)
    (notLink : ∀ target, node ≠ .link target) :
    ∃ kept, after.node? location = some kept ∧ ∀ target, kept ≠ .link target := by
  cases node with
  | directory => exact ⟨_, keeps.directory stands, by simp⟩
  | file body =>
      rcases keeps.file stands with ⟨body, kept⟩
      exact ⟨_, kept, by simp⟩
  | device body => exact ⟨_, keeps.device stands, by simp⟩
  | link target => exact absurd rfl (notLink target)

/-- A path leads where it led before, or where something could be created along it. -/
theorem KeepsNodes.follow_eq {before after : FileTree} (keeps : KeepsNodes before after)
    {creating : Bool} {links : Nat} {location : Location} {names : List Packed} {place : Place}
    {node : FileNode} (reached : before.follow creating links location names = .ok place)
    (stands : after.node? place.location = some node) (notLink : ∀ target, node ≠ .link target) :
    after.follow false links location names = .ok (.found place.location node) := by
  fun_induction follow before creating links location names
  case case1 =>
    cases reached
    rw [Place.location] at stands ⊢
    rw [follow, stands]
  case case4 here _ idle ih =>
    rw [follow_idle (keeps.directory here) idle]
    exact ih reached
  case case5 here _ _ ih =>
    rw [follow_parent (keeps.directory here)]
    exact ih reached
  case case8 here _ notIdle notParent short target isLink links ih =>
    rw [follow_named (keeps.directory here) notIdle notParent short, keeps.link isLink]
    exact ih reached
  case case9 here _ notIdle notParent short next nextNotLink nextStands ih =>
    rcases keeps.exists_of_not_link nextStands nextNotLink with ⟨kept, keptStands, keptNotLink⟩
    rw [follow_entry (keeps.directory here) notIdle notParent short keptStands keptNotLink]
    exact ih reached
  case case10 here notIdle notParent short absent _ =>
    cases reached
    rw [Place.location] at stands ⊢
    rw [follow_entry (keeps.directory here) notIdle notParent short stands notLink, follow, stands]
  all_goals cases reached

end FileTree

end BraceBalance
