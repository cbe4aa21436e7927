import BraceBalance.Proofs.Settings.Decoding
import BraceBalance.Proofs.Settings.Sources
import BraceBalance.Proofs.Settings.TomlRoundTrip

/-!
# Layers that cover all below them

A layer that has all settings leaves nothing to be seen of the layers below it, whatever these
hold in the place of a setting or of a section. They only have to be layers: what a TOML document
holds is one if no table below its top has the key for the mark of a value.
-/

namespace BraceBalance

/-! ## Laying over -/

theorem Tree.overlay_of_not_isTable {upper : Tree} (notTable : ¬upper.IsTable) (lower : Tree) :
    lower.overlay upper = upper := by
  cases upper with
  | scalar origin value => rw [overlay]; simp
  | sequence origin elements => rw [overlay]; simp
  | table origin members => exact absurd (.table origin members) notTable

namespace Layer

variable {upper : Layer} (ordered : upper.Ordered)
include ordered

theorem lookup_overlay_of_not_isTable (lower : Layer) {key : Text} {value : Tree}
    (found : upper.lookup key = some value) (notTable : ¬value.IsTable) :
    (lower.overlay upper).lookup key = some value := by
  rw [lookup_overlay lower ordered, found]
  cases lower.lookup key with
  | none => rfl
  | some below => exact congrArg some (Tree.overlay_of_not_isTable notTable below)

/-- A setting of the upper layer is seen, whatever the lower layer holds in the place of its
section. -/
theorem setting?_overlay_of_not_isTable (lower : Layer) {setting : Setting} {value : Tree}
    (found : upper.setting? setting = some value) (notTable : ¬value.IsTable) :
    (lower.overlay upper).setting? setting = some value := by
  cases inSection : setting.section? with
  | none =>
      simp only [setting?, inSection] at found ⊢
      exact lookup_overlay_of_not_isTable ordered lower found notTable
  | some name =>
      simp only [setting?, inSection, inSection?] at found ⊢
      rw [lookup_overlay lower ordered]
      split at found
      · rename_i origin members isTable
        have inner := ordered.of_lookup isTable
        rw [isTable]
        cases lower.lookup name with
        | none => exact found
        | some below =>
            cases inner with
            | table _ keys values =>
                cases below with
                | scalar _ _ => exact found
                | sequence _ _ => exact found
                | table _ members =>
                    exact lookup_overlay_of_not_isTable ⟨keys, values⟩ members found notTable
      · cases found

/-- Over a layer with all sections, no section of another layer is seen that is none. -/
theorem SectionsAreTables.overlay_of_covers (lower : Layer)
    (covers : ∀ (setting : Setting) (name : Text), setting.section? = some name →
      ∃ tree, upper.lookup name = some tree ∧ tree.IsTable) :
    (lower.overlay upper).SectionsAreTables := by
  intro setting name inSection tree found
  rcases covers setting name inSection with ⟨value, isValue, isTable⟩
  rw [lookup_overlay lower ordered, isValue] at found
  cases below : lower.lookup name with
  | none =>
      rw [below] at found
      cases found
      exact isTable
  | some other =>
      rw [below] at found
      cases found
      exact isTable.overlay other

end Layer

namespace Settings

theorem toLayer_ordered (origin : Origin) (settings : Settings) :
    (settings.toLayer origin).Ordered :=
  Layer.ordered_of_ofToml? (ofToml?_tomlMembers origin settings)

theorem toLayer_covers (origin : Origin) (settings : Settings) (setting : Setting) (name : Text)
    (inSection : setting.section? = some name) :
    ∃ tree, (settings.toLayer origin).lookup name = some tree ∧ tree.IsTable := by
  cases setting <;> cases inSection <;> exact ⟨_, rfl, .table _ _⟩

theorem toLayer_holds (origin : Origin) (settings : Settings) (setting : Setting) :
    ∃ tree, (settings.toLayer origin).setting? setting = some tree ∧
      setting.Holds tree (settings.get setting) := by
  have sections : (settings.toLayer origin).SectionsAreTables := by
    intro setting name inSection tree found
    rcases toLayer_covers origin settings setting name inSection with ⟨table, isTable, holds⟩
    rw [isTable] at found
    cases found
    exact holds
  have gives := (decode_eq_ok_iff sections).mp (decode_toLayer origin settings) setting
  cases found : (settings.toLayer origin).setting? setting with
  | none => cases setting <;> cases found
  | some tree =>
      rw [found] at gives
      exact ⟨tree, rfl, gives⟩

/-- Settings are decoded over any layer as they are without it. -/
theorem decode_overlay_toLayer (lower : Layer) (origin : Origin) (settings : Settings) :
    decode (lower.overlay (settings.toLayer origin)) = .ok settings := by
  have ordered := toLayer_ordered origin settings
  have sections := Layer.SectionsAreTables.overlay_of_covers ordered lower
    (toLayer_covers origin settings)
  rw [decode_eq_ok_iff sections]
  intro setting
  rcases toLayer_holds origin settings setting with ⟨tree, found, holds⟩
  have notTable : ¬tree.IsTable := fun isTable => Setting.not_holds_of_isTable isTable _ holds
  rw [Layer.setting?_overlay_of_not_isTable ordered lower found notTable]
  exact holds

end Settings

/-! ## Layers of documents -/

/-- No table of the value has the key for the mark. -/
inductive Toml.Value.IsUnmarked : Toml.Value → Prop where
  | string (text : Text) : IsUnmarked (.string text)
  | integer (value : Int) : IsUnmarked (.integer value)
  | float (value : Double) : IsUnmarked (.float value)
  | boolean (value : Bool) : IsUnmarked (.boolean value)
  | datetime (text : Text) : IsUnmarked (.datetime text)
  | array {elements : List Toml.Value} (each : ∀ element ∈ elements, IsUnmarked element) :
      IsUnmarked (.array elements)
  | table {members : List (Text × Toml.Value)}
      (noMark : ∀ member ∈ members, member.1 ≠ Tree.markKey)
      (each : ∀ member ∈ members, IsUnmarked member.2) : IsUnmarked (.table members)

theorem Layer.lookup_ofList_eq_none {members : List (Text × Tree)} {key : Text}
    (absent : ∀ member ∈ members, member.1 ≠ key) : (Layer.ofList members).lookup key = none := by
  suffices fromAny : ∀ layer : Layer, layer.lookup key = none →
      (members.foldl (fun layer member => layer.insert member.1 member.2) layer).lookup key =
        none from fromAny [] rfl
  induction members with
  | nil => exact fun layer missing => missing
  | cons member members ih =>
      intro layer missing
      apply ih fun other otherMem => absent other (List.mem_cons_of_mem _ otherMem)
      have different : key ≠ member.1 := (absent member List.mem_cons_self).symm
      rw [lookup_insert, if_neg different, missing]

namespace Tree

variable {origin : Origin}

theorem exists_elementsOfToml? {elements : List Toml.Value}
    (each : ∀ element ∈ elements, ∃ tree, ofToml? origin element = some tree) :
    ∃ trees, elementsOfToml? origin elements = some trees := by
  induction elements with
  | nil => exact ⟨[], rfl⟩
  | cons element elements ih =>
      rcases each element List.mem_cons_self with ⟨tree, isTree⟩
      rcases ih fun other otherMem => each other (List.mem_cons_of_mem _ otherMem) with
        ⟨trees, areTrees⟩
      exact ⟨tree :: trees, by rw [elementsOfToml?, isTree, areTrees]; rfl⟩

theorem exists_membersOfToml? {members : List (Text × Toml.Value)}
    (each : ∀ member ∈ members, ∃ tree, ofToml? origin member.2 = some tree) :
    ∃ trees, membersOfToml? origin members = some trees ∧
      trees.map Prod.fst = members.map Prod.fst := by
  induction members with
  | nil => exact ⟨[], rfl, rfl⟩
  | cons member members ih =>
      rcases each member List.mem_cons_self with ⟨tree, isTree⟩
      rcases ih fun other otherMem => each other (List.mem_cons_of_mem _ otherMem) with
        ⟨trees, areTrees, sameKeys⟩
      refine ⟨(member.1, tree) :: trees, ?_, ?_⟩
      · rw [membersOfToml?, isTree, areTrees]
        rfl
      · rw [List.map_cons, List.map_cons, sameKeys]

theorem exists_ofToml? {value : Toml.Value} (unmarked : value.IsUnmarked) :
    ∃ tree, ofToml? origin value = some tree := by
  induction unmarked with
  | string text => exact ⟨_, rfl⟩
  | integer value => exact ⟨_, rfl⟩
  | float value => exact ⟨_, rfl⟩
  | boolean value => exact ⟨_, rfl⟩
  | datetime text => exact ⟨_, rfl⟩
  | array each ih =>
      rcases exists_elementsOfToml? ih with ⟨trees, areTrees⟩
      exact ⟨.sequence origin trees, by rw [ofToml?, areTrees]; rfl⟩
  | table noMark each ih =>
      rcases exists_membersOfToml? ih with ⟨trees, areTrees, sameKeys⟩
      have absent : (Layer.ofList trees).lookup markKey = none := by
        apply Layer.lookup_ofList_eq_none
        intro member memberMem
        have keyMem : member.1 ∈ trees.map Prod.fst := List.mem_map_of_mem memberMem
        rw [sameKeys, List.mem_map] at keyMem
        rcases keyMem with ⟨other, otherMem, same⟩
        exact same ▸ noMark other otherMem
      let layer := Layer.ofList trees
      refine ⟨(layer.lookup contentKey).getD (.table origin layer), ?_⟩
      rw [ofToml?, areTrees, Option.bind_eq_bind, Option.bind_some, ofMembers?, absent]
      rfl

end Tree

theorem Layer.exists_ofToml? {origin : Origin} {members : List (Text × Toml.Value)}
    (unmarked : ∀ member ∈ members, member.2.IsUnmarked) :
    ∃ layer, Layer.ofToml? origin members = some layer := by
  have each : ∀ member ∈ members, ∃ tree, Tree.ofToml? origin member.2 = some tree :=
    fun member memberMem => Tree.exists_ofToml? (unmarked member memberMem)
  rcases Tree.exists_membersOfToml? each with ⟨trees, areTrees, -⟩
  exact ⟨Layer.ofList trees, by rw [Layer.ofToml?, areTrees]; rfl⟩

end BraceBalance
