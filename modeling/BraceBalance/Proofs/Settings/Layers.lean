import BraceBalance.Proofs.Text.Order
import BraceBalance.Settings.Tree
import Mathlib.Data.List.Induction
import Mathlib.Data.Option.Basic

/-!
# Settings in layers

A setting stands at a key, and all settings but the version stand at the key of a section. This
file says which value a stack of layers holds for a setting: the one in the highest layer that
has the setting, whatever else the layers hold.

Laying a layer over another merges tables, and a setting that is a table in both becomes a third
table. As no setting may be a table, it is enough to know the value up to such a replacement
(`Tree.Agrees`). The members of a layer are in the order of their keys (`Layer.Ordered`), so that
a key is met once when the layer is laid over another; this is an invariant of all ways in which
layers are made.
-/

namespace BraceBalance

inductive Setting where
  | version
  | commentMarker
  | extensions
  | exclude
  | maxFileSize
  | format
  | trace
  | failOnImbalance

namespace Setting

def section? : Setting → Option Text
  | version => none
  | commentMarker => some "analysis"
  | extensions | exclude | maxFileSize => some "scan"
  | format | trace => some "output"
  | failOnImbalance => some "check"

def key : Setting → Text
  | version => "version"
  | commentMarker => "comment_marker"
  | extensions => "extensions"
  | exclude => "exclude"
  | maxFileSize => "max_file_size"
  | format => "format"
  | trace => "trace"
  | failOnImbalance => "fail_on_imbalance"

end Setting

namespace Tree

inductive IsTable : Tree → Prop where
  | table (origin : Origin) (members : List (Text × Tree)) : IsTable (.table origin members)

/-- The values are equal, up to the content of tables. -/
def Agrees (left right : Tree) : Prop :=
  left = right ∨ left.IsTable ∧ right.IsTable

/-- The keys of every table outside of sequences are in order. -/
inductive Ordered : Tree → Prop where
  | scalar (origin : Origin) (value : Scalar) : Ordered (.scalar origin value)
  | sequence (origin : Origin) (elements : List Tree) : Ordered (.sequence origin elements)
  | table (origin : Origin) {members : List (Text × Tree)}
      (keys : members.Pairwise fun left right => Text.compare left.1 right.1 = .lt)
      (values : ∀ member ∈ members, Ordered member.2) : Ordered (.table origin members)

theorem Agrees.refl (tree : Tree) : tree.Agrees tree :=
  Or.inl rfl

theorem Agrees.trans {first second third : Tree} (left : first.Agrees second)
    (right : second.Agrees third) : first.Agrees third := by
  rcases left with rfl | ⟨firstTable, secondTable⟩
  · exact right
  · rcases right with rfl | ⟨_, thirdTable⟩
    · exact Or.inr ⟨firstTable, secondTable⟩
    · exact Or.inr ⟨firstTable, thirdTable⟩

theorem Agrees.symm {left right : Tree} (agree : left.Agrees right) : right.Agrees left := by
  rcases agree with rfl | ⟨leftTable, rightTable⟩
  · exact .refl left
  · exact Or.inr ⟨rightTable, leftTable⟩

theorem agrees_refl (tree? : Option Tree) : Option.Rel Agrees tree? tree? := by
  cases tree? with
  | none => exact .none
  | some tree => exact .some (.refl tree)

theorem agrees_symm {left? right? : Option Tree} (agree : Option.Rel Agrees left? right?) :
    Option.Rel Agrees right? left? := by
  cases agree with
  | none => exact .none
  | some agree => exact .some agree.symm

theorem agrees_trans {first? second? third? : Option Tree} (left : Option.Rel Agrees first? second?)
    (right : Option.Rel Agrees second? third?) : Option.Rel Agrees first? third? := by
  cases left with
  | none => exact right
  | some left =>
      cases right with
      | some right => exact .some (left.trans right)

theorem agrees_or {upper? upper'? lower? lower'? : Option Tree}
    (upper : Option.Rel Agrees upper? upper'?) (lower : Option.Rel Agrees lower? lower'?) :
    Option.Rel Agrees (upper?.or lower?) (upper'?.or lower'?) := by
  cases upper with
  | none => simpa using lower
  | some agree => exact .some agree

theorem IsTable.overlay {upper : Tree} (isTable : upper.IsTable) (lower : Tree) :
    (lower.overlay upper).IsTable := by
  cases isTable with
  | table origin members => cases lower <;> exact .table origin _

/-- A value that is laid over another is seen, up to the content of tables. -/
theorem overlay_agrees (lower upper : Tree) : (lower.overlay upper).Agrees upper := by
  cases upper with
  | scalar origin value => exact Or.inl (by simp [overlay])
  | sequence origin elements => exact Or.inl (by simp [overlay])
  | table origin members =>
      have isTable : (Tree.table origin members).IsTable := .table origin members
      exact Or.inr ⟨isTable.overlay lower, isTable⟩

end Tree

namespace Layer

/-- The keys of the layer and of the tables in it are in order. -/
structure Ordered (layer : Layer) : Prop where
  keys : layer.Pairwise fun left right => Text.compare left.1 right.1 = .lt
  values : ∀ member ∈ layer, member.2.Ordered

def inSection? (layer : Layer) (name key : Text) : Option Tree :=
  match layer.lookup name with
  | some (.table _ members) => members.lookup key
  | _ => none

def setting? (layer : Layer) (setting : Setting) : Option Tree :=
  match setting.section? with
  | none => layer.lookup setting.key
  | some name => layer.inSection? name setting.key

/-- What the layer holds in the place of a section is a table. -/
def SectionsAreTables (layer : Layer) : Prop :=
  ∀ (setting : Setting) (name : Text), setting.section? = some name →
    ∀ tree, layer.lookup name = some tree → tree.IsTable

/-- The value in the highest layer that has the setting; the lowest layer comes first. -/
def highest? (layers : List Layer) (setting : Setting) : Option Tree :=
  layers.reverse.findSome? fun layer => layer.setting? setting

/-! ## Keys -/

theorem lookup_cons_of_ne {key first : Text} (different : key ≠ first) (value : Tree)
    (rest : Layer) : List.lookup key ((first, value) :: rest) = rest.lookup key := by
  rw [List.lookup_cons, beq_false_of_ne different]

/-- Putting a value at a key changes what is found at this key only. -/
theorem lookup_insert (key other : Text) (value : Tree) (layer : Layer) :
    (layer.insert key value).lookup other =
      if other = key then some value else layer.lookup other := by
  induction layer with
  | nil =>
      by_cases same : other = key
      · simp [insert, same]
      · simp [insert, lookup_cons_of_ne same, same]
  | cons entry rest ih =>
      rcases entry with ⟨first, kept⟩
      rw [insert]
      cases order : Text.compare key first with
      | lt =>
          by_cases same : other = key
          · simp [same]
          · simp [lookup_cons_of_ne same, same]
      | eq =>
          have keys : key = first := Std.LawfulEqCmp.eq_of_compare order
          subst keys
          by_cases same : other = key
          · simp [same]
          · simp [lookup_cons_of_ne same, same]
      | gt =>
          by_cases atFirst : other = first
          · have different : first ≠ key := by
              rintro rfl
              simp [Std.ReflCmp.compare_self] at order
            simp [atFirst, different]
          · simpa [lookup_cons_of_ne atFirst] using ih

theorem mem_of_mem_insert {key : Text} {value : Tree} {layer : Layer} {member : Text × Tree}
    (memberMem : member ∈ layer.insert key value) : member = (key, value) ∨ member ∈ layer := by
  induction layer with
  | nil => simpa [insert] using memberMem
  | cons entry rest ih =>
      rw [insert] at memberMem
      cases order : Text.compare key entry.1 with
      | lt => simpa [order] using memberMem
      | eq =>
          simp only [order, List.mem_cons] at memberMem
          rcases memberMem with rfl | restMem
          · exact Or.inl rfl
          · exact Or.inr (List.mem_cons_of_mem _ restMem)
      | gt =>
          simp only [order, List.mem_cons] at memberMem
          rcases memberMem with rfl | restMem
          · exact Or.inr List.mem_cons_self
          · rcases ih restMem with inserted | old
            · exact Or.inl inserted
            · exact Or.inr (List.mem_cons_of_mem _ old)

/-- The key of the first member of an ordered layer is not met again. -/
theorem lookup_eq_none_of_pairwise {key : Text} {value : Tree} {rest : Layer}
    (keys : List.Pairwise (fun left right => Text.compare left.1 right.1 = .lt)
      ((key, value) :: rest)) : rest.lookup key = none := by
  rw [List.lookup_eq_none_iff]
  intro member memberMem
  have less := (List.pairwise_cons.mp keys).1 member memberMem
  rw [bne_iff_ne]
  rintro rfl
  simp [Std.ReflCmp.compare_self] at less

namespace Ordered

theorem nil : Ordered [] :=
  ⟨.nil, by simp⟩

theorem insert {layer : Layer} (ordered : layer.Ordered) (key : Text) {value : Tree}
    (valueOrdered : value.Ordered) : (layer.insert key value).Ordered := by
  refine ⟨?_, ?_⟩
  · have keys := ordered.keys
    clear ordered
    induction layer with
    | nil => simp [Layer.insert]
    | cons entry rest ih =>
        rcases List.pairwise_cons.mp keys with ⟨first, later⟩
        rw [Layer.insert]
        cases order : Text.compare key entry.1 with
        | lt =>
            refine List.pairwise_cons.mpr ⟨?_, keys⟩
            intro member memberMem
            rcases List.mem_cons.mp memberMem with rfl | restMem
            · exact order
            · exact Std.TransCmp.lt_trans order (first member restMem)
        | eq =>
            have same : key = entry.1 := Std.LawfulEqCmp.eq_of_compare order
            subst same
            exact List.pairwise_cons.mpr ⟨first, later⟩
        | gt =>
            refine List.pairwise_cons.mpr ⟨?_, ih later⟩
            intro member memberMem
            rcases mem_of_mem_insert memberMem with rfl | restMem
            · exact Std.OrientedCmp.gt_iff_lt.mp order
            · exact first member restMem
  · intro member memberMem
    rcases mem_of_mem_insert memberMem with rfl | old
    · exact valueOrdered
    · exact ordered.values member old

theorem ofList {members : List (Text × Tree)} (values : ∀ member ∈ members, member.2.Ordered) :
    (Layer.ofList members).Ordered := by
  suffices fromAny : ∀ layer : Layer, layer.Ordered →
      (members.foldl (fun layer member => layer.insert member.1 member.2) layer).Ordered from
    fromAny [] nil
  induction members with
  | nil => exact fun layer ordered => ordered
  | cons member members ih =>
      intro layer ordered
      refine ih (fun later laterMem => values later (List.mem_cons_of_mem _ laterMem)) _ ?_
      exact ordered.insert member.1 (values member List.mem_cons_self)

end Ordered

/-! ## Laying over -/

/-- What is found at a key depends on what both layers hold at this key. -/
theorem lookup_overlay (lower : Layer) {upper : Layer} (ordered : upper.Ordered) (key : Text) :
    (lower.overlay upper).lookup key =
      match upper.lookup key, lower.lookup key with
      | none, found => found
      | some value, some below => some (below.overlay value)
      | some value, none => some value := by
  rw [overlay]
  have keys := ordered.keys
  clear ordered
  induction upper generalizing lower with
  | nil => simp [Tree.overlayMembers]
  | cons entry rest ih =>
      rcases entry with ⟨first, value⟩
      rw [Tree.overlayMembers, ih _ (List.pairwise_cons.mp keys).2, lookup_insert]
      by_cases same : key = first
      · subst same
        rw [lookup_eq_none_of_pairwise keys]
        cases lower.lookup key <;> simp
      · simp [lookup_cons_of_ne same, same]

theorem lookup_overlay_agrees (lower : Layer) {upper : Layer} (ordered : upper.Ordered)
    (key : Text) :
    Option.Rel Tree.Agrees ((lower.overlay upper).lookup key)
      ((upper.lookup key).or (lower.lookup key)) := by
  rw [lookup_overlay lower ordered]
  cases upper.lookup key with
  | none =>
      cases lower.lookup key with
      | none => exact .none
      | some below => exact .some (.refl below)
  | some value =>
      cases lower.lookup key with
      | none => exact .some (.refl value)
      | some below => exact .some (Tree.overlay_agrees below value)

theorem Ordered.of_lookup {layer : Layer} (ordered : layer.Ordered) {key : Text} {value : Tree}
    (found : layer.lookup key = some value) : value.Ordered := by
  rcases List.lookup_eq_some_iff.mp found with ⟨before, after, rfl, _⟩
  exact ordered.values (key, value) (by simp)

theorem Ordered.overlayMembers {members : List (Text × Tree)}
    (values : ∀ member ∈ members, member.2.Ordered)
    (overlaid : ∀ member ∈ members, ∀ lower : Tree, lower.Ordered →
      (lower.overlay member.2).Ordered)
    {lower : Layer} (lowerOrdered : lower.Ordered) :
    Layer.Ordered (Tree.overlayMembers lower members) := by
  induction members generalizing lower with
  | nil => simpa [Tree.overlayMembers] using lowerOrdered
  | cons member rest ih =>
      rw [Tree.overlayMembers]
      apply ih (fun later laterMem => values later (List.mem_cons_of_mem _ laterMem))
        (fun later laterMem => overlaid later (List.mem_cons_of_mem _ laterMem))
      apply lowerOrdered.insert
      cases found : lower.lookup member.1 with
      | none => exact values member List.mem_cons_self
      | some below =>
          exact overlaid member List.mem_cons_self below (lowerOrdered.of_lookup found)

end Layer

theorem Tree.Ordered.overlay {upper : Tree} (upperOrdered : upper.Ordered) {lower : Tree}
    (lowerOrdered : lower.Ordered) : (lower.overlay upper).Ordered := by
  induction upperOrdered generalizing lower with
  | scalar origin value => simpa [Tree.overlay] using Ordered.scalar origin value
  | sequence origin elements => simpa [Tree.overlay] using Ordered.sequence origin elements
  | @table origin members keys values ih =>
      have overlaid : ∀ member ∈ members, ∀ below : Tree, below.Ordered →
          (below.overlay member.2).Ordered :=
        fun member memberMem below belowOrdered => ih member memberMem belowOrdered
      cases lowerOrdered with
      | scalar lowerOrigin value => exact .table origin keys values
      | sequence lowerOrigin elements => exact .table origin keys values
      | table lowerOrigin lowerKeys lowerValues =>
          have merged := Layer.Ordered.overlayMembers values overlaid ⟨lowerKeys, lowerValues⟩
          simpa [Tree.overlay] using Ordered.table origin merged.keys merged.values

namespace Layer

theorem Ordered.overlay {lower upper : Layer} (lowerOrdered : lower.Ordered)
    (upperOrdered : upper.Ordered) : (lower.overlay upper).Ordered := by
  apply lowerOrdered.overlayMembers upperOrdered.values
  intro member memberMem below belowOrdered
  exact (upperOrdered.values member memberMem).overlay belowOrdered

namespace SectionsAreTables

theorem nil : SectionsAreTables [] := by
  intro setting name _ tree found
  simp at found

theorem overlay {lower upper : Layer} (lowerSections : lower.SectionsAreTables)
    (upperSections : upper.SectionsAreTables) (upperOrdered : upper.Ordered) :
    (lower.overlay upper).SectionsAreTables := by
  intro setting name inSection tree found
  rw [lookup_overlay lower upperOrdered] at found
  cases fromUpper : upper.lookup name with
  | none =>
      rw [fromUpper] at found
      exact lowerSections setting name inSection tree found
  | some value =>
      have valueTable := upperSections setting name inSection value fromUpper
      cases fromLower : lower.lookup name with
      | none =>
          have same : value = tree := by simpa [fromUpper, fromLower] using found
          exact same ▸ valueTable
      | some below =>
          have same : below.overlay value = tree := by simpa [fromUpper, fromLower] using found
          exact same ▸ valueTable.overlay below

end SectionsAreTables

/-- Of two layers the upper one decides on a setting that it has. -/
theorem setting?_overlay {lower upper : Layer} (lowerSections : lower.SectionsAreTables)
    (upperSections : upper.SectionsAreTables) (upperOrdered : upper.Ordered)
    (setting : Setting) :
    Option.Rel Tree.Agrees ((lower.overlay upper).setting? setting)
      ((upper.setting? setting).or (lower.setting? setting)) := by
  cases inSection : setting.section? with
  | none => simpa [setting?, inSection] using lookup_overlay_agrees lower upperOrdered setting.key
  | some name =>
      simp only [setting?, inSection, inSection?]
      rw [lookup_overlay lower upperOrdered]
      cases fromUpper : upper.lookup name with
      | none =>
          simp only [Option.none_or]
          exact Tree.agrees_refl _
      | some value =>
          cases upperSections setting name inSection value fromUpper with
          | table origin members =>
              cases fromLower : lower.lookup name with
              | none =>
                  simp only [Option.or_none]
                  exact Tree.agrees_refl _
              | some below =>
                  cases lowerSections setting name inSection below fromLower with
                  | table lowerOrigin lowerMembers =>
                      cases upperOrdered.of_lookup fromUpper with
                      | table _ keys values =>
                          exact lookup_overlay_agrees lowerMembers ⟨keys, values⟩ setting.key

/-! ## Stacks -/

theorem setting?_nil (setting : Setting) : setting? [] setting = none := by
  cases setting <;> rfl

theorem highest?_append (lower upper : List Layer) (setting : Setting) :
    highest? (lower ++ upper) setting = (highest? upper setting).or (highest? lower setting) := by
  simp [highest?]

theorem highest?_singleton (layer : Layer) (setting : Setting) :
    highest? [layer] setting = layer.setting? setting := by
  simp [highest?]

theorem stack_append_singleton (layers : List Layer) (layer : Layer) :
    stack (layers ++ [layer]) = (stack layers).overlay layer := by
  simp [stack]

theorem Ordered.stack {layers : List Layer} (ordered : ∀ layer ∈ layers, layer.Ordered) :
    (stack layers).Ordered := by
  induction layers using List.reverseRecOn with
  | nil => exact nil
  | append_singleton layers layer ih =>
      rw [stack_append_singleton]
      have lower := ih fun lower lowerMem => ordered lower (List.mem_append_left _ lowerMem)
      exact lower.overlay (ordered layer (by simp))

theorem SectionsAreTables.stack {layers : List Layer}
    (sections : ∀ layer ∈ layers, layer.SectionsAreTables)
    (ordered : ∀ layer ∈ layers, layer.Ordered) : (stack layers).SectionsAreTables := by
  induction layers using List.reverseRecOn with
  | nil => exact nil
  | append_singleton layers layer ih =>
      rw [stack_append_singleton]
      have lower := ih (fun lower lowerMem => sections lower (List.mem_append_left _ lowerMem))
        fun lower lowerMem => ordered lower (List.mem_append_left _ lowerMem)
      exact lower.overlay (sections layer (by simp)) (ordered layer (by simp))

/-- A stack holds for a setting what its highest layer with the setting holds. -/
theorem setting?_stack {layers : List Layer}
    (sections : ∀ layer ∈ layers, layer.SectionsAreTables)
    (ordered : ∀ layer ∈ layers, layer.Ordered) (setting : Setting) :
    Option.Rel Tree.Agrees ((stack layers).setting? setting) (highest? layers setting) := by
  induction layers using List.reverseRecOn with
  | nil =>
      have nothing : (stack []).setting? setting = none := setting?_nil setting
      rw [nothing]
      exact .none
  | append_singleton layers layer ih =>
      have lowerSections : ∀ lower ∈ layers, lower.SectionsAreTables :=
        fun lower lowerMem => sections lower (List.mem_append_left _ lowerMem)
      have lowerOrdered : ∀ lower ∈ layers, lower.Ordered :=
        fun lower lowerMem => ordered lower (List.mem_append_left _ lowerMem)
      rw [stack_append_singleton, highest?_append, highest?_singleton]
      apply Tree.agrees_trans
      · exact setting?_overlay (.stack lowerSections lowerOrdered) (sections layer (by simp))
          (ordered layer (by simp)) setting
      · exact Tree.agrees_or (Tree.agrees_refl _) (ih lowerSections lowerOrdered)

theorem Ordered.append_stack {lower upper : List Layer}
    (ordered : ∀ layer ∈ lower ++ upper, layer.Ordered) :
    ∀ layer ∈ lower ++ [Layer.stack upper], layer.Ordered := by
  intro layer layerMem
  rcases List.mem_append.mp layerMem with lowerMem | isUpper
  · exact ordered layer (List.mem_append_left _ lowerMem)
  · rw [List.mem_singleton.mp isUpper]
    exact .stack fun upperLayer upperMem => ordered upperLayer (List.mem_append_right _ upperMem)

theorem SectionsAreTables.append_stack {lower upper : List Layer}
    (sections : ∀ layer ∈ lower ++ upper, layer.SectionsAreTables)
    (ordered : ∀ layer ∈ lower ++ upper, layer.Ordered) :
    ∀ layer ∈ lower ++ [Layer.stack upper], layer.SectionsAreTables := by
  intro layer layerMem
  rcases List.mem_append.mp layerMem with lowerMem | isUpper
  · exact sections layer (List.mem_append_left _ lowerMem)
  · rw [List.mem_singleton.mp isUpper]
    exact .stack (fun upperLayer upperMem => sections upperLayer (List.mem_append_right _ upperMem))
      fun upperLayer upperMem => ordered upperLayer (List.mem_append_right _ upperMem)

/-- It makes no difference to a setting if the highest layers are made into one before. -/
theorem setting?_stack_stack {lower upper : List Layer}
    (sections : ∀ layer ∈ lower ++ upper, layer.SectionsAreTables)
    (ordered : ∀ layer ∈ lower ++ upper, layer.Ordered) (setting : Setting) :
    Option.Rel Tree.Agrees ((stack (lower ++ [stack upper])).setting? setting)
      (highest? (lower ++ upper) setting) := by
  apply Tree.agrees_trans
  · exact setting?_stack (.append_stack sections ordered) (.append_stack ordered) setting
  · rw [highest?_append, highest?_append, highest?_singleton]
    refine Tree.agrees_or (setting?_stack ?_ ?_ setting) (Tree.agrees_refl _)
    · exact fun layer layerMem => sections layer (List.mem_append_right _ layerMem)
    · exact fun layer layerMem => ordered layer (List.mem_append_right _ layerMem)

end Layer

end BraceBalance
