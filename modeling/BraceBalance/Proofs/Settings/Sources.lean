import BraceBalance.Proofs.Settings.Layers
import BraceBalance.Settings.EnvironmentLayer

/-!
# Where layers come from

Layers are read from files and from variables of the environment. However their texts spell
them, the keys of all tables in them are in order.
-/

namespace BraceBalance

/-! ## Files -/

namespace Tree

theorem ordered_of_ofMembers? {origin : Origin} {members : Layer} {tree : Tree}
    (ordered : members.Ordered) (isTree : ofMembers? origin members = some tree) :
    tree.Ordered := by
  rw [ofMembers?] at isTree
  split at isTree
  · contradiction
  · cases content : members.lookup contentKey with
    | none =>
        rw [content, Option.getD_none, Option.some.injEq] at isTree
        subst isTree
        exact .table origin ordered.keys ordered.values
    | some value =>
        rw [content, Option.getD_some, Option.some.injEq] at isTree
        subst isTree
        exact ordered.of_lookup content

mutual

theorem ordered_of_ofToml? {origin : Origin} : (value : Toml.Value) → {tree : Tree} →
    ofToml? origin value = some tree → tree.Ordered
  | .string _, _, isTree | .integer _, _, isTree | .float _, _, isTree
  | .boolean _, _, isTree => by
      rw [ofToml?, Option.some.injEq] at isTree
      subst isTree
      exact .scalar origin _
  | .datetime _, _, isTree => by
      rw [ofToml?, Option.some.injEq] at isTree
      subst isTree
      exact .table origin (List.pairwise_singleton _ _) (by simp [Ordered.scalar])
  | .array elements, _, isTree => by
      rw [ofToml?, Option.map_eq_some_iff] at isTree
      rcases isTree with ⟨trees, _, rfl⟩
      exact .sequence origin trees
  | .table members, _, isTree => by
      rw [ofToml?, Option.bind_eq_bind, Option.bind_eq_some_iff] at isTree
      rcases isTree with ⟨trees, areTrees, isTree⟩
      exact ordered_of_ofMembers? (.ofList (ordered_of_membersOfToml? members areTrees)) isTree

theorem ordered_of_membersOfToml? {origin : Origin} : (members : List (Text × Toml.Value)) →
    {trees : List (Text × Tree)} → membersOfToml? origin members = some trees →
    ∀ member ∈ trees, member.2.Ordered
  | [], _, areTrees => by
      rw [membersOfToml?, Option.some.injEq] at areTrees
      subst areTrees
      simp
  | (key, value) :: rest, _, areTrees => by
      simp only [membersOfToml?, Option.bind_eq_bind, Option.bind_eq_some_iff, Option.pure_def,
        Option.some.injEq] at areTrees
      rcases areTrees with ⟨tree, isTree, trees, areTrees, rfl⟩
      intro member memberMem
      rcases List.mem_cons.mp memberMem with rfl | restMem
      · exact ordered_of_ofToml? value isTree
      · exact ordered_of_membersOfToml? rest areTrees member restMem

end

end Tree

theorem Layer.ordered_of_ofToml? {origin : Origin} {members : List (Text × Toml.Value)}
    {layer : Layer} (isLayer : Layer.ofToml? origin members = some layer) : layer.Ordered := by
  rw [Layer.ofToml?, Option.map_eq_some_iff] at isLayer
  rcases isLayer with ⟨trees, areTrees, rfl⟩
  exact .ofList (Tree.ordered_of_membersOfToml? members areTrees)

/-! ## Variables -/

namespace EnvironmentValue

open TextReader

/-- All values that the reader takes off a text have the property. -/
def Yields {α : Type} (reader : ValueReader α) (property : α → Prop) : Prop :=
  ∀ text value rest, reader.run text = .ok (value, rest) → property value

theorem yields_pure {α : Type} {property : α → Prop} {value : α} (holds : property value) :
    Yields (pure value) property := by
  intro text result rest read
  have same : (value, text) = (result, rest) := Except.ok.inj read
  exact (Prod.mk.inj same).1 ▸ holds

theorem yields_throw {α : Type} {property : α → Prop} (stop : Stop) :
    Yields (throw stop : ValueReader α) property := by
  intro text result rest read
  cases read

theorem yields_bind {α β : Type} {reader : ValueReader α} {next : α → ValueReader β}
    {between : α → Prop} {property : β → Prop} (first : Yields reader between)
    (later : ∀ value, between value → Yields (next value) property) :
    Yields (reader >>= next) property := by
  intro text result rest read
  rw [StateT.run_bind] at read
  cases step : reader.run text with
  | error stop =>
      rw [step] at read
      cases read
  | ok reached =>
      rw [step] at read
      exact later reached.1 (first text reached.1 reached.2 step) reached.2 result rest read

theorem yields_any {α : Type} (reader : ValueReader α) : Yields reader fun _ => True :=
  fun _ _ _ _ => trivial

/-- What is read before does not matter to a property of what is read last. -/
theorem yields_after {α β : Type} {reader : ValueReader α} {next : α → ValueReader β}
    {property : β → Prop} (later : ∀ value, Yields (next value) property) :
    Yields (reader >>= next) property :=
  yields_bind (yields_any reader) fun value _ => later value

theorem yields_itemsFrom {α : Type} {item : ValueReader α} {property : α → Prop}
    (each : Yields item property) (closing : Text) (steps : Nat) {read : List α}
    (soFar : ∀ value ∈ read, property value) :
    Yields (itemsFrom item closing read steps) fun values => ∀ value ∈ values, property value := by
  induction steps generalizing read with
  | zero => exact yields_throw _
  | succ steps ih =>
      rw [itemsFrom]
      refine yields_after fun closed => ?_
      split
      · exact yields_pure (by simpa using soFar)
      · refine yields_bind each fun value holds => ?_
        have withValue : ∀ one ∈ value :: read, property one := by
          simpa using ⟨holds, soFar⟩
        refine yields_after fun more => ?_
        split
        · exact ih withValue
        · refine yields_after fun _ => ?_
          exact yields_pure fun one oneMem => withValue one (List.mem_reverse.mp oneMem)

/-- A property that values in the environment have if the values in them have it. -/
structure IsHereditary (property : Tree → Prop) : Prop where
  boolean : ∀ value, property (.scalar .environment (.boolean value))
  text : ∀ value, property (.scalar .environment (.text value))
  character : ∀ value, property (.scalar .environment (.character value))
  bare : ∀ text, property (.scalar .environment (bare text))
  sequence : ∀ elements, (∀ element ∈ elements, property element) →
    property (.sequence .environment elements)
  table : ∀ members : List (Text × Tree), (∀ member ∈ members, property member.2) →
    property (.table .environment (Layer.ofList members))

theorem yields_valueWithin {property : Tree → Prop} (hereditary : IsHereditary property)
    (depth : Nat) : Yields (valueWithin depth) property := by
  induction depth with
  | zero =>
      rw [valueWithin]
      exact yields_throw _
  | succ depth ih =>
      have member : Yields (valueWithin.member depth) fun member => property member.2 := by
        rw [valueWithin.member]
        refine yields_after fun _ => yields_after fun key => ?_
        refine yields_after fun _ => yields_after fun _ => yields_after fun _ => ?_
        exact yields_bind ih fun value holds => yields_pure holds
      have finish : ∀ {value : Tree}, property value →
          Yields (do (skipWhile Text.isAsciiSpace : TextReader Unit); return value) property :=
        fun holds => yields_after fun _ => yields_pure holds
      rw [valueWithin]
      refine yields_after fun _ => yields_after fun isTrue => ?_
      dsimp only
      split
      · exact finish (hereditary.boolean true)
      refine yields_after fun isFalse => ?_
      split
      · exact finish (hereditary.boolean false)
      refine yields_after fun here => ?_
      split
      · refine yields_after fun _ => yields_after fun _ => ?_
        refine yields_bind (yields_itemsFrom member _ _ (by simp)) fun members each => ?_
        exact finish (hereditary.table members each)
      · refine yields_after fun _ => yields_after fun _ => ?_
        refine yields_bind (yields_itemsFrom ih _ _ (by simp)) fun elements each => ?_
        exact finish (hereditary.sequence elements each)
      · exact yields_after fun text => finish (hereditary.text text)
      · exact yields_after fun char => finish (hereditary.character char)
      · exact yields_after fun text => finish (hereditary.bare text.trim)

theorem of_parse? {property : Tree → Prop} (hereditary : IsHereditary property) {text : Text}
    {tree : Tree} (isTree : parse? text = some tree) : property tree := by
  rw [parse?] at isTree
  split at isTree
  · rename_i value read
    rw [Option.some.injEq] at isTree
    exact isTree ▸ yields_valueWithin hereditary _ _ _ _ read
  · contradiction
  · rw [Option.some.injEq] at isTree
    exact isTree ▸ hereditary.text text

theorem isHereditary_ordered : IsHereditary Tree.Ordered where
  boolean _ := .scalar _ _
  text _ := .scalar _ _
  character _ := .scalar _ _
  bare _ := .scalar _ _
  sequence elements _ := .sequence _ elements
  table _ each :=
    have layer := Layer.Ordered.ofList each
    .table _ layer.keys layer.values

end EnvironmentValue

namespace EnvironmentLayer

theorem ordered_single {value : Tree} (ordered : value.Ordered) (path : List Text) :
    (single value path).Ordered := by
  induction path with
  | nil => exact .nil
  | cons name rest ih =>
      cases rest with
      | nil => exact ⟨List.pairwise_singleton _ _, by simpa [single] using ordered⟩
      | cons next rest =>
          refine ⟨List.pairwise_singleton _ _, ?_⟩
          simpa [single] using Tree.Ordered.table .environment ih.keys ih.values

theorem ordered_of_ofVariable? {name value : Text} {layer : Layer}
    (isLayer : ofVariable? name value = some layer) : layer.Ordered := by
  rw [ofVariable?] at isLayer
  split at isLayer
  · rw [Option.some.injEq] at isLayer
    exact isLayer ▸ .nil
  · rename_i path _
    rw [Option.map_eq_some_iff] at isLayer
    rcases isLayer with ⟨tree, isTree, rfl⟩
    have ordered := EnvironmentValue.of_parse? EnvironmentValue.isHereditary_ordered isTree
    exact ordered_single ordered path

end EnvironmentLayer

end BraceBalance
