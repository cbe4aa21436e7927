import BraceBalance.Toml.Table
import Mathlib.Data.List.Nodup

/-!
# Tables built from distinct keys

A statement with a new key puts one item at the end of the table it belongs to, so that
entries and headers whose keys are all different build a table with their values in the order
in which they were given. Besides the entries of the document itself, only tables one level
below it are looked at.
-/

namespace BraceBalance

namespace Toml

namespace Table

variable {implicit dotted : Bool} {items before : List (Text × Item)} {name : Text}

theorem item?_eq_none (new : name ∉ items.map Prod.fst) :
    (mk implicit dotted items).item? name = none := by
  apply List.lookup_eq_none_iff.mpr
  intro member memberMem
  have other : name ≠ member.1 := by
    rintro rfl
    exact new (List.mem_map_of_mem memberMem)
  simpa using other

theorem item?_append_singleton (new : name ∉ before.map Prod.fst) (item : Item) :
    (mk implicit dotted (before ++ [(name, item)])).item? name = some item := by
  have absent : (mk implicit dotted before).item? name = none := item?_eq_none new
  rw [item?, items] at absent ⊢
  rw [List.lookup_append, absent]
  simp

/-- A new key puts its item at the end. -/
theorem setItem_of_new (new : name ∉ items.map Prod.fst) (item : Item) :
    (mk implicit dotted items).setItem name item =
      mk implicit dotted (items ++ [(name, item)]) := by
  rw [setItem, item?_eq_none new]
  rfl

theorem setItem_append_singleton (new : name ∉ before.map Prod.fst) (old item : Item) :
    (mk implicit dotted (before ++ [(name, old)])).setItem name item =
      mk implicit dotted (before ++ [(name, item)]) := by
  have kept : before.map (fun member => if member.1 = name then (name, item) else member) =
      before := by
    rw [List.map_congr_left (g := id), List.map_id]
    intro member memberMem
    have other : member.1 ≠ name := by
      rintro rfl
      exact new (List.mem_map_of_mem memberMem)
    rw [if_neg other]
    rfl
  rw [setItem, item?_append_singleton new]
  simp only [Option.isSome_some, if_true, Table.implicit, Table.dotted, Table.items,
    List.map_append, kept, List.map_cons, List.map_nil]

/-- An update below the last key changes the table at the key only. -/
theorem updateAt_append_singleton (new : name ∉ before.map Prod.fst)
    {update : Table → Option Table} {child after : Table} (updates : update child = some after) :
    updateAt false update [name] (mk implicit dotted (before ++ [(name, .table child)])) =
      some (mk implicit dotted (before ++ [(name, .table after)])) := by
  rw [updateAt, item?_append_singleton new]
  simp only [Bool.false_and, Bool.false_eq_true, if_false]
  rw [updateAt, updates, Option.bind_eq_bind, Option.bind_some, setItem_append_singleton new]
  rfl

/-- The item that a value is. -/
def valueItem (member : Text × Value) : Text × Item :=
  (member.1, .value member.2)

def insertMember (table : Table) (member : Text × Value) : Option Table :=
  table.insert ⟨[], member.1⟩ member.2

theorem insertMember_of_new {member : Text × Value} (new : member.1 ∉ items.map Prod.fst) :
    (mk implicit false items).insertMember member =
      some (mk implicit false (items ++ [valueItem member])) := by
  have free : (mk implicit false items).item? member.1 = none := item?_eq_none new
  rw [insertMember, insert, updateAt, define, free, setItem_of_new new]
  rfl

/-- Values at different keys stand in the table in the order in which they came. -/
theorem foldlM_insertMember {members : List (Text × Value)}
    (distinct : (items.map Prod.fst ++ members.map Prod.fst).Nodup) :
    members.foldlM insertMember (mk implicit false items) =
      some (mk implicit false (items ++ members.map valueItem)) := by
  induction members generalizing items with
  | nil => simp
  | cons member members ih =>
      rw [List.map_cons] at distinct
      have new : member.1 ∉ items.map Prod.fst := by
        intro memberMem
        exact (List.nodup_append.mp distinct).2.2 _ memberMem _ List.mem_cons_self rfl
      have distinctLater :
          ((items ++ [valueItem member]).map Prod.fst ++ members.map Prod.fst).Nodup := by
        simpa [valueItem] using distinct
      rw [List.foldlM_cons, insertMember_of_new new, Option.bind_eq_bind, Option.bind_some,
        ih distinctLater]
      simp

end Table

def memberStatement (member : Text × Value) : Statement :=
  .entry ⟨[], member.1⟩ member.2

/-- The header of a table, and the statements that give values to keys in it. -/
def sectionStatements (table : Text × List (Text × Value)) : List Statement :=
  .table ⟨[], table.1⟩ :: table.2.map memberStatement

namespace Draft

variable {implicit dotted : Bool} {items before : List (Text × Item)} {name : Text}

/-- Before the first header, statements add to the document itself. -/
theorem foldlM_add_root {members : List (Text × Value)} {table after : Table}
    (inserts : members.foldlM Table.insertMember table = some after) :
    (members.map memberStatement).foldlM add ⟨table, []⟩ = some ⟨after, []⟩ := by
  induction members generalizing table with
  | nil =>
      have same : table = after := by simpa using inserts
      subst same
      rfl
  | cons member members ih =>
      rw [List.foldlM_cons] at inserts
      rcases Option.bind_eq_some_iff.mp inserts with ⟨next, inserted, insertsLater⟩
      have step : add ⟨table, []⟩ (memberStatement member) = some ⟨next, []⟩ := by
        change (table.insertMember member).bind _ = _
        rw [inserted]
        rfl
      rw [List.map_cons, List.foldlM_cons, step]
      exact ih insertsLater

/-- Behind a header, statements add to the table that it opened. -/
theorem foldlM_add_within (new : name ∉ before.map Prod.fst) {members : List (Text × Value)}
    {child after : Table} (inserts : members.foldlM Table.insertMember child = some after) :
    (members.map memberStatement).foldlM add
        ⟨Table.mk implicit dotted (before ++ [(name, .table child)]), [name]⟩ =
      some ⟨Table.mk implicit dotted (before ++ [(name, .table after)]), [name]⟩ := by
  induction members generalizing child with
  | nil =>
      have same : child = after := by simpa using inserts
      subst same
      rfl
  | cons member members ih =>
      rw [List.foldlM_cons] at inserts
      rcases Option.bind_eq_some_iff.mp inserts with ⟨next, inserted, insertsLater⟩
      have step : add ⟨Table.mk implicit dotted (before ++ [(name, .table child)]), [name]⟩
          (memberStatement member) =
          some ⟨Table.mk implicit dotted (before ++ [(name, .table next)]), [name]⟩ := by
        rw [memberStatement, add, Table.updateAt_append_singleton new inserted]
        rfl
      rw [List.map_cons, List.foldlM_cons, step]
      exact ih insertsLater

/-- A header with a new name opens an empty table behind the others. -/
theorem add_header (new : name ∉ items.map Prod.fst) (path : List Text) :
    add ⟨Table.mk implicit dotted items, path⟩ (.table ⟨[], name⟩) =
      some ⟨Table.mk implicit dotted (items ++ [(name, .table Table.opened)]), [name]⟩ := by
  rw [add, Table.updateAt, Table.openTable, Table.item?_eq_none new, Table.setItem_of_new new]
  rfl

/-- The item that a table is, with its values in their order. -/
def sectionItem (table : Text × List (Text × Value)) : Text × Item :=
  (table.1, .table (Table.mk false false (table.2.map Table.valueItem)))

theorem foldlM_add_sections {tables : List (Text × List (Text × Value))}
    (distinct : (items.map Prod.fst ++ tables.map Prod.fst).Nodup)
    (distinctWithin : ∀ table ∈ tables, (table.2.map Prod.fst).Nodup) (path : List Text) :
    ∃ last, (tables.flatMap sectionStatements).foldlM add ⟨Table.mk implicit dotted items, path⟩ =
      some ⟨Table.mk implicit dotted (items ++ tables.map sectionItem), last⟩ := by
  induction tables generalizing items path with
  | nil => exact ⟨path, by simp⟩
  | cons table tables ih =>
      rw [List.map_cons] at distinct
      have new : table.1 ∉ items.map Prod.fst := by
        intro tableMem
        exact (List.nodup_append.mp distinct).2.2 _ tableMem _ List.mem_cons_self rfl
      have distinctLater :
          ((items ++ [sectionItem table]).map Prod.fst ++ tables.map Prod.fst).Nodup := by
        simpa [sectionItem] using distinct
      have inserts : table.2.foldlM Table.insertMember Table.opened =
          some (Table.mk false false (table.2.map Table.valueItem)) := by
        apply Table.foldlM_insertMember
        simpa using distinctWithin table List.mem_cons_self
      have within := @foldlM_add_within implicit dotted _ _ new _ _ _ inserts
      rcases ih distinctLater
        (fun table tableMem => distinctWithin table (List.mem_cons_of_mem _ tableMem)) [table.1]
        with ⟨last, later⟩
      refine ⟨last, ?_⟩
      rw [List.flatMap_cons, List.foldlM_append, sectionStatements, List.foldlM_cons,
        add_header new, Option.bind_eq_bind, Option.bind_some, within, Option.bind_some]
      rw [sectionItem, List.append_assoc] at later
      exact later

end Draft

namespace Table

theorem membersOf_append (first second : List (Text × Item)) :
    membersOf (first ++ second) = membersOf first ++ membersOf second := by
  induction first with
  | nil => rfl
  | cons item first ih => rw [List.cons_append, membersOf, membersOf, ih, List.cons_append]

theorem membersOf_valueItem (members : List (Text × Value)) :
    membersOf (members.map valueItem) = members := by
  induction members with
  | nil => rfl
  | cons member members ih => rw [List.map_cons, valueItem, membersOf, ih, valueOf]

theorem membersOf_sectionItem (tables : List (Text × List (Text × Value))) :
    membersOf (tables.map Draft.sectionItem) =
      tables.map fun table => (table.1, .table table.2) := by
  induction tables with
  | nil => rfl
  | cons table tables ih =>
      rw [List.map_cons, Draft.sectionItem, membersOf, ih, valueOf, toValue, membersOf_valueItem,
        List.map_cons]

end Table

/-- A document whose keys are all different has the values and tables that its statements
give, in their order. -/
theorem membersOfStatements_of_nodup {members : List (Text × Value)}
    {tables : List (Text × List (Text × Value))}
    (distinct : (members.map Prod.fst ++ tables.map Prod.fst).Nodup)
    (distinctWithin : ∀ table ∈ tables, (table.2.map Prod.fst).Nodup) :
    membersOfStatements (members.map memberStatement ++ tables.flatMap sectionStatements) =
      some (members ++ tables.map fun table => (table.1, .table table.2)) := by
  have inserts : members.foldlM Table.insertMember Table.opened =
      some (Table.mk false false (members.map Table.valueItem)) := by
    apply Table.foldlM_insertMember
    simpa using (List.nodup_append.mp distinct).1
  have distinctItems :
      ((members.map Table.valueItem).map Prod.fst ++ tables.map Prod.fst).Nodup := by
    rw [List.map_map]
    exact distinct
  rcases @Draft.foldlM_add_sections false false _ _ distinctItems distinctWithin []
    with ⟨last, sections⟩
  have built : (members.map memberStatement ++ tables.flatMap sectionStatements).foldlM Draft.add
      ⟨Table.opened, []⟩ =
      some ⟨Table.mk false false (members.map Table.valueItem ++ tables.map Draft.sectionItem),
        last⟩ := by
    rw [List.foldlM_append, Draft.foldlM_add_root inserts]
    exact sections
  rw [membersOfStatements, built]
  change some (Table.membersOf _) = _
  rw [Table.items, Table.membersOf_append, Table.membersOf_valueItem, Table.membersOf_sectionItem]

end Toml

end BraceBalance
