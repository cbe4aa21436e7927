import BraceBalance.Toml.Basic

/-!
# Building TOML tables

Statements build a table step by step. A table may be opened once by a header, and a key
may get a value once. Tables that only lie on the way to others are implicit: a header may
still open them, unless dotted keys made them. Dotted keys extend only tables that dotted
keys, or no statement, made.
-/

namespace BraceBalance

namespace Toml

mutual

/-- What a key of a growing table holds. -/
inductive Item where
  | value (value : Value)
  | table (table : Table)
  /-- An array of tables, the first element first. -/
  | tables (tables : List Table)

/-- A growing table. -/
inductive Table where
  /-- Whether the table only lies on the way to another, whether dotted keys made it, and
  its items. -/
  | mk (implicit dotted : Bool) (items : List (Text × Item))

end

namespace Table

/-- The table only lies on the way to another. -/
def implicit : Table → Bool
  | mk implicit _ _ => implicit

def dotted : Table → Bool
  | mk _ dotted _ => dotted

/-- The items of the table, in the order of their first appearance. -/
def items : Table → List (Text × Item)
  | mk _ _ items => items

def opened : Table := mk false false []

def item? (table : Table) (key : Text) : Option Item :=
  table.items.lookup key

def setItem (table : Table) (key : Text) (item : Item) : Table :=
  mk table.implicit table.dotted
    (if (table.item? key).isSome then
      table.items.map fun member => if member.1 = key then (key, item) else member
    else table.items ++ [(key, item)])

/-- Updates the table at the end of a path; tables that are missing on the way are made.
The last table of an array of tables stands for the array. `byKey` says that the path is
part of a dotted key, which may only pass tables that no header opened. -/
def updateAt (byKey : Bool) (update : Table → Option Table) :
    List Text → Table → Option Table
  | [], table => update table
  | name :: rest, table =>
      match table.item? name with
      | none => do
          return table.setItem name (.table (← updateAt byKey update rest (mk true byKey [])))
      | some (.table child) =>
          if byKey && !child.implicit then none
          else do return table.setItem name (.table (← updateAt byKey update rest child))
      | some (.tables children) => do
          let last ← children.getLast?
          return table.setItem name
            (.tables (children.dropLast ++ [← updateAt byKey update rest last]))
      | some (.value _) => none

/-- Gives a key of the table a value. A table made by dotted keys takes it from a dotted
key only, and another table from a key without dots only. -/
def define (viaDots : Bool) (name : Text) (value : Value) (table : Table) : Option Table :=
  if table.dotted ≠ viaDots || (table.item? name).isSome then none
  else some (table.setItem name (.value value))

/-- Gives a value to a key, which may be dotted. -/
def insert (key : Key) (value : Value) (table : Table) : Option Table :=
  updateAt true (define (!key.tables.isEmpty) key.name value) key.tables table

def openTable (name : Text) (table : Table) : Option Table :=
  match table.item? name with
  | none => some (table.setItem name (.table opened))
  | some (.table child) =>
      if child.implicit && !child.dotted then
        some (table.setItem name (.table (mk false false child.items)))
      else none
  | some _ => none

/-- Opens one more element of an array of tables in the table. -/
def openElement (name : Text) (table : Table) : Option Table :=
  match table.item? name with
  | none => some (table.setItem name (.tables [opened]))
  | some (.tables children) => some (table.setItem name (.tables (children ++ [opened])))
  | some _ => none

mutual

def toValue : Table → Value
  | mk _ _ items => .table (membersOf items)

def membersOf : List (Text × Item) → List (Text × Value)
  | [] => []
  | (key, item) :: rest => (key, valueOf item) :: membersOf rest

/-- The value that an item of a finished table is. -/
def valueOf : Item → Value
  | .value value => value
  | .table table => toValue table
  | .tables tables => .array (valuesOf tables)

def valuesOf : List Table → List Value
  | [] => []
  | table :: rest => toValue table :: valuesOf rest

end

def ofEntries (entries : List (Key × Value)) : Option Value := do
  return (← entries.foldlM (fun table entry => table.insert entry.1 entry.2) opened).toValue

end Table

/-- A document that is being built: its table, and the path that a header opened last. -/
structure Draft where
  table : Table
  path : List Text

def Draft.add (draft : Draft) : Statement → Option Draft
  | .entry key value => do
      return { draft with
        table := ← draft.table.updateAt false (Table.insert key value) draft.path }
  | .table key => do
      return ⟨← draft.table.updateAt false (Table.openTable key.name) key.tables, key.path⟩
  | .element key => do
      return ⟨← draft.table.updateAt false (Table.openElement key.name) key.tables, key.path⟩

def membersOfStatements (statements : List Statement) : Option (List (Text × Value)) := do
  let draft ← statements.foldlM Draft.add ⟨Table.opened, []⟩
  return Table.membersOf draft.table.items

end Toml

end BraceBalance
