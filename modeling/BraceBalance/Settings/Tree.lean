import BraceBalance.Text.Quoted
import BraceBalance.Toml.Basic

/-!
# Trees of settings

Before settings are decoded they are a tree of values whose types are not checked yet.
Every value remembers where it comes from, for messages. The members of a table are kept
in the order of their keys. A higher layer is laid over a lower one by merging tables;
any other value replaces what was there.
-/

namespace BraceBalance

inductive Origin where
  | file (path : Text)
  | environment
deriving DecidableEq

inductive Scalar where
  | text (value : Text)
  | character (value : Char)
  | boolean (value : Bool)
  | unsigned (value : Nat)
  | signed (value : Int)
  | float (value : Double)
deriving DecidableEq

/-- A value of any type, and where it and its parts come from. -/
inductive Tree where
  | scalar (origin : Origin) (value : Scalar)
  | sequence (origin : Origin) (elements : List Tree)
  | table (origin : Origin) (members : List (Text × Tree))

/-- The members of a layer, in the order of their keys. -/
abbrev Layer := List (Text × Tree)

namespace Layer

def insert (key : Text) (value : Tree) : Layer → Layer
  | [] => [(key, value)]
  | (other, kept) :: rest =>
      match Text.compare key other with
      | .lt => (key, value) :: (other, kept) :: rest
      | .eq => (key, value) :: rest
      | .gt => (other, kept) :: insert key value rest

/-- The layer with the given members; of two with one key the later stays. -/
def ofList (members : List (Text × Tree)) : Layer :=
  members.foldl (fun layer member => layer.insert member.1 member.2) []

end Layer

namespace Tree

def origin : Tree → Origin
  | scalar origin _ | sequence origin _ | table origin _ => origin

mutual

/-- A value laid over another: tables are merged, all else is replaced. -/
def overlay (lower : Tree) : Tree → Tree
  | table origin members =>
      match lower with
      | table _ lowerMembers => table origin (overlayMembers lowerMembers members)
      | _ => table origin members
  | upper => upper

/-- The members of a table laid over those of another. -/
def overlayMembers (lower : Layer) : List (Text × Tree) → Layer
  | [] => lower
  | (key, upper) :: rest =>
      overlayMembers
        (lower.insert key (match lower.lookup key with
          | some value => overlay value upper
          | none => upper))
        rest

end

/-- The key under which a table holds the text of a date or time. -/
def datetimeKey : Text := "$__toml_private_datetime"

/-- A table with this key is the value at the key, whatever else it holds. -/
def contentKey : Text := "___figment_value_value"

/-- The key for the mark of a value. No value of TOML is such a mark, so that no table has
this key. -/
def markKey : Text := "___figment_value_id"

/-- The tree of a table with the given members, if it is one. -/
def ofMembers? (origin : Origin) (members : Layer) : Option Tree :=
  if (members.lookup markKey).isSome then none
  else some ((members.lookup contentKey).getD (table origin members))

mutual

/-- The tree of a TOML value. A date or time is a table that holds its text. -/
def ofToml? (origin : Origin) : Toml.Value → Option Tree
  | .string value => some (scalar origin (.text value))
  | .integer value => some (scalar origin (.signed value))
  | .float value => some (scalar origin (.float value))
  | .boolean value => some (scalar origin (.boolean value))
  | .datetime value => some (table origin [(datetimeKey, scalar origin (.text value))])
  | .array elements => (elementsOfToml? origin elements).map (sequence origin)
  | .table members => do ofMembers? origin (Layer.ofList (← membersOfToml? origin members))

def elementsOfToml? (origin : Origin) : List Toml.Value → Option (List Tree)
  | [] => some []
  | element :: rest => do return (← ofToml? origin element) :: (← elementsOfToml? origin rest)

def membersOfToml? (origin : Origin) : List (Text × Toml.Value) → Option (List (Text × Tree))
  | [] => some []
  | (key, value) :: rest => do
      return (key, ← ofToml? origin value) :: (← membersOfToml? origin rest)

end

end Tree

namespace Layer

def overlay (lower upper : Layer) : Layer :=
  Tree.overlayMembers lower upper

/-- Layers laid one over the other, the lowest first. -/
def stack (layers : List Layer) : Layer :=
  layers.foldl overlay []

def ofToml? (origin : Origin) (members : List (Text × Toml.Value)) : Option Layer :=
  (Tree.membersOfToml? origin members).map ofList

end Layer

end BraceBalance
