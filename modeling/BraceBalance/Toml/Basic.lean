import BraceBalance.Decimal.Double

/-!
# TOML values and statements

A TOML document is a sequence of statements: an entry gives a value to a key, and a
header opens a table, or one more element of an array of tables, for the entries after
it. Keys are paths of names.
-/

namespace BraceBalance

namespace Toml

inductive Value where
  | string (text : Text)
  | integer (value : Int)
  | float (value : Double)
  | boolean (value : Bool)
  /-- A date, a time or both, as it is written. -/
  | datetime (text : Text)
  | array (elements : List Value)
  | table (members : List (Text × Value))

/-- A key: the names of the tables that lead to it, and its own name. -/
structure Key where
  tables : List Text
  name : Text
deriving DecidableEq

def Key.path (key : Key) : List Text :=
  key.tables ++ [key.name]

inductive Statement where
  /-- `key = value` -/
  | entry (key : Key) (value : Value)
  /-- `[key]` -/
  | table (key : Key)
  /-- `[[key]]` -/
  | element (key : Key)

end Toml

end BraceBalance
