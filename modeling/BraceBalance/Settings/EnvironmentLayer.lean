import BraceBalance.Settings.EnvironmentValue

/-!
# The layer of the environment

A variable whose name begins with the mark of the program sets the value whose path the
rest of the name is, with two underscores between the names of the path. Capital and small
letters are the same. Of variables that set the same value the later counts.
-/

namespace BraceBalance

namespace EnvironmentLayer

/-- The beginning of the names of variables that hold settings. -/
def mark : Text := "BRACECHECK_"

/-- The text with every two underscores, found from the left, replaced by a dot. -/
def dotted : Text → Text
  | '_' :: '_' :: rest => '.' :: dotted rest
  | char :: rest => char :: dotted rest
  | [] => []

/-- The path of the setting that a variable sets, if it sets one. -/
def path? (name : Text) : Option (List Text) := do
  let name := name.trim
  let rest ← Text.dropBeginning? name.asciiUpper mark
  let path := Text.splitOn '.' (dotted (name.drop (name.length - rest.length))).trim
  if path.any List.isEmpty then none else return path.map Text.asciiLower

def single (value : Tree) : List Text → Layer
  | [] => []
  | [name] => [(name, value)]
  | name :: rest => [(name, .table .environment (single value rest))]

/-- The layer of one variable; it is empty if the variable sets nothing. -/
def ofVariable? (name value : Text) : Option Layer :=
  match path? name with
  | none => some []
  | some path => (EnvironmentValue.parse? value).map (single · path)

/-- The layer of all variables, in their order, if all their values can be used. -/
def ofVariables? (bindings : List (Text × Text)) : Option Layer :=
  (bindings.mapM fun (name, value) => ofVariable? name value).map Layer.stack

end EnvironmentLayer

end BraceBalance
