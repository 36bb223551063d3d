/-!
# Listings of values

A listing shows a value by the name of its type and the values of its fields.
-/

namespace Lettering.Listing

/-- A structure with its fields. -/
def record (name : String) (fields : List (String × String)) : String :=
  name ++ " \x7b " ++ ", ".intercalate (fields.map fun (field, value) => field ++ ": " ++ value) ++
    " \x7d"

/-- A value that wraps another one. -/
def wrap (name value : String) : String := name ++ "(" ++ value ++ ")"

/-- A value that may be missing. -/
def option : Option String → String
  | none => "None"
  | some value => wrap "Some" value

end Lettering.Listing
