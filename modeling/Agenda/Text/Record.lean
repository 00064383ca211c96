/-!
Values in the debug form of records: the title, and the fields by name between braces.
-/

namespace Agenda.Text

def record (title : String) (fields : List (String × String)) : String :=
  title ++ " \x7b " ++ ", ".intercalate (fields.map fun (name, value) => name ++ ": " ++ value)
    ++ " \x7d"

def truth (value : Bool) : String :=
  if value then "true" else "false"

def optional : Option String → String
  | none => "None"
  | some value => "Some(" ++ value ++ ")"

def pair (first second : String) : String :=
  "(" ++ first ++ ", " ++ second ++ ")"

example : record "Point" [("x", "1"), ("y", "2")] = "Point \x7b x: 1, y: 2 \x7d" := by
  decide +kernel

end Agenda.Text
