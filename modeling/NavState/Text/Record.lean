namespace NavState.Text

/-!
# Records and sequences in text

Diagnostic texts name a record and list its fields between braces; sequences
stand between brackets.
-/

/-- A named record with its fields in order. -/
def record (name : String) (fields : List (String × String)) : String :=
  name ++ " \x7b " ++
    ", ".intercalate (fields.map fun field => field.1 ++ ": " ++ field.2) ++
    " \x7d"

/-- Items between brackets. -/
def sequence (items : List String) : String :=
  "[" ++ ", ".intercalate items ++ "]"

/-- A truth value in lower case. -/
def truth : Bool → String
  | true => "true"
  | false => "false"

end NavState.Text
