import ManifestLint.Json.Basic

/-!
# Values of settings files

Numbers and dates are checked when they are read, but no setting is a number or a date, so their
text is all that is kept.
-/
namespace ManifestLint.Toml

/-- A value of a settings file. -/
inductive Value where
  | string (value : String)
  | integer (text : String)
  | float (text : String)
  | boolean (value : Bool)
  | datetime (text : String)
  | array (items : List Value)
  | table (entries : List (String × Value))
  deriving Repr, Inhabited

mutual

/-- The JSON value that stands for a value. A number stands for nothing a setting can be read from;
a date is an object without any member that a setting is read from. -/
def Value.toJson : Value → Json
  | .string s => .str s
  | .boolean b => .bool b
  | .array items => .arr (itemsToJson items)
  | .table entries => .obj (entriesToJson entries)
  | .integer _ | .float _ => .unreadable
  | .datetime text => .obj [("datetime", .str text)]

/-- The JSON values of the items of an array. -/
def itemsToJson : List Value → List Json
  | [] => []
  | x :: xs => x.toJson :: itemsToJson xs

/-- The JSON members of the entries of a table. -/
def entriesToJson : List (String × Value) → List (String × Json)
  | [] => []
  | (name, x) :: xs => (name, x.toJson) :: entriesToJson xs

end

end ManifestLint.Toml
