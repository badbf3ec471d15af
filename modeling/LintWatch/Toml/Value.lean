import LintWatch.Json.Value

/-! TOML values, and the document shape a settings reader sees them in. A date or time is
kept as its text; a reader that expects a record sees it as a record with one private
member, and every other reader refuses it. -/
namespace LintWatch.Toml

inductive Value where
  | str (s : String)
  | int (i : Int)
  | float (x : Float)
  | bool (b : Bool)
  | datetime (text : String)
  | arr (items : List Value)
  | table (fields : List (String × Value))
  deriving Inhabited

/-- The member name under which a date or time shows up to a record reader. -/
def datetimeField : String := "$__toml_private_datetime"

mutual
/-- The value as a JSON-shaped document. -/
def Value.toJson : Value → Json
  | .str s => .str s
  | .int i => .int i
  | .float x => .float x
  | .bool b => .bool b
  | .datetime text => .obj [(datetimeField, .str text)]
  | .arr items => .arr (itemsToJson items)
  | .table fields => .obj (fieldsToJson fields)

def itemsToJson : List Value → List Json
  | [] => []
  | v :: vs => v.toJson :: itemsToJson vs

def fieldsToJson : List (String × Value) → List (String × Json)
  | [] => []
  | (k, v) :: fs => (k, v.toJson) :: fieldsToJson fs
end

end LintWatch.Toml
