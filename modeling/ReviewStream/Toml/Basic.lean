import ReviewStream.Json.Basic

/-!
# TOML values

The values of a TOML document.  A table remembers how it came about, because that decides how it
may be extended.

* `Toml`: the values; moments and floating point numbers keep their text.
* `Toml.toJson`: the data of a value, in the form in which typed readers take it.
-/

namespace ReviewStream

/-- How a table came about. -/
inductive Toml.Origin where
  /-- By a header of its own, or as the root. -/
  | header
  /-- As a parent in the header of another table. -/
  | parent
  /-- By a dotted key. -/
  | dotted
  /-- Between braces. -/
  | braces
deriving DecidableEq

/-- A TOML value. -/
inductive Toml where
  | text (s : String)
  | integer (i : Int)
  | real (literal : String)
  | bool (b : Bool)
  | moment (literal : String)
  | array (items : List Toml)
  | table (origin : Toml.Origin) (members : List (String × Toml))
  /-- Tables under a repeated header. -/
  | tables (items : List Toml)

namespace Toml

/-- The key under which the text of a moment appears in its data. -/
def momentKey : String := "$__toml_private_datetime"

mutual

/-- The data of a value.  A floating point number is never the right data, so that all of them are
represented by zero; a moment is an object with one private key. -/
def toJson : Toml → Json
  | .text s => .text s
  | .integer i => .int i
  | .real _ => .number (.real .zero)
  | .bool b => .bool b
  | .moment literal => .object [(momentKey, .text literal)]
  | .array items => .list (itemsToJson items)
  | .table _ members => .object (Json.sortMembers (membersToJson members))
  | .tables items => .list (itemsToJson items)

/-- The data of some items. -/
def itemsToJson : List Toml → List Json
  | [] => []
  | v :: vs => v.toJson :: itemsToJson vs

/-- The data of some members. -/
def membersToJson : List (String × Toml) → List (String × Json)
  | [] => []
  | (k, v) :: rest => (k, v.toJson) :: membersToJson rest

end

end Toml

end ReviewStream
