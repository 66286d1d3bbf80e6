import SoloDuel.Format.Value
/-!
# Values as JSON text

The JSON text of a stored value, on one line and without blanks. Control characters are written as
escapes and everything beyond them as it is.
-/

namespace SoloDuel.Value

/-- One character inside quotes. -/
def escapeChar (c : Char) : List Char :=
  if c = '"' then ['\\', '"']
  else if c = '\\' then ['\\', '\\']
  else if c.toNat < 32 then
    ['\\', 'u', '0', '0', Nat.digitChar (c.toNat / 16), Nat.digitChar (c.toNat % 16)]
  else [c]

/-- A text in quotes. -/
def quote (t : String) : String := "\"" ++ String.ofList (t.toList.flatMap escapeChar) ++ "\""

mutual

/-- The JSON text of a value. A number that is not an integer has none and is left out as null. -/
def toJson : Value → String
  | null => "null"
  | bool true => "true"
  | bool false => "false"
  | int n => toString n
  | fraction => "null"
  | text t => quote t
  | list items => "[" ++ ",".intercalate (itemsToJson items) ++ "]"
  | record fields => "\x7b" ++ ",".intercalate (fieldsToJson fields) ++ "\x7d"

/-- The JSON texts of the items of a list. -/
def itemsToJson : List Value → List String
  | [] => []
  | v :: rest => v.toJson :: itemsToJson rest

/-- The JSON texts of the fields of a record. -/
def fieldsToJson : List (String × Value) → List String
  | [] => []
  | (name, v) :: rest => (quote name ++ ":" ++ v.toJson) :: fieldsToJson rest

end

end SoloDuel.Value
