/-!
# Stored values

Snapshots, pending requests and scripts are stored as values of one shape: nothing, a truth value, a
number, a text, a list, or a record of named fields. A number that is not an integer is kept apart,
since nothing stored ever needs one.

* `Value` — a stored value.
* `Stored` — a type whose elements are written as values and read back.
* `Value.field`, `Value.option`, `Value.variant` — reading records and alternatives.

A record may have fields that nobody asks for. An alternative is written as its bare name or, with
data, as a record of one field, which has its name and holds its data.
-/

namespace SoloDuel

/-- A stored value. -/
inductive Value where
  | null
  | bool (b : Bool)
  | int (n : Int)
  /-- A number that is not an integer. -/
  | fraction
  | text (t : String)
  | list (items : List Value)
  | record (fields : List (String × Value))
  deriving Inhabited

/-- A type whose elements are written as values and read back. -/
class Stored (α : Type) where
  /-- Writes an element. -/
  encode : α → Value
  /-- Reads an element; any value that is not one is refused. -/
  decode : Value → Option α

export Stored (encode decode)

namespace Value

variable {α : Type}

/-- Looks a field up in a record. -/
def find? (v : Value) (name : String) : Option Value :=
  match v with
  | record fields => fields.lookup name
  | _ => none

/-- Reads a field that has to be there. -/
def field [Stored α] (v : Value) (name : String) : Option α := v.find? name >>= decode

/-- Reads a field that may be missing. -/
def fieldD [Stored α] (v : Value) (name : String) (default : α) : Option α :=
  match v.find? name with
  | some x => decode x
  | none => some default

/-- Reads a field that may be missing or null. -/
def option [Stored α] (v : Value) (name : String) : Option (Option α) :=
  match v.find? name with
  | some null => some none
  | some x => (decode x).map some
  | none => some none

/-- The name of an alternative and its data; a bare name has null for data. -/
def variant : Value → Option (String × Value)
  | text name => some (name, null)
  | record [(name, data)] => some (name, data)
  | _ => none

/-- Whether a value is a record. -/
def isRecord : Value → Bool
  | record _ => true
  | _ => false

/-- Reads one of several names, each of which stands for an element. -/
def oneOf (table : List (String × α)) (v : Value) : Option α :=
  match v.variant with
  | some (name, null) => table.lookup name
  | _ => none

/-- Writes an alternative with data. -/
def tagged (name : String) (data : Value) : Value := record [(name, data)]

end Value

/-! ## Plain data -/

instance : Stored Bool where
  encode := .bool
  decode
    | .bool b => some b
    | _ => none

instance : Stored String where
  encode := .text
  decode
    | .text t => some t
    | _ => none

instance : Stored Nat where
  encode n := .int n
  decode
    | .int (.ofNat n) => some n
    | _ => none

instance : Stored UInt8 where
  encode n := .int n.toNat
  decode
    | .int (.ofNat n) => if n < UInt8.size then some (.ofNat n) else none
    | _ => none

instance : Stored UInt16 where
  encode n := .int n.toNat
  decode
    | .int (.ofNat n) => if n < UInt16.size then some (.ofNat n) else none
    | _ => none

instance : Stored UInt32 where
  encode n := .int n.toNat
  decode
    | .int (.ofNat n) => if n < UInt32.size then some (.ofNat n) else none
    | _ => none

instance : Stored UInt64 where
  encode n := .int n.toNat
  decode
    | .int (.ofNat n) => if n < UInt64.size then some (.ofNat n) else none
    | _ => none

instance : Stored Int32 where
  encode n := .int n.toInt
  decode
    | .int n =>
      if Int32.minValue.toInt ≤ n ∧ n ≤ Int32.maxValue.toInt then some (.ofInt n) else none
    | _ => none

/-- Only integers that a 64-bit word holds are read. -/
instance : Stored Int where
  encode n := .int n
  decode
    | .int n => if Int64.minValue.toInt ≤ n ∧ n ≤ Int64.maxValue.toInt then some n else none
    | _ => none

instance : Stored Int64 where
  encode n := .int n.toInt
  decode
    | .int n =>
      if Int64.minValue.toInt ≤ n ∧ n ≤ Int64.maxValue.toInt then some (.ofInt n) else none
    | _ => none

/-! ## Structured data -/

variable {α β : Type}

instance [Stored α] : Stored (Option α) where
  encode
    | some a => encode a
    | none => .null
  decode
    | .null => some none
    | v => (decode v).map some

instance [Stored α] : Stored (List α) where
  encode xs := .list (xs.map encode)
  decode
    | .list items => items.mapM decode
    | _ => none

instance [Stored α] [Stored β] : Stored (α × β) where
  encode p := .list [encode p.1, encode p.2]
  decode
    | .list [a, b] => do return (← decode a, ← decode b)
    | _ => none

end SoloDuel
