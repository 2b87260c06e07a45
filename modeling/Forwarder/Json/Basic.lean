/-!
# JSON values

The tree that a JSON text stands for. An object keeps its fields in the order written, repeated
names included, because whether an order or a repetition matters is for the reader of the value to
say.

A text may hold a part that is well formed and yet denotes nothing: a string whose surrogate escape
has no partner, a number beyond the range of doubles, or an object with such a string as a name.
Such a part is `illegible`. It does no harm where it is skipped, and cannot be read.
-/

namespace Forwarder

namespace Json

/-- A number: an integer that fits 64 bits, signed or unsigned, or else a double, by its bits. -/
inductive Number where
  /-- An integer from `-2^63` to `2^64 - 1`. -/
  | integer (value : Int)
  /-- An IEEE double, given by its bits. -/
  | double (bits : UInt64)
  deriving DecidableEq, Repr, Inhabited

end Json

/-- A JSON value. -/
inductive Json where
  /-- The value `null`. -/
  | null
  /-- A truth value. -/
  | bool (value : Bool)
  /-- A number. -/
  | number (value : Json.Number)
  /-- A string. -/
  | string (text : String)
  /-- An array. -/
  | array (items : List Json)
  /-- An object, its fields in the order written. -/
  | object (fields : List (String × Json))
  /-- A well-formed part that denotes no value. -/
  | illegible
  deriving Inhabited, Repr

namespace Json

/-- A natural number as a JSON value. -/
def nat (n : Nat) : Json := .number (.integer n)

/-- A text that may be absent, written as `null` when it is. -/
def optionalString : Option String → Json
  | none => .null
  | some text => .string text

/-- A list of texts. -/
def strings (texts : List String) : Json := .array (texts.map .string)

/-- The value of the first field with a given name. -/
def field? (name : String) : Json → Option Json
  | .object fields => fields.lookup name
  | _ => none

mutual

/-- How deep arrays and objects are nested in a value; a value that is neither has depth zero. -/
def depth : Json → Nat
  | .array items => depthOfItems items + 1
  | .object fields => depthOfFields fields + 1
  | _ => 0

/-- The greatest depth among the items of an array. -/
def depthOfItems : List Json → Nat
  | [] => 0
  | item :: rest => max item.depth (depthOfItems rest)

/-- The greatest depth among the values of an object. -/
def depthOfFields : List (String × Json) → Nat
  | [] => 0
  | (_, value) :: rest => max value.depth (depthOfFields rest)

end

mutual

/-- Whether every part of a value denotes something. -/
def isLegible : Json → Bool
  | .illegible => false
  | .array items => itemsLegible items
  | .object fields => fieldsLegible fields
  | _ => true

/-- Whether every item of an array is legible. -/
def itemsLegible : List Json → Bool
  | [] => true
  | item :: rest => item.isLegible && itemsLegible rest

/-- Whether every value of an object is legible. -/
def fieldsLegible : List (String × Json) → Bool
  | [] => true
  | (_, value) :: rest => value.isLegible && fieldsLegible rest

end

/-! ## Objects as maps -/

/-- Puts a field into a list of fields sorted by name, in place of one of the same name. -/
def insertField (name : String) (value : Json) : List (String × Json) → List (String × Json)
  | [] => [(name, value)]
  | (other, held) :: rest =>
    if name < other then (name, value) :: (other, held) :: rest
    else if name = other then (name, value) :: rest
    else (other, held) :: insertField name value rest

/-- The fields sorted by name; of fields with one name the last one written counts. -/
def sortFields (fields : List (String × Json)) : List (String × Json) :=
  fields.foldl (fun sorted field => insertField field.1 field.2 sorted) []

mutual

/-- The value with the fields of every object in it sorted by name. -/
def sorted : Json → Json
  | .array items => .array (sortedItems items)
  | .object fields => .object (sortFields (sortedValues fields))
  | other => other

/-- Every item of an array with its objects sorted. -/
def sortedItems : List Json → List Json
  | [] => []
  | item :: rest => item.sorted :: sortedItems rest

/-- The fields of an object, in their order, with sorted objects inside their values. -/
def sortedValues : List (String × Json) → List (String × Json)
  | [] => []
  | (name, value) :: rest => (name, value.sorted) :: sortedValues rest

end

end Json

end Forwarder
