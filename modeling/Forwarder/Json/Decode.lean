import Forwarder.Json.Basic

/-!
# Reading structured data from JSON values

A reader takes a value apart into data of some type, or refuses it. Three rules are common to all
readers of the library.

* A record is written as an object, in which unknown names are skipped and a known name stands at
  most once, or as the array of its fields in the order of their declaration, cut short at most by
  fields that have a default.
* An alternative is written as an object with one field, the tag, that names the alternative, or
  as an array whose first item is the tag. Such a value is taken in whole before its tag is looked
  at, so all of it has to be legible.
* Every array or object that is entered takes one of the levels of nesting that are allowed. What
  is skipped takes none.
-/

namespace Forwarder.Json

/-- How a value is at hand: as text that is read along, with the number of levels of nesting that
may still be entered, or held, after a value around it has been taken in whole. -/
inductive Access where
  /-- The value is read along; so many levels may still be entered. -/
  | text (room : Nat)
  /-- The value has been taken in already. -/
  | held
  deriving DecidableEq, Repr

/-- A way to take data from a value. -/
abbrev Reader (α : Type) := Access → Json → Option α

/-- The number of levels of nesting that a text may have. -/
def nestingLimit : Nat := 127

/-- Reads a value that a text stands for. -/
def Reader.run {α : Type} (reader : Reader α) (value : Json) : Option α :=
  reader (.text nestingLimit) value

/-- The access to what is inside an array or object. -/
def Access.enter : Access → Option Access
  | .text 0 => none
  | .text (room + 1) => some (.text room)
  | .held => some .held

/-- Whether a value can be taken in whole. -/
def Access.admits : Access → Json → Bool
  | .text room, value => value.isLegible && value.depth ≤ room
  | .held, _ => true

/-! ## Plain data -/

/-- Reads a string. -/
def readString : Reader String
  | _, .string text => some text
  | _, _ => none

/-- Reads a truth value. -/
def readBool : Reader Bool
  | _, .bool value => some value
  | _, _ => none

/-- Reads a natural number below a bound. -/
def readNatBelow (bound : Nat) : Reader Nat
  | _, .number (.integer value) =>
    if 0 ≤ value ∧ value < bound then some value.toNat else none
  | _, _ => none

/-- Reads an unsigned 32-bit number. -/
def readUInt32 : Reader UInt32 := fun access value =>
  (readNatBelow UInt32.size access value).map Nat.toUInt32

/-- Reads an unsigned 64-bit number. -/
def readUInt64 : Reader UInt64 := fun access value =>
  (readNatBelow UInt64.size access value).map Nat.toUInt64

/-- Reads data that may be `null`. -/
def readOptional {α : Type} (reader : Reader α) : Reader (Option α)
  | _, .null => some none
  | access, value => (reader access value).map some

/-- Reads an array of data of one kind. -/
def readList {α : Type} (reader : Reader α) : Reader (List α)
  | access, .array items => do
    let inside ← access.enter
    items.mapM (reader inside)
  | _, _ => none

/-! ## Records -/

/-- What a record gives for one of its fields. -/
inductive Slot where
  /-- The value that stands for the field. -/
  | given (value : Json)
  /-- An object without the field. -/
  | omitted
  /-- An array that ends before the field. -/
  | cutOff
  deriving Inhabited

/-- The value of a field of an object, unless the object repeats it. -/
def slotOf (fields : List (String × Json)) (name : String) : Option Slot :=
  match fields.filter (·.1 == name) with
  | [] => some .omitted
  | [(_, value)] => some (.given value)
  | _ => none

/-- What the items of an array give for the fields of a record. -/
def positionalSlots : List String → List Json → Option (List Slot)
  | [], [] => some []
  | [], _ :: _ => none
  | _ :: names, [] => (Slot.cutOff :: ·) <$> positionalSlots names []
  | _ :: names, item :: items => (Slot.given item :: ·) <$> positionalSlots names items

/-- What a value gives for the fields of a record, and the access to them. -/
def readSlots (names : List String) (access : Access) :
    Json → Option (Access × List Slot)
  | .object fields => do
    let inside ← access.enter
    let slots ← names.mapM (slotOf fields)
    return (inside, slots)
  | .array items => do
    let inside ← access.enter
    let slots ← positionalSlots names items
    return (inside, slots)
  | _ => none

/-- Whether an object has no names but those of a record. -/
def onlyNames (names : List String) : Json → Bool
  | .object fields => fields.all (names.contains ·.1)
  | _ => true

/-- Reads a field that has to be there. -/
def Slot.required {α : Type} (reader : Reader α) (access : Access) : Slot → Option α
  | .given value => reader access value
  | _ => none

/-- Reads a field that has a default. -/
def Slot.withDefault {α : Type} (reader : Reader α) (fallback : α) (access : Access) :
    Slot → Option α
  | .given value => reader access value
  | _ => some fallback

/-- Reads a field that may be `null`, and that an object may leave out. -/
def Slot.optional {α : Type} (reader : Reader α) (access : Access) : Slot → Option (Option α)
  | .given value => readOptional reader access value
  | .omitted => some none
  | .cutOff => none

/-! ## Alternatives -/

/-- The position of a name in a list of names. -/
def positionOf (name : String) (names : List String) : Option Nat :=
  names.findIdx? (· == name)

/-- Reads the tag of an alternative: its name or, in a value that is held, its position. -/
def readTag (names : List String) : Access → Json → Option Nat
  | _, .string name => positionOf name names
  | .held, .number (.integer position) =>
    if 0 ≤ position ∧ position < names.length then some position.toNat else none
  | _, _ => none

/-- Takes an alternative in whole: the position of its name in a list, and the rest of the value
without the tag. -/
def readTagged (tag : String) (names : List String) (access : Access) (value : Json) :
    Option (Nat × Json) :=
  if access.admits value then
    match value with
    | .object fields =>
      match fields.filter (·.1 == tag) with
      | [(_, name)] => do
        let position ← readTag names access name
        return (position, .object (fields.filter (·.1 != tag)))
      | _ => none
    | .array (name :: items) => do
      let position ← readTag names access name
      return (position, .array items)
    | _ => none
  else none

/-- Reads an alternative without fields of its own: an object with whatever names, or an array with
no further items. -/
def readNoFields : Json → Option Unit
  | .object _ => some ()
  | .array [] => some ()
  | _ => none

/-- Whether a value stands for the absence of data inside an alternative. -/
def isUnit : Access → Json → Bool
  | _, .null => true
  | .held, .object [] => true
  | _, _ => false

/-- Reads one of several names: written as such, or as an object with the name as its only field
and no data in it. -/
def readChoice {α : Type} (choices : List (String × α)) : Reader α
  | _, .string name => choices.lookup name
  | access, .object [(name, value)] => do
    let inside ← access.enter
    if isUnit inside value then choices.lookup name else none
  | _, _ => none

end Forwarder.Json
