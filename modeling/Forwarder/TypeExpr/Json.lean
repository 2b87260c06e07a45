import Forwarder.Json.Decode
import Forwarder.TypeExpr

/-!
# Type expressions as JSON

A reference is an alternative whose tag is its kind. Namespaces are normalised as they are read.
-/

namespace Forwarder

open Json Text

/-- Reads a namespace that may be absent, and normalises it. -/
def readScope (slot : Slot) (access : Access) : Option (Option String) :=
  (slot.withDefault (readOptional readString) none access).map normalizeScope

namespace TypeExpr

/-- The kinds of references. -/
def kinds : List String :=
  ["void", "named", "type_parameter", "array", "pointer", "nullable", "error"]

/-- The fields of a named type. -/
def namedFields : List String := ["namespace", "containing_types", "name", "type_arguments"]

/-- Reads a named type, given how its arguments are read. -/
def readNamed (argument : Reader TypeExpr) : Reader ConstructedType := fun access value => do
  match ← readSlots namedFields access value with
  | (inside, [scope, containers, name, arguments]) =>
    let scope ← readScope scope inside
    let containers ← containers.withDefault (readList readString) [] inside
    let name ← name.required readString inside
    let arguments ← arguments.withDefault (readList argument) [] inside
    return ⟨⟨scope, containers, name⟩, arguments⟩
  | _ => none

/-- Reads a single field of an alternative. -/
def readOnly {α : Type} (name : String) (reader : Reader α) (content : Json) : Option α := do
  match ← readSlots [name] .held content with
  | (inside, [slot]) => slot.required reader inside
  | _ => none

/-- Reads an array, given how its element is read. -/
def readArray (element : Reader TypeExpr) (content : Json) : Option TypeExpr := do
  match ← readSlots ["element", "rank"] .held content with
  | (inside, [type, rank]) =>
    let type ← type.required element inside
    let rank ← rank.withDefault readUInt64 1 inside
    return .array type rank
  | _ => none

/-- Reads a reference with at most so many references around one another. -/
def readerWithin : Nat → Reader TypeExpr
  | 0 => fun _ _ => none
  | levels + 1 => fun access value => do
    let (kind, content) ← readTagged "kind" kinds access value
    match kind with
    | 0 => (readNoFields content).map fun _ => .void
    | 1 => (readNamed (readerWithin levels) .held content).map ConstructedType.toExpr
    | 2 => (readOnly "name" readString content).map .parameter
    | 3 => readArray (readerWithin levels) content
    | 4 => (readOnly "pointee" (readerWithin levels) content).map .pointer
    | 5 => (readOnly "underlying" (readerWithin levels) content).map .nullable
    | _ => (readOnly "name" readString content).map .unresolved

/-- Reads a reference. A reference inside another one is also nested more deeply as a value. -/
def reader : Reader TypeExpr := fun access value => readerWithin (value.depth + 1) access value

mutual

/-- The JSON form of a reference. -/
def toJson : TypeExpr → Json
  | .void => .object [("kind", .string "void")]
  | .named head arguments =>
    .object [("kind", .string "named"), ("namespace", optionalString head.scope),
      ("containing_types", strings head.containers), ("name", .string head.name),
      ("type_arguments", .array (allToJson arguments))]
  | .parameter name => .object [("kind", .string "type_parameter"), ("name", .string name)]
  | .array element rank =>
    .object [("kind", .string "array"), ("element", element.toJson), ("rank", nat rank.toNat)]
  | .pointer pointee => .object [("kind", .string "pointer"), ("pointee", pointee.toJson)]
  | .nullable underlying =>
    .object [("kind", .string "nullable"), ("underlying", underlying.toJson)]
  | .unresolved name => .object [("kind", .string "error"), ("name", .string name)]

/-- The JSON forms of several references. -/
def allToJson : List TypeExpr → List Json
  | [] => []
  | argument :: rest => argument.toJson :: allToJson rest

end

end TypeExpr

/-- The JSON form of a named type on its own. -/
def ConstructedType.toJson (type : ConstructedType) : Json :=
  .object [("namespace", optionalString type.head.scope),
    ("containing_types", strings type.head.containers), ("name", .string type.head.name),
    ("type_arguments", .array (TypeExpr.allToJson type.arguments))]

end Forwarder
