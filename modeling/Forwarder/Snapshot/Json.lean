import Forwarder.Snapshot
import Forwarder.TypeExpr.Json

/-!
# Snapshots as JSON

How the parts of a snapshot are read and written. Every field is written; most may be left out on
reading. Members of interfaces are alternatives whose tag is their kind.
-/

namespace Forwarder

open Json

/-! ## Locations -/

/-- Reads a location. -/
def Location.reader : Reader Location := fun access value => do
  match ← readSlots ["file", "line", "column"] access value with
  | (inside, [file, line, column]) =>
    let file ← file.required readString inside
    let line ← line.required readUInt32 inside
    let column ← column.required readUInt32 inside
    return { file, line, column }
  | _ => none

/-- The JSON form of a location. -/
def Location.toJson (location : Location) : Json :=
  .object [("file", .string location.file), ("line", nat location.line.toNat),
    ("column", nat location.column.toNat)]

/-! ## Methods -/

/-- The passing modes of parameters of declarations, by name. -/
def declaredPassing : List (String × PassingMode) :=
  [("none", .value), ("ref", .reference), ("out", .output), ("in", .input)]

/-- The name of a passing mode at a declaration. -/
def PassingMode.declaredName : PassingMode → String
  | .value => "none"
  | .reference => "ref"
  | .output => "out"
  | .input => "in"

/-- Reads a parameter. -/
def ParameterDecl.reader : Reader ParameterDecl := fun access value => do
  match ← readSlots ["name", "type", "ref_kind", "is_params"] access value with
  | (inside, [name, type, passing, isVariadic]) =>
    let name ← name.required readString inside
    let type ← type.required TypeExpr.reader inside
    let passing ← passing.withDefault (readChoice declaredPassing) .value inside
    let isVariadic ← isVariadic.withDefault readBool false inside
    return { name, type, passing, isVariadic }
  | _ => none

/-- The JSON form of a parameter. -/
def ParameterDecl.toJson (parameter : ParameterDecl) : Json :=
  .object [("name", .string parameter.name), ("type", parameter.type.toJson),
    ("ref_kind", .string parameter.passing.declaredName), ("is_params", .bool parameter.isVariadic)]

/-- The fields of a method. -/
def MethodDecl.fieldNames : List String :=
  ["name", "type_parameters", "parameters", "return_type", "has_implementation_part"]

/-- Reads a method. -/
def MethodDecl.reader : Reader MethodDecl := fun access value => do
  match ← readSlots fieldNames access value with
  | (inside, [name, typeParameters, parameters, returnType, implemented]) =>
    let name ← name.required readString inside
    let typeParameters ← typeParameters.withDefault (readList readString) [] inside
    let parameters ← parameters.withDefault (readList ParameterDecl.reader) [] inside
    let returnType ← returnType.withDefault TypeExpr.reader .void inside
    let implemented ← implemented.withDefault readBool false inside
    return { name, typeParameters, parameters, returnType, implemented }
  | _ => none

/-- The fields of a method with their values. -/
def MethodDecl.fields (method : MethodDecl) : List (String × Json) :=
  [("name", .string method.name), ("type_parameters", strings method.typeParameters),
    ("parameters", .array (method.parameters.map (·.toJson))),
    ("return_type", method.returnType.toJson),
    ("has_implementation_part", .bool method.implemented)]

/-- The JSON form of a method on its own. -/
def MethodDecl.toJson (method : MethodDecl) : Json := .object method.fields

/-! ## Interfaces -/

/-- The kinds of members. -/
def MemberDecl.kinds : List String := ["method", "property", "event"]

/-- Reads the name and the type of a property or an event. -/
def MemberDecl.readTyped (make : String → TypeExpr → MemberDecl) (content : Json) :
    Option MemberDecl := do
  match ← readSlots ["name", "type"] .held content with
  | (inside, [name, type]) =>
    let name ← name.required readString inside
    let type ← type.required TypeExpr.reader inside
    return make name type
  | _ => none

/-- Reads a member. -/
def MemberDecl.reader : Reader MemberDecl := fun access value => do
  let (kind, content) ← readTagged "member" kinds access value
  match kind with
  | 0 => (MethodDecl.reader .held content).map .method
  | 1 => readTyped .property content
  | _ => readTyped .event content

/-- The JSON form of a member. -/
def MemberDecl.toJson : MemberDecl → Json
  | .method declared => .object (("member", .string "method") :: declared.fields)
  | .property name type =>
    .object [("member", .string "property"), ("name", .string name), ("type", type.toJson)]
  | .event name type =>
    .object [("member", .string "event"), ("name", .string name), ("type", type.toJson)]

/-- The fields of an interface. -/
def InterfaceDecl.fieldNames : List String :=
  ["namespace", "containing_types", "name", "type_parameters", "members"]

/-- Reads an interface. -/
def InterfaceDecl.reader : Reader InterfaceDecl := fun access value => do
  match ← readSlots fieldNames access value with
  | (inside, [scope, containers, name, typeParameters, members]) =>
    let scope ← readScope scope inside
    let containers ← containers.withDefault (readList readString) [] inside
    let name ← name.required readString inside
    let typeParameters ← typeParameters.withDefault (readList readString) [] inside
    let members ← members.withDefault (readList MemberDecl.reader) [] inside
    return { head := ⟨scope, containers, name⟩, typeParameters, members }
  | _ => none

/-- The JSON form of an interface. -/
def InterfaceDecl.toJson (interface : InterfaceDecl) : Json :=
  .object [("namespace", optionalString interface.head.scope),
    ("containing_types", strings interface.head.containers),
    ("name", .string interface.head.name),
    ("type_parameters", strings interface.typeParameters),
    ("members", .array (interface.members.map (·.toJson)))]

/-! ## Candidate types -/

/-- The kinds of candidate types, by name. -/
def TypeForm.choices : List (String × TypeForm) :=
  [("class", .reference), ("struct", .value), ("error", .unresolved)]

/-- The name of a kind. -/
def TypeForm.name : TypeForm → String
  | .reference => "class"
  | .value => "struct"
  | .unresolved => "error"

/-- The fields of a candidate type. -/
def TypeDecl.fieldNames : List String :=
  ["namespace", "name", "kind", "attributes", "interfaces", "methods", "location"]

/-- Reads a candidate type. -/
def TypeDecl.reader : Reader TypeDecl := fun access value => do
  match ← readSlots fieldNames access value with
  | (inside, [scope, name, kind, attributes, interfaces, methods, location]) =>
    let scope ← readScope scope inside
    let name ← name.required readString inside
    let kind ← kind.withDefault (readChoice TypeForm.choices) .reference inside
    let attributes ← attributes.withDefault (readList readString) [] inside
    let interfaces ← interfaces.withDefault (readList TypeExpr.reader) [] inside
    let methods ← methods.withDefault (readList MethodDecl.reader) [] inside
    let location ← location.withDefault Location.reader .unknown inside
    return { scope, name, kind, attributes, interfaces, methods, location }
  | _ => none

/-- The JSON form of a candidate type. -/
def TypeDecl.toJson (type : TypeDecl) : Json :=
  .object [("namespace", optionalString type.scope), ("name", .string type.name),
    ("kind", .string type.kind.name), ("attributes", strings type.attributes),
    ("interfaces", .array (type.interfaces.map (·.toJson))),
    ("methods", .array (type.methods.map (·.toJson))), ("location", type.location.toJson)]

/-! ## Snapshots -/

/-- Reads a snapshot. -/
def Snapshot.reader : Reader Snapshot := fun access value => do
  match ← readSlots ["types", "interfaces"] access value with
  | (inside, [types, interfaces]) =>
    let types ← types.withDefault (readList TypeDecl.reader) [] inside
    let interfaces ← interfaces.withDefault (readList InterfaceDecl.reader) [] inside
    return { types, interfaces }
  | _ => none

/-- The JSON form of a snapshot. -/
def Snapshot.toJson (snapshot : Snapshot) : Json :=
  .object [("types", .array (snapshot.types.map (·.toJson))),
    ("interfaces", .array (snapshot.interfaces.map (·.toJson)))]

end Forwarder
