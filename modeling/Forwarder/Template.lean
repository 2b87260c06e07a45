import Forwarder.Failure
import Forwarder.Json.Number

/-!
# Templates

A template is plain text with fields, conditional parts and repeated parts, filled in from a JSON
value. Filling is strict: a field that the value does not have is a failure, and so is a repetition
over something that is no list. Only the condition of a conditional part may be missing. Inside a
repetition the item alone is looked at, not what is around it. What is filled in is copied as it
stands and not looked at again.
-/

namespace Forwarder

/-- One part of a template. -/
inductive TemplatePart where
  /-- Text that is copied. -/
  | text (content : String)
  /-- The value of a field. -/
  | field (name : String)
  /-- The value itself. -/
  | this
  /-- Parts that count only if a field is there and not empty. -/
  | when (name : String) (body : List TemplatePart)
  /-- Parts that are repeated for every item of a field. -/
  | each (name : String) (body : List TemplatePart)
  deriving Repr, Inhabited

/-- A template. -/
abbrev Template := List TemplatePart

namespace Json

mutual

/-- The text of a value where it is filled in. -/
def filled : Json → String
  | .string text => text
  | .bool true => "true"
  | .bool false => "false"
  | .number value => String.ofList value.text
  | .array items => "[" ++ ", ".intercalate (filledItems items) ++ "]"
  | .object _ => "[object]"
  | .null | .illegible => ""

/-- The texts of the items of an array. -/
def filledItems : List Json → List String
  | [] => []
  | item :: rest => item.filled :: filledItems rest

end

/-- Whether a number is zero, of whichever sign. -/
def Number.isZero : Number → Bool
  | .integer value => value = 0
  | .double bits => bits.toNat % Nat.pow 2 63 = 0

/-- Whether a value fulfils a condition: it is there, not empty, not zero and not false. -/
def fulfils : Json → Bool
  | .null | .illegible => false
  | .bool value => value
  | .number value => !value.isZero
  | .string text => text ≠ ""
  | .array items => !items.isEmpty
  | .object fields => !fields.isEmpty

/-- What a repetition over a value runs through: the items of an array, or the values of an object
in the order of their names. -/
def repeated? : Json → Option (List Json)
  | .array items => some items
  | .object fields => some ((sortFields fields).map (·.2))
  | _ => none

end Json

mutual

/-- Fills a part of a template from a value; nothing comes of it if something is missing. -/
def TemplatePart.fill (context : Json) : TemplatePart → Option String
  | .text content => some content
  | .field name => (context.field? name).map (·.filled)
  | .this => some context.filled
  | .when name body =>
    if ((context.field? name).elim false (·.fulfils)) then fillAll context body else some ""
  | .each name body => do
    let items ← (← context.field? name).repeated?
    let texts ← items.mapM fun item => fillAll item body
    return String.join texts

/-- Fills several parts from the same value. -/
def fillAll (context : Json) : List TemplatePart → Option String
  | [] => some ""
  | part :: rest => do
    let first ← part.fill context
    let others ← fillAll context rest
    return first ++ others

end

/-! ## Libraries -/

/-- Templates by name; of two with one name the first counts. -/
structure TemplateLibrary where
  /-- The templates with their names. -/
  entries : List (String × Template)

namespace TemplateLibrary

/-- The template of a name. -/
def find? (library : TemplateLibrary) (name : String) : Option Template :=
  library.entries.lookup name

/-- Puts a template in, ahead of any other of the same name. -/
def insert (library : TemplateLibrary) (name : String) (template : Template) : TemplateLibrary :=
  ⟨(name, template) :: library.entries⟩

/-- Fills the template of a name from a value. -/
def render (library : TemplateLibrary) (name : String) (context : Json) : Except Failure String :=
  match (library.find? name).bind (fillAll context) with
  | some text => .ok text
  | none => .error (.template name "Template rendering failed")

end TemplateLibrary

end Forwarder
