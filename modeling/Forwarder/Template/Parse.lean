import Forwarder.Template

/-!
# Template texts

The written form of templates. Tags stand between double braces: the name of a field, `this` for
the value itself, and pairs of opening and closing tags around conditional and repeated parts,
`#if` and `#each` with the name of a field. A tilde at the inner edge of a tag takes away the blanks
on that side of it. All else is text.
-/

namespace Forwarder

/-- A tag, or the text between tags. -/
inductive TemplateToken where
  /-- Text. -/
  | text (content : List Char)
  /-- A tag, without its braces. -/
  | tag (content : List Char)
  deriving DecidableEq, Repr

namespace Template

/-- The character that a tag begins with, twice. -/
def openBrace : Char := '\x7b'

/-- The character that a tag ends with, twice. -/
def closeBrace : Char := '\x7d'

/-- Whether a character is blank. -/
def isBlank (c : Char) : Bool := c = ' ' || c = '\t' || c = '\n' || c = '\r'

/-- A token put before others; no empty text is kept. -/
def consText (reversed : List Char) (tokens : List TemplateToken) : List TemplateToken :=
  if reversed.isEmpty then tokens else .text reversed.reverse :: tokens

/-- Cuts a template text into tokens. `tag` says whether the characters read so far, in reverse,
belong to a tag. -/
def tokens (tag : Bool) (reversed : List Char) : List Char → Option (List TemplateToken)
  | [] => if tag then none else some (consText reversed [])
  | [c] => if tag then none else some (consText (c :: reversed) [])
  | c :: d :: rest =>
    if tag then
      if c = closeBrace && d = closeBrace then
        (tokens false [] rest).map (.tag reversed.reverse :: ·)
      else tokens true (c :: reversed) (d :: rest)
    else if c = openBrace && d = openBrace then
      (tokens true [] rest).map (consText reversed)
    else tokens false (c :: reversed) (d :: rest)

/-- Whether a character may stand in the name of a field. -/
def isNameChar (c : Char) : Bool :=
  c.isAlphanum || c = '_' || c = '-' || 0x80 ≤ c.toNat

/-- A text without the blanks at its beginning. -/
def trimStart (text : List Char) : List Char := text.dropWhile isBlank

/-- A text without the blanks at its end. -/
def trimEnd (text : List Char) : List Char := (trimStart text.reverse).reverse

/-- The name of a field, blanks around it put aside. -/
def name? (text : List Char) : Option String :=
  let text := trimEnd (trimStart text)
  if !text.isEmpty && text.all isNameChar then some (String.ofList text) else none

/-- What a tag says. -/
inductive TagMeaning where
  /-- Fill in a part. -/
  | part (part : TemplatePart)
  /-- A conditional part begins. -/
  | beginWhen (name : String)
  /-- A repeated part begins. -/
  | beginEach (name : String)
  /-- A conditional part ends. -/
  | endWhen
  /-- A repeated part ends. -/
  | endEach

/-- What a tag without tildes says. -/
def meaning? (content : List Char) : Option TagMeaning :=
  match trimStart content with
  | '#' :: 'i' :: 'f' :: ' ' :: name => (name? name).map .beginWhen
  | '#' :: 'e' :: 'a' :: 'c' :: 'h' :: ' ' :: name => (name? name).map .beginEach
  | '/' :: closing =>
    match String.ofList (trimEnd closing) with
    | "if" => some .endWhen
    | "each" => some .endEach
    | _ => none
  | name =>
    (name? name).map fun name => .part (if name = "this" then .this else .field name)

/-- Whether a tag begins with a tilde, the tag without its tildes, and whether it ends with one. -/
def tildes (content : List Char) : Bool × List Char × Bool :=
  let (before, content) := match content with
    | '~' :: rest => (true, rest)
    | _ => (false, content)
  match content.reverse with
  | '~' :: reversed => (before, reversed.reverse, true)
  | _ => (before, content, false)

/-- Takes the blanks away that tildes reach. `trim` says whether the tag before ended with one. -/
def trimBlanks (trim : Bool) : List TemplateToken → List TemplateToken
  | [] => []
  | .tag content :: rest =>
    let (_, inner, after) := tildes content
    .tag inner :: trimBlanks after rest
  | .text content :: rest =>
    let content := if trim then trimStart content else content
    let before := match rest with
      | .tag next :: _ => (tildes next).1
      | _ => false
    .text (if before then trimEnd content else content) :: trimBlanks false rest

/-- A part that has begun and not yet ended: whether it is repeated, the name of its field, and the
parts before it in reverse. -/
structure OpenPart where
  /-- Whether it is repeated. -/
  repeats : Bool
  /-- The name of its field. -/
  name : String
  /-- The parts before it, in reverse. -/
  before : Template

/-- Builds a template from tokens, with the parts of the innermost open part in reverse. -/
def build (opened : List OpenPart) (reversed : Template) : List TemplateToken → Option Template
  | [] => if opened.isEmpty then some reversed.reverse else none
  | .text content :: rest =>
    build opened (if content.isEmpty then reversed else .text (String.ofList content) :: reversed)
      rest
  | .tag content :: rest =>
    match meaning? content with
    | none => none
    | some (.part part) => build opened (part :: reversed) rest
    | some (.beginWhen name) => build (⟨false, name, reversed⟩ :: opened) [] rest
    | some (.beginEach name) => build (⟨true, name, reversed⟩ :: opened) [] rest
    | some .endWhen =>
      match opened with
      | ⟨false, name, before⟩ :: opened => build opened (.when name reversed.reverse :: before) rest
      | _ => none
    | some .endEach =>
      match opened with
      | ⟨true, name, before⟩ :: opened => build opened (.each name reversed.reverse :: before) rest
      | _ => none

/-- The template that a text is the written form of. -/
def parse? (text : String) : Option Template := do
  let tokens ← tokens false [] text.toList
  build [] [] (trimBlanks false tokens)

end Template

/-- Puts the template of a text into a library. -/
def TemplateLibrary.register (library : TemplateLibrary) (name text : String) :
    Except Failure TemplateLibrary :=
  match Template.parse? text with
  | some template => .ok (library.insert name template)
  | none => .error (.template name "Failed to register template")

end Forwarder
