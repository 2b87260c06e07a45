import Forwarder.Json.Number
import Forwarder.Json.StringLiteral

/-!
# Reading JSON texts

From a text to the value it stands for, by the strict grammar: four blank characters, no comments,
no trailing commas, no leading zeros, and nothing but blanks after the value. How deep a value may
be nested is not asked here but where the value is put to use.

The scanners for numbers and strings recurse on the characters. Arrays and objects recurse with a
fuel that the number of characters bounds, since every value, item and field takes at least one.
-/

namespace Forwarder.Json

/-- Whether a character may stand between the tokens of a text. -/
def isBlank (c : Char) : Bool := c = ' ' || c = '\t' || c = '\n' || c = '\r'

/-- Drops the blanks at the beginning of a text. -/
def skipBlanks (text : List Char) : List Char := text.dropWhile isBlank

/-! ## Numbers -/

/-- The value of a decimal digit. -/
def decimalDigit? (c : Char) : Option Nat :=
  if '0' ≤ c && c ≤ '9' then some (c.toNat - '0'.toNat) else none

/-- Takes the decimal digits at the beginning of a text. -/
def scanDigits : List Char → List Nat × List Char
  | [] => ([], [])
  | c :: rest =>
    match decimalDigit? c with
    | none => ([], c :: rest)
    | some digit =>
      let (digits, rest) := scanDigits rest
      (digit :: digits, rest)

/-- Takes at least one decimal digit. -/
def scanSomeDigits (text : List Char) : Option (List Nat × List Char) :=
  match scanDigits text with
  | ([], _) => none
  | scanned => some scanned

/-- Takes the whole part of a number: a single zero, or digits that begin with another one. -/
def scanWhole : List Char → Option (List Nat × List Char)
  | '0' :: rest =>
    match scanDigits rest with
    | ([], rest) => some ([0], rest)
    | _ => none
  | text => scanSomeDigits text

/-- Takes the fraction of a number, if there is one. -/
def scanFraction : List Char → Option (List Nat × List Char)
  | '.' :: rest => scanSomeDigits rest
  | text => some ([], text)

/-- Takes the sign and the digits of an exponent, from behind its letter on. -/
def scanPower : List Char → Option ((Bool × List Nat) × List Char)
  | '-' :: rest => do
    let (digits, rest) ← scanSomeDigits rest
    return ((true, digits), rest)
  | '+' :: rest => do
    let (digits, rest) ← scanSomeDigits rest
    return ((false, digits), rest)
  | text => do
    let (digits, rest) ← scanSomeDigits text
    return ((false, digits), rest)

/-- Takes the exponent of a number, if there is one. -/
def scanExponent : List Char → Option (Option (Bool × List Nat) × List Char)
  | 'e' :: rest => do
    let (power, rest) ← scanPower rest
    return (some power, rest)
  | 'E' :: rest => do
    let (power, rest) ← scanPower rest
    return (some power, rest)
  | text => some (none, text)

/-- Takes a number, from behind its sign on. -/
def scanMagnitude (negative : Bool) (text : List Char) : Option (NumberLiteral × List Char) := do
  let (whole, rest) ← scanWhole text
  let (fraction, rest) ← scanFraction rest
  let (exponent, rest) ← scanExponent rest
  return (⟨negative, whole, fraction, exponent⟩, rest)

/-- Takes a number. -/
def scanNumber : List Char → Option (NumberLiteral × List Char)
  | '-' :: rest => scanMagnitude true rest
  | text => scanMagnitude false text

/-- The value of a number literal. -/
def ofLiteral (literal : NumberLiteral) : Json :=
  match literal.number? with
  | some value => .number value
  | none => .illegible

/-! ## Values -/

/-- An object, unless one of its names denotes no text. -/
def ofFields (fields : List (Option String × Json)) : Json :=
  match fields.mapM (fun (name, value) => name.map (·, value)) with
  | some fields => .object fields
  | none => .illegible

/-- Takes a string literal, from behind its opening quote on. -/
def scanString (text : List Char) : Option (Option String × List Char) := do
  let (pieces, rest) ← scanPieces text
  return ((assemble? pieces).map String.ofList, rest)

mutual

/-- Takes a value that begins at once. -/
def scanValue : Nat → List Char → Option (Json × List Char)
  | 0, _ => none
  | fuel + 1, text =>
    match text with
    | 'n' :: 'u' :: 'l' :: 'l' :: rest => some (.null, rest)
    | 't' :: 'r' :: 'u' :: 'e' :: rest => some (.bool true, rest)
    | 'f' :: 'a' :: 'l' :: 's' :: 'e' :: rest => some (.bool false, rest)
    | '"' :: rest => do
      let (content, rest) ← scanString rest
      return (content.elim .illegible .string, rest)
    | '[' :: rest =>
      match skipBlanks rest with
      | ']' :: rest => some (.array [], rest)
      | rest => do
        let (items, rest) ← scanItems fuel rest
        return (.array items, rest)
    | '{' :: rest =>
      match skipBlanks rest with
      | '}' :: rest => some (.object [], rest)
      | rest => do
        let (fields, rest) ← scanFields fuel rest
        return (ofFields fields, rest)
    | text => do
      let (literal, rest) ← scanNumber text
      return (ofLiteral literal, rest)

/-- Takes the items of an array up to its closing bracket. -/
def scanItems : Nat → List Char → Option (List Json × List Char)
  | 0, _ => none
  | fuel + 1, text => do
    let (item, rest) ← scanValue fuel text
    match skipBlanks rest with
    | ']' :: rest => return ([item], rest)
    | ',' :: rest =>
      let (items, rest) ← scanItems fuel (skipBlanks rest)
      return (item :: items, rest)
    | _ => none

/-- Takes the fields of an object up to its closing brace. -/
def scanFields : Nat → List Char → Option (List (Option String × Json) × List Char)
  | 0, _ => none
  | fuel + 1, '"' :: text => do
    let (name, rest) ← scanString text
    match skipBlanks rest with
    | ':' :: rest =>
      let (value, rest) ← scanValue fuel (skipBlanks rest)
      match skipBlanks rest with
      | '}' :: rest => return ([(name, value)], rest)
      | ',' :: rest =>
        let (fields, rest) ← scanFields fuel (skipBlanks rest)
        return ((name, value) :: fields, rest)
      | _ => none
    | _ => none
  | _ + 1, _ => none

end

/-- The value that a list of characters stands for. -/
def parseChars? (text : List Char) : Option Json := do
  let (value, rest) ← scanValue (text.length + 1) (skipBlanks text)
  if (skipBlanks rest).isEmpty then some value else none

/-- The value that a text stands for, or nothing if it is no JSON text. -/
def parse? (text : String) : Option Json := parseChars? text.toList

end Forwarder.Json
