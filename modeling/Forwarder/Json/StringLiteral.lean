/-!
# String literals in JSON texts

The characters of a string literal and their escapes, both ways. Reading goes in two steps: the
literal is cut into pieces, each a character or one UTF-16 unit given by a `\u` escape, and then
the pieces are put together, where the two units of a surrogate pair make one character. A literal
with an unpaired unit is well formed all the same; it only denotes no text.
-/

namespace Forwarder.Json

/-- One piece of a string literal. -/
inductive Piece where
  /-- A character, plain or behind a one-letter escape. -/
  | char (c : Char)
  /-- A UTF-16 unit, behind a four-digit escape. -/
  | unit (value : Nat)
  deriving DecidableEq, Repr

/-- The value of a hexadecimal digit. -/
def hexDigit? (c : Char) : Option Nat :=
  if '0' ≤ c && c ≤ '9' then some (c.toNat - '0'.toNat)
  else if 'a' ≤ c && c ≤ 'f' then some (c.toNat - 'a'.toNat + 10)
  else if 'A' ≤ c && c ≤ 'F' then some (c.toNat - 'A'.toNat + 10)
  else none

/-- The number that four hexadecimal digits spell. -/
def hexUnit? (a b c d : Char) : Option Nat := do
  let a ← hexDigit? a
  let b ← hexDigit? b
  let c ← hexDigit? c
  let d ← hexDigit? d
  return ((a * 16 + b) * 16 + c) * 16 + d

/-- The character that a one-letter escape stands for. -/
def simpleEscape? : Char → Option Char
  | '"' => some '"'
  | '\\' => some '\\'
  | '/' => some '/'
  | 'b' => some '\x08'
  | 'f' => some '\x0c'
  | 'n' => some '\n'
  | 'r' => some '\r'
  | 't' => some '\t'
  | _ => none

/-- Cuts a string literal, from behind its opening quote on, into pieces; also gives what follows
its closing quote. -/
def scanPieces : List Char → Option (List Piece × List Char)
  | [] => none
  | '"' :: rest => some ([], rest)
  | '\\' :: 'u' :: a :: b :: c :: d :: rest => do
    let value ← hexUnit? a b c d
    let (pieces, rest) ← scanPieces rest
    return (.unit value :: pieces, rest)
  | '\\' :: letter :: rest => do
    let escaped ← simpleEscape? letter
    let (pieces, rest) ← scanPieces rest
    return (.char escaped :: pieces, rest)
  | c :: rest =>
    if c.toNat < 0x20 || c = '\\' then none
    else do
      let (pieces, rest) ← scanPieces rest
      return (.char c :: pieces, rest)

/-- Whether a UTF-16 unit is the first of a surrogate pair. -/
def isLeadingUnit (value : Nat) : Bool := 0xD800 ≤ value && value ≤ 0xDBFF

/-- Whether a UTF-16 unit is the second of a surrogate pair. -/
def isTrailingUnit (value : Nat) : Bool := 0xDC00 ≤ value && value ≤ 0xDFFF

/-- The character that a surrogate pair encodes. -/
def pairedChar (leading trailing : Nat) : Char :=
  Char.ofNat (0x10000 + (leading - 0xD800) * 0x400 + (trailing - 0xDC00))

/-- Puts pieces together to a text, unless a surrogate is left without its partner. -/
def assemble? : List Piece → Option (List Char)
  | [] => some []
  | .char c :: rest => (c :: ·) <$> assemble? rest
  | .unit value :: rest =>
    if isLeadingUnit value then
      match rest with
      | .unit next :: rest =>
        if isTrailingUnit next then (pairedChar value next :: ·) <$> assemble? rest else none
      | _ => none
    else if isTrailingUnit value then none
    else (Char.ofNat value :: ·) <$> assemble? rest

/-! ## Writing -/

/-- A hexadecimal digit in lower case. -/
def hexChar (value : Nat) : Char := (Nat.toDigits 16 value).headD '0'

/-- The spelling of a character within a string literal: quotes, backslashes and control characters
are escaped, and nothing else is. -/
def escapeChar (c : Char) : List Char :=
  if c = '"' then ['\\', '"']
  else if c = '\\' then ['\\', '\\']
  else if c = '\x08' then ['\\', 'b']
  else if c = '\t' then ['\\', 't']
  else if c = '\n' then ['\\', 'n']
  else if c = '\x0c' then ['\\', 'f']
  else if c = '\r' then ['\\', 'r']
  else if c.toNat < 0x20 then
    ['\\', 'u', '0', '0', hexChar (c.toNat / 16), hexChar (c.toNat % 16)]
  else [c]

/-- The characters of a text as they stand between the quotes of its literal. -/
def escapeChars : List Char → List Char
  | [] => []
  | c :: rest => escapeChar c ++ escapeChars rest

/-- The literal of a text. -/
def stringLiteral (text : String) : List Char := '"' :: (escapeChars text.toList ++ ['"'])

end Forwarder.Json
