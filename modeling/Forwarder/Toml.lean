/-!
# TOML documents of texts

The part of TOML that settings are written in: lines that give a text to a name, blank lines and
comments. Names are bare or quoted; texts are basic or literal strings, of one line or of several.
A document that has anything else in it, a number or a table for instance, is refused, and so is
one that gives a name twice.
-/

namespace Forwarder.Toml

/-- Whether a character is a blank within a line. -/
def isBlank (c : Char) : Bool := c = ' ' || c = '\t'

/-- Whether a character may stand as it is in a comment or in a string of one line. -/
def isPlain (c : Char) : Bool := c = '\t' || (0x20 ≤ c.toNat && c.toNat ≠ 0x7F)

/-- Drops the blanks at the beginning of a text. -/
def skipBlanks (text : List Char) : List Char := text.dropWhile isBlank

/-- What follows the line break at the beginning of a text, if there is one. -/
def lineBreak? : List Char → Option (List Char)
  | '\n' :: rest => some rest
  | '\r' :: '\n' :: rest => some rest
  | _ => none

/-! ## Strings -/

/-- The value of a hexadecimal digit. -/
def hexDigit? (c : Char) : Option Nat :=
  if '0' ≤ c && c ≤ '9' then some (c.toNat - '0'.toNat)
  else if 'a' ≤ c && c ≤ 'f' then some (c.toNat - 'a'.toNat + 10)
  else if 'A' ≤ c && c ≤ 'F' then some (c.toNat - 'A'.toNat + 10)
  else none

/-- The number that hexadecimal digits spell, going on from the digits before them. -/
def hexFrom (value : Nat) : List Char → Option Nat
  | [] => some value
  | c :: rest => do hexFrom (value * 16 + (← hexDigit? c)) rest

/-- The character of a code point given by exactly so many hexadecimal digits. -/
def codePoint? (digits : List Char) (count : Nat) : Option Char := do
  let value ← hexFrom 0 digits
  if digits.length = count && value.isValidChar then some (Char.ofNat value) else none

/-- The character that an escape stands for, from behind its backslash on, and the number of
characters that the escape takes. -/
def escape? : List Char → Option (Char × Nat)
  | 'b' :: _ => some ('\x08', 1)
  | 't' :: _ => some ('\t', 1)
  | 'n' :: _ => some ('\n', 1)
  | 'f' :: _ => some ('\x0c', 1)
  | 'r' :: _ => some ('\r', 1)
  | 'e' :: _ => some ('\x1b', 1)
  | '"' :: _ => some ('"', 1)
  | '\\' :: _ => some ('\\', 1)
  | 'x' :: rest => (codePoint? (rest.take 2) 2).map (·, 3)
  | 'u' :: rest => (codePoint? (rest.take 4) 4).map (·, 5)
  | 'U' :: rest => (codePoint? (rest.take 8) 8).map (·, 9)
  | _ => none

/-- Takes a basic string, from behind its opening quote on. -/
def basicString : Nat → List Char → Option (List Char × List Char)
  | 0, _ => none
  | _ + 1, [] => none
  | _ + 1, '"' :: rest => some ([], rest)
  | fuel + 1, '\\' :: rest => do
    let (c, taken) ← escape? rest
    let (content, rest) ← basicString fuel (rest.drop taken)
    return (c :: content, rest)
  | fuel + 1, c :: rest =>
    if isPlain c then do
      let (content, rest) ← basicString fuel rest
      return (c :: content, rest)
    else none

/-- Takes a literal string, from behind its opening quote on. -/
def literalString : List Char → Option (List Char × List Char)
  | [] => none
  | '\'' :: rest => some ([], rest)
  | c :: rest =>
    if isPlain c then do
      let (content, rest) ← literalString rest
      return (c :: content, rest)
    else none

/-- The end of a string of several lines, where three quotes stand: up to two quotes more belong
to the string. -/
def closing? (quote : Char) : List Char → Option (List Char × List Char)
  | a :: b :: c :: rest =>
    if a = quote && b = quote && c = quote then
      let extra := (rest.takeWhile (· = quote)).take 2
      some (extra, rest.drop extra.length)
    else none
  | _ => none

/-- Whether a character is a blank or part of a line break. -/
def isSpace (c : Char) : Bool := isBlank c || c = '\n' || c = '\r'

/-- What follows an escaped line break, from behind the backslash on: all blanks and line breaks
after it are passed over. -/
def continuation? (text : List Char) : Option (List Char) :=
  (lineBreak? (skipBlanks text)).map (·.dropWhile isSpace)

/-- Takes a string of several lines, from behind its opening quotes on. Only one with double quotes
knows escapes. -/
def longString (quote : Char) : Nat → List Char → Option (List Char × List Char)
  | 0, _ => none
  | _ + 1, [] => none
  | fuel + 1, c :: rest =>
    match closing? quote (c :: rest) with
    | some closed => some closed
    | none =>
      if c = '\\' && quote = '"' then
        match continuation? rest with
        | some rest => longString quote fuel rest
        | none => do
          let (c, taken) ← escape? rest
          let (content, rest) ← longString quote fuel (rest.drop taken)
          return (c :: content, rest)
      else
        match lineBreak? (c :: rest) with
        | some after => do
          let lineBreak := (c :: rest).take ((c :: rest).length - after.length)
          let (content, rest) ← longString quote fuel after
          return (lineBreak ++ content, rest)
        | none =>
          if isPlain c then do
            let (content, rest) ← longString quote fuel rest
            return (c :: content, rest)
          else none

/-- What follows a line break that directly follows the opening quotes, which is no part of the
string. -/
def afterOpening (text : List Char) : List Char := (lineBreak? text).getD text

/-- Takes a string. -/
def takeString : List Char → Option (List Char × List Char)
  | '"' :: '"' :: '"' :: rest => longString '"' (rest.length + 1) (afterOpening rest)
  | '\'' :: '\'' :: '\'' :: rest => longString '\'' (rest.length + 1) (afterOpening rest)
  | '"' :: rest => basicString (rest.length + 1) rest
  | '\'' :: rest => literalString rest
  | _ => none

/-! ## Documents -/

/-- Whether a character may stand in a bare name. -/
def isBareChar (c : Char) : Bool := c.isAlphanum || c = '_' || c = '-'

/-- Takes a name. -/
def takeName : List Char → Option (List Char × List Char)
  | '"' :: rest => basicString (rest.length + 1) rest
  | '\'' :: rest => literalString rest
  | text =>
    let name := text.takeWhile isBareChar
    if name.isEmpty then none else some (name, text.drop name.length)

/-- What is left of a line after its content: blanks, perhaps a comment, and the line break or the
end of the document. Gives what follows. -/
def endOfLine? (text : List Char) : Option (List Char) :=
  let text := match skipBlanks text with
    | '#' :: comment => comment.dropWhile isPlain
    | text => text
  if text.isEmpty then some [] else lineBreak? text

/-- Takes a name with its text, up to the end of the text. -/
def takePair (text : List Char) : Option ((String × String) × List Char) := do
  let (name, rest) ← takeName text
  match skipBlanks rest with
  | '=' :: rest => do
    let (value, rest) ← takeString (skipBlanks rest)
    return ((String.ofList name, String.ofList value), rest)
  | _ => none

/-- Reads lines; each takes at least one character. -/
def readLines : Nat → List Char → Option (List (String × String))
  | 0, _ => none
  | fuel + 1, text =>
    if text.isEmpty then some []
    else
      match endOfLine? text with
      | some rest => readLines fuel rest
      | none => do
        let (pair, rest) ← takePair (skipBlanks text)
        let pairs ← readLines fuel (← endOfLine? rest)
        return pair :: pairs

/-- Whether no name is given twice. -/
def namesDistinct : List (String × String) → Bool
  | [] => true
  | (name, _) :: rest => rest.all (·.1 ≠ name) && namesDistinct rest

/-- The names of a document with their texts, in their order. A byte order mark at its beginning is
passed over. -/
def parse? (document : String) : Option (List (String × String)) := do
  let text := match document.toList with
    | '\ufeff' :: rest => rest
    | text => text
  let pairs ← readLines (text.length + 2) text
  if namesDistinct pairs then some pairs else none

end Forwarder.Toml
