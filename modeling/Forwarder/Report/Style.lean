/-!
# Terminal styles

A styled text is put between an escape sequence that turns the style on and one that turns all
styles off. Where the text itself turns styles off, its own style is turned on again. Without
colour, texts stay plain.
-/

namespace Forwarder

/-- The styles that output uses. -/
inductive Style where
  /-- Dimmed. -/
  | dimmed
  /-- Bold. -/
  | bold
  /-- Green. -/
  | green
  /-- Yellow. -/
  | yellow
  /-- Cyan. -/
  | cyan
  /-- Bold and blue. -/
  | boldBlue
  /-- Bold and red. -/
  | boldRed
  /-- Bold and yellow. -/
  | boldYellow
  deriving DecidableEq, Repr

namespace Style

/-- The parameters of a style's escape sequence. -/
def code : Style → String
  | .dimmed => "2"
  | .bold => "1"
  | .green => "32"
  | .yellow => "33"
  | .cyan => "36"
  | .boldBlue => "1;34"
  | .boldRed => "1;31"
  | .boldYellow => "1;33"

/-- The escape sequence with some parameters. -/
def escapeSequence (parameters : String) : List Char := '\x1b' :: '[' :: (parameters ++ "m").toList

/-- The escape sequence that turns all styles off. -/
def resetSequence : List Char := escapeSequence "0"

/-- Turns a style on again wherever a text turns styles off. -/
def restoreAfterResets (turnOn : List Char) : List Char → List Char
  | '\x1b' :: '[' :: '0' :: 'm' :: rest => resetSequence ++ turnOn ++ restoreAfterResets turnOn rest
  | c :: rest => c :: restoreAfterResets turnOn rest
  | [] => []

/-- A text in a style, if there is colour. -/
def apply (style : Style) (color : Bool) (text : String) : String :=
  if color then
    let turnOn := escapeSequence style.code
    String.ofList (turnOn ++ restoreAfterResets turnOn text.toList ++ resetSequence)
  else text

end Style

end Forwarder
