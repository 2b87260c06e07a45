import Forwarder.Text.Alphabetic
import Forwarder.Text.Numeric

/-!
# Identifiers

What counts as an identifier in generated source, and how an arbitrary type display is folded into
identifier characters. Folding keeps the runs of word characters and joins them by single
underscores, so `IMap<int, IList<string>>` becomes `IMap_int_IList_string`.
-/

namespace Forwarder.Text

/-- Whether a character is alphabetic or a numeral. -/
def isAlphanumeric (c : Char) : Bool := isAlphabetic c || isNumeric c

/-- Whether a character may stand inside an identifier. -/
def isWordChar (c : Char) : Bool := isAlphanumeric c || c == '_'

/-- Whether a character may begin an identifier. -/
def isWordStart (c : Char) : Bool := isAlphabetic c || c == '_'

/-- Whether a list of characters is an identifier: a letter or underscore, then word characters. -/
def isIdentifierChars : List Char → Bool
  | [] => false
  | c :: rest => isWordStart c && rest.all isWordChar

/-- Whether a text is an identifier. -/
def isIdentifier (text : String) : Bool := isIdentifierChars text.toList

/-- The pieces of a list of characters between the dots in it. -/
def dotSeparated : List Char → List (List Char)
  | [] => [[]]
  | c :: rest =>
    if c = '.' then [] :: dotSeparated rest
    else match dotSeparated rest with
      | [] => [[c]]
      | piece :: pieces => (c :: piece) :: pieces

/-- Whether a text is one or more identifiers separated by dots. -/
def isDottedIdentifier (text : String) : Bool :=
  (dotSeparated text.toList).all isIdentifierChars

/-! ## Folding -/

/-- Folds the rest of a text. `started` says that something has been written, `gap` that a
separator is due before the next word character. -/
def joinWordsFrom (started gap : Bool) : List Char → List Char
  | [] => []
  | c :: rest =>
    if isWordChar c then
      if gap && started then '_' :: c :: joinWordsFrom true false rest
      else c :: joinWordsFrom true false rest
    else joinWordsFrom started true rest

/-- Folds a type display into identifier characters. -/
def joinWords (text : String) : String := String.ofList (joinWordsFrom false false text.toList)

/-- An identifier character that starts an identifier may also stand inside one. -/
theorem isWordChar_of_isWordStart {c : Char} (h : isWordStart c = true) : isWordChar c = true := by
  simp only [isWordStart, isWordChar, isAlphanumeric, Bool.or_eq_true] at h ⊢
  rcases h with h | h
  · exact Or.inl (Or.inl h)
  · exact Or.inr h

/-- Folding writes word characters only. -/
theorem isWordChar_of_mem_joinWordsFrom {started gap : Bool} {text : List Char} {c : Char}
    (h : c ∈ joinWordsFrom started gap text) : isWordChar c = true := by
  induction text generalizing started gap with
  | nil => simp [joinWordsFrom] at h
  | cons d rest ih =>
    rw [joinWordsFrom] at h
    split at h
    · split at h
      · rcases List.mem_cons.1 h with rfl | h
        · decide
        · rcases List.mem_cons.1 h with rfl | h
          · assumption
          · exact ih h
      · rcases List.mem_cons.1 h with rfl | h
        · assumption
        · exact ih h
    · exact ih h

end Forwarder.Text
