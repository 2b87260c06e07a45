import Forwarder.Text.Identifier

/-!
# Building identifiers

An identifier stays one when word characters are put behind it. Decimal digits and folded displays
consist of word characters, and a dot is none: that is why names can be numbered and put together
from displays, and why the name of a marker attribute is never a dotted one.
-/

namespace Forwarder.Text

/-- A point of the first range is found there. -/
theorem inRanges_cons_of_mem {first last point : Nat} (hfirst : first ≤ point)
    (hlast : point ≤ last) (rest : List CodeRange) :
    inRanges ((first, last) :: rest) point = true := by
  rw [inRanges, if_neg (Nat.not_lt.2 hfirst), if_pos hlast]

theorem isWordChar_of_isDigit {c : Char} (h : c.isDigit = true) : isWordChar c = true := by
  obtain ⟨hlow, hhigh⟩ := Char.isDigit_iff_toNat.1 h
  -- the decimal digits are the first range of the table
  have hnumeric : isNumeric c = true := inRanges_cons_of_mem hlow hhigh _
  rw [isWordChar, isAlphanumeric, hnumeric, Bool.or_true, Bool.true_or]

theorem isWordChar_underscore : isWordChar '_' = true := by
  rw [isWordChar, beq_self_eq_true, Bool.or_true]

/-- Every character of an identifier is a word character. -/
theorem isWordChar_of_mem {text : List Char} (h : isIdentifierChars text = true) {c : Char}
    (hmem : c ∈ text) : isWordChar c = true := by
  cases text with
  | nil => cases hmem
  | cons first rest =>
    obtain ⟨hstart, hrest⟩ := Bool.and_eq_true_iff.1 h
    rcases List.mem_cons.1 hmem with rfl | hlater
    · exact isWordChar_of_isWordStart hstart
    · exact List.all_eq_true.1 hrest c hlater

theorem dot_not_mem_of_isIdentifier {text : String} (h : isIdentifier text = true) :
    '.' ∉ text.toList := by
  intro hmem
  have hword : isWordChar '.' = true := isWordChar_of_mem h hmem
  exact absurd hword (by decide +kernel)

theorem isIdentifierChars_append {text more : List Char} (h : isIdentifierChars text = true)
    (hmore : ∀ c ∈ more, isWordChar c = true) : isIdentifierChars (text ++ more) = true := by
  cases text with
  | nil => cases h
  | cons first rest =>
    obtain ⟨hstart, hrest⟩ := Bool.and_eq_true_iff.1 h
    rw [List.cons_append, isIdentifierChars, hstart, Bool.true_and, List.all_append, hrest,
      Bool.true_and]
    exact List.all_eq_true.2 hmore

/-- An identifier with word characters behind it is an identifier. -/
theorem isIdentifier_append {text more : String} (h : isIdentifier text = true)
    (hmore : ∀ c ∈ more.toList, isWordChar c = true) : isIdentifier (text ++ more) = true := by
  rw [isIdentifier, String.toList_append]
  exact isIdentifierChars_append h hmore

/-- The decimal digits of a number are word characters. -/
theorem isWordChar_of_mem_toString {n : Nat} {c : Char} (h : c ∈ (toString n).toList) :
    isWordChar c = true := by
  rw [Nat.toString_eq_repr, Nat.toList_repr] at h
  exact isWordChar_of_isDigit (Nat.isDigit_of_mem_toDigits (by decide) (by decide) h)

/-- A folded display consists of word characters. -/
theorem isWordChar_of_mem_joinWords {text : String} {c : Char} (h : c ∈ (joinWords text).toList) :
    isWordChar c = true := by
  rw [joinWords, String.toList_ofList] at h
  exact isWordChar_of_mem_joinWordsFrom h

end Forwarder.Text
