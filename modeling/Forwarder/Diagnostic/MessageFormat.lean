/-!
# Message formats

A message format is text with numbered placeholders in braces. Formatting is a single pass: every
placeholder with a number that there is an argument for is replaced by that argument, and all other
braces stay as they are. Arguments are copied and not looked at again.
-/

namespace Forwarder

namespace MessageFormat

/-- The brace that opens a placeholder. -/
def openBrace : Char := '\x7b'

/-- The brace that closes a placeholder. -/
def closeBrace : Char := '\x7d'

/-- The number that a list of decimal digits spells, going on from the digits before them. -/
def decimalFrom (value : Nat) : List Char → Option Nat
  | [] => some value
  | c :: rest =>
    if '0' ≤ c && c ≤ '9' then decimalFrom (value * 10 + (c.toNat - '0'.toNat)) rest else none

/-- The number of a placeholder: at least one decimal digit, after a plus sign or not, below
`2^64`. -/
def number? (text : List Char) : Option Nat :=
  let digits := match text with
    | '+' :: rest => rest
    | _ => text
  if digits.isEmpty then none else (decimalFrom 0 digits).filter (· < UInt64.size)

/-- The number of the placeholder that begins a text, from behind its opening brace on, and what
follows it. -/
def placeholder? (text : List Char) : Option (Nat × List Char) :=
  match text.dropWhile (· ≠ closeBrace) with
  | [] => none
  | _ :: rest => (number? (text.takeWhile (· ≠ closeBrace))).map (·, rest)

/-- What follows a placeholder is shorter than what begins with it. -/
theorem length_lt_of_placeholder? {text rest : List Char} {number : Nat}
    (h : placeholder? text = some (number, rest)) : rest.length < text.length := by
  unfold placeholder? at h
  split at h
  · simp at h
  · rename_i c after hdrop
    obtain ⟨_, _, hrest⟩ := Option.map_eq_some_iff.1 h
    have hle : (text.dropWhile (· ≠ closeBrace)).length ≤ text.length :=
      (List.dropWhile_suffix _).length_le
    rw [hdrop] at hle
    simp only [Prod.mk.injEq] at hrest
    simp only [List.length_cons] at hle
    rw [← hrest.2]
    omega

/-- The argument for the placeholder that begins a text, from behind its opening brace on, and what
follows it. -/
def argument? (arguments : List String) (text : List Char) : Option (String × List Char) :=
  (placeholder? text).bind fun (number, rest) => arguments[number]?.map (·, rest)

/-- What follows an argument's placeholder is shorter than what begins with it. -/
theorem length_lt_of_argument? {arguments : List String} {text rest : List Char}
    {argument : String} (h : argument? arguments text = some (argument, rest)) :
    rest.length < text.length := by
  obtain ⟨⟨number, after⟩, hplaceholder, hmap⟩ := Option.bind_eq_some_iff.1 h
  obtain ⟨_, _, heq⟩ := Option.map_eq_some_iff.1 hmap
  simp only [Prod.mk.injEq] at heq
  rw [← heq.2]
  exact length_lt_of_placeholder? hplaceholder

/-- Fills the placeholders of a text. -/
def fill (arguments : List String) (text : List Char) : List Char :=
  match text with
  | [] => []
  | c :: rest =>
    if c = openBrace then
      match _h : argument? arguments rest with
      | some (argument, after) => argument.toList ++ fill arguments after
      | none => c :: fill arguments rest
    else c :: fill arguments rest
termination_by text.length
decreasing_by
  · have := length_lt_of_argument? _h
    simp only [List.length_cons]
    omega
  · simp
  · simp

end MessageFormat

/-- Fills the placeholders of a message format. -/
def MessageFormat.apply (format : String) (arguments : List String) : String :=
  String.ofList (MessageFormat.fill arguments format.toList)

end Forwarder
