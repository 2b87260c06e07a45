import Mathlib.Data.List.Infix
import Forwarder.Diagnostic.MessageFormat

/-!
# The pieces of a message format

The number of arguments settles which braces of a format are placeholders: those around a numeral
for one of the arguments. They cannot overlap, because a numeral has no braces in it. So a format
falls into placeholders and the literal text between them in one way only, and what the arguments
say has no part in it. Formatting puts the arguments in for the placeholders and leaves the literal
text as it is, other braces included.
-/

namespace Forwarder

/-- A piece of a format for messages with a number of arguments. -/
inductive FormatPiece (count : Nat) where
  /-- Text that stays as it is. -/
  | literal (text : List Char)
  /-- A placeholder: the numeral in it, and the number that the numeral stands for. -/
  | placeholder (numeral : List Char) (number : Fin count)
  deriving DecidableEq, Repr

namespace MessageFormat

variable {count number value : Nat} {text rest after numeral digits : List Char}

/-- What a piece becomes in a message. -/
def fillPiece (arguments : Vector String count) : FormatPiece count → List Char
  | .literal text => text
  | .placeholder _ number => arguments[number].toList

/-- The message that pieces make, one after the other. -/
def fillPieces (arguments : Vector String count) (pieces : List (FormatPiece count)) : List Char :=
  pieces.flatMap (fillPiece arguments)

/-! ## Numerals -/

/-- Decimal digits for a number. Numbers are below `2^64`, as the positions in any list of arguments
are. -/
structure AreDigits (digits : List Char) (number : Nat) : Prop where
  /-- There is a digit. -/
  nonempty : digits ≠ []
  /-- There is nothing but digits. -/
  isDigit : ∀ c ∈ digits, c.isDigit = true
  /-- The digits have the value of the number. -/
  value : Nat.ofDigitChars 10 digits 0 = number
  /-- The number is not too large. -/
  lt_size : number < UInt64.size

/-- A numeral for a number: decimal digits, after a plus sign or not. -/
inductive IsNumeral : List Char → Nat → Prop where
  /-- There is no sign. -/
  | unsigned {digits : List Char} {number : Nat} (h : AreDigits digits number) :
      IsNumeral digits number
  /-- There is a plus sign. -/
  | signed {digits : List Char} {number : Nat} (h : AreDigits digits number) :
      IsNumeral ('+' :: digits) number

theorem IsNumeral.isDigit_or_plus (h : IsNumeral numeral number) :
    ∀ c ∈ numeral, c.isDigit = true ∨ c = '+' := by
  intro c hmem
  cases h with
  | unsigned h => exact .inl (h.isDigit c hmem)
  | signed h =>
    rcases List.mem_cons.1 hmem with rfl | hmem
    · exact .inr rfl
    · exact .inl (h.isDigit c hmem)

theorem IsNumeral.openBrace_notMem (h : IsNumeral numeral number) : openBrace ∉ numeral :=
  fun hmem => absurd (h.isDigit_or_plus _ hmem) (by decide)

theorem IsNumeral.closeBrace_notMem (h : IsNumeral numeral number) : closeBrace ∉ numeral :=
  fun hmem => absurd (h.isDigit_or_plus _ hmem) (by decide)

theorem decimalFrom_eq_some_iff : decimalFrom value digits = some number ↔
    (∀ c ∈ digits, c.isDigit = true) ∧ Nat.ofDigitChars 10 digits value = number := by
  induction digits generalizing value with
  | nil => simp [decimalFrom, Nat.ofDigitChars]
  | cons c rest ih =>
    have hdigit : ('0' ≤ c && c ≤ '9') = c.isDigit := rfl
    rw [decimalFrom, hdigit, List.forall_mem_cons, Nat.ofDigitChars_cons, Nat.mul_comm 10]
    cases h : c.isDigit with
    | false => simp
    | true => simp [ih]

theorem areDigits_iff : AreDigits digits number ↔
    (if digits.isEmpty then none else (decimalFrom 0 digits).filter (· < UInt64.size)) =
      some number := by
  constructor
  · intro h
    rw [if_neg (by simpa using h.nonempty), Option.filter_eq_some_iff]
    exact ⟨decimalFrom_eq_some_iff.2 ⟨h.isDigit, h.value⟩, by simpa using h.lt_size⟩
  · intro h
    split at h
    · cases h
    · rename_i hne
      obtain ⟨hdecimal, hlt⟩ := Option.filter_eq_some_iff.1 h
      obtain ⟨hdigits, hvalue⟩ := decimalFrom_eq_some_iff.1 hdecimal
      exact ⟨by simpa using hne, hdigits, hvalue, by simpa using hlt⟩

/-- The texts that are read as numbers are the numerals. -/
theorem number?_eq_some_iff : number? text = some number ↔ IsNumeral text number := by
  unfold number?
  split
  · rename_i digits
    refine areDigits_iff.symm.trans ⟨.signed, fun h => ?_⟩
    cases h with
    | unsigned h => exact absurd (h.isDigit '+' List.mem_cons_self) (by decide)
    | signed h => exact h
  · rename_i hplus
    refine areDigits_iff.symm.trans ⟨.unsigned, fun h => ?_⟩
    cases h with
    | unsigned h => exact h
    | @signed digits _ h => exact absurd rfl (hplus digits)

/-! ## Placeholders -/

/-- A placeholder for one of the arguments: a numeral between braces. -/
def IsPlaceholder (count : Nat) (text : List Char) : Prop :=
  ∃ (numeral : List Char) (number : Fin count), IsNumeral numeral number ∧
    text = openBrace :: (numeral ++ [closeBrace])

/-- A placeholder stands at the beginning of a text. -/
def Opens (count : Nat) (text : List Char) : Prop :=
  ∃ part, IsPlaceholder count part ∧ part <+: text

/-- No placeholder stands anywhere in a text. -/
def IsPlain (count : Nat) (text : List Char) : Prop :=
  ∀ part, IsPlaceholder count part → ¬ part <:+: text

theorem IsNumeral.takeWhile_append (h : IsNumeral numeral number) :
    (numeral ++ closeBrace :: rest).takeWhile (· ≠ closeBrace) = numeral := by
  rw [List.takeWhile_append_of_pos fun c hmem =>
    decide_eq_true (ne_of_mem_of_not_mem hmem h.closeBrace_notMem)]
  simp

theorem IsNumeral.dropWhile_append (h : IsNumeral numeral number) :
    (numeral ++ closeBrace :: rest).dropWhile (· ≠ closeBrace) = closeBrace :: rest := by
  rw [List.dropWhile_append_of_pos fun c hmem =>
    decide_eq_true (ne_of_mem_of_not_mem hmem h.closeBrace_notMem)]
  simp

/-- What the scanner takes for a placeholder, from behind its opening brace on, is a numeral with a
closing brace behind it. -/
theorem placeholder?_eq_some_iff : placeholder? text = some (number, after) ↔
    ∃ numeral, IsNumeral numeral number ∧ text = numeral ++ closeBrace :: after := by
  constructor
  · intro h
    rw [placeholder?] at h
    split at h
    · cases h
    · rename_i c behind hdrop
      have hclose : c = closeBrace := by
        have hnot := List.head?_dropWhile_not (· ≠ closeBrace) text
        rw [hdrop] at hnot
        simpa using hnot
      obtain ⟨read, hnumber, hread⟩ := Option.map_eq_some_iff.1 h
      obtain ⟨rfl, rfl⟩ := Prod.mk.inj hread
      have htext := (List.takeWhile_append_dropWhile (p := (· ≠ closeBrace)) (l := text)).symm
      rw [hdrop, hclose] at htext
      exact ⟨_, number?_eq_some_iff.1 hnumber, htext⟩
  · rintro ⟨numeral, hnumeral, rfl⟩
    rw [placeholder?, hnumeral.dropWhile_append, hnumeral.takeWhile_append,
      number?_eq_some_iff.2 hnumeral]
    rfl

theorem IsPlaceholder.exists_eq_cons (h : IsPlaceholder count text) :
    ∃ inner, text = openBrace :: inner ∧ openBrace ∉ inner := by
  obtain ⟨numeral, number, hnumeral, rfl⟩ := h
  refine ⟨_, rfl, fun hmem => ?_⟩
  rcases List.mem_append.1 hmem with hmem | hmem
  · exact hnumeral.openBrace_notMem hmem
  · exact absurd hmem (by decide)

/-- A placeholder begins a text if the text behind the brace is a numeral with a closing brace
behind it. -/
theorem opens_iff : Opens count text ↔
    ∃ (numeral : List Char) (number : Fin count) (rest : List Char), IsNumeral numeral number ∧
      text = openBrace :: (numeral ++ closeBrace :: rest) := by
  constructor
  · rintro ⟨_, ⟨numeral, number, hnumeral, rfl⟩, rest, rfl⟩
    exact ⟨numeral, number, rest, hnumeral, by simp⟩
  · rintro ⟨numeral, number, rest, hnumeral, rfl⟩
    exact ⟨_, ⟨numeral, number, hnumeral, rfl⟩, rest, by simp⟩

theorem Opens.append (h : Opens count text) (rest : List Char) : Opens count (text ++ rest) := by
  obtain ⟨part, hpart, hprefix⟩ := h
  exact ⟨part, hpart, hprefix.trans (List.prefix_append _ _)⟩

theorem Opens.exists_eq_cons (h : Opens count text) : ∃ behind, text = openBrace :: behind := by
  obtain ⟨numeral, _, rest, _, rfl⟩ := opens_iff.1 h
  exact ⟨_, rfl⟩

theorem isPlain_nil : IsPlain count [] := by
  intro part hpart hinfix
  obtain ⟨_, rfl, _⟩ := hpart.exists_eq_cons
  exact absurd (List.infix_nil.1 hinfix) (List.cons_ne_nil _ _)

theorem isPlain_cons_iff {c : Char} :
    IsPlain count (c :: text) ↔ ¬ Opens count (c :: text) ∧ IsPlain count text := by
  constructor
  · intro h
    refine ⟨fun ⟨part, hpart, hprefix⟩ => h part hpart hprefix.isInfix, fun part hpart hinfix => ?_⟩
    exact h part hpart (List.infix_cons hinfix)
  · rintro ⟨hopens, hplain⟩ part hpart hinfix
    rcases List.infix_cons_iff.1 hinfix with hprefix | hinfix
    · exact hopens ⟨part, hpart, hprefix⟩
    · exact hplain part hpart hinfix

/-- No placeholder begins in text without one and ends behind it, if the next piece begins with a
brace. -/
theorem IsPlain.not_opens_append {c : Char} (hplain : IsPlain count (c :: text))
    (hends : rest = [] ∨ Opens count rest) : ¬ Opens count (c :: (text ++ rest)) := by
  rintro ⟨part, hpart, hprefix⟩
  obtain ⟨inner, rfl, hinner⟩ := hpart.exists_eq_cons
  have hnot : ¬ openBrace :: inner <+: c :: text := fun h => hplain _ hpart h.isInfix
  rcases hends with rfl | hopens
  · rw [List.append_nil] at hprefix
    exact hnot hprefix
  · obtain ⟨behind, rfl⟩ := hopens.exists_eq_cons
    obtain ⟨excess, hexcess⟩ := (List.prefix_or_prefix_of_prefix hprefix
      (List.prefix_append (c :: text) _)).resolve_left hnot
    have hreach : excess <+: openBrace :: behind := by
      rw [← hexcess] at hprefix
      exact (List.prefix_append_right_inj _).1 hprefix
    cases excess with
    | nil => exact hnot (by rw [← hexcess, List.append_nil])
    | cons d excess =>
      -- what reaches beyond the text begins with a brace, and a placeholder has only one that opens
      obtain ⟨rfl, _⟩ := List.cons_prefix_cons.1 hreach
      obtain ⟨_, hrest⟩ := List.cons.inj hexcess
      exact hinner (hrest ▸ List.mem_append_right _ List.mem_cons_self)

/-! ## Cutting a format into pieces -/

/-- A format falls into pieces. Literal text has no placeholder in it, and goes on up to the next
placeholder or the end. -/
inductive HasPieces (count : Nat) : List Char → List (FormatPiece count) → Prop where
  /-- There is nothing left. -/
  | nil : HasPieces count [] []
  /-- A placeholder comes first. -/
  | placeholder {numeral rest : List Char} {number : Fin count} {pieces : List (FormatPiece count)}
      (hnumeral : IsNumeral numeral number) (hrest : HasPieces count rest pieces) :
      HasPieces count (openBrace :: (numeral ++ closeBrace :: rest))
        (.placeholder numeral number :: pieces)
  /-- Literal text comes first. -/
  | literal {text rest : List Char} {pieces : List (FormatPiece count)} (hne : text ≠ [])
      (hplain : IsPlain count text) (hends : rest = [] ∨ Opens count rest)
      (hrest : HasPieces count rest pieces) : HasPieces count (text ++ rest) (.literal text :: pieces)

/-- A character of literal text, put before pieces. -/
def consLiteral (c : Char) : List (FormatPiece count) → List (FormatPiece count)
  | .literal text :: pieces => .literal (c :: text) :: pieces
  | pieces => .literal [c] :: pieces

/-- The pieces of a format. -/
def piecesOf (count : Nat) (text : List Char) : List (FormatPiece count) :=
  match text with
  | [] => []
  | c :: rest =>
    if c = openBrace then
      match _h : placeholder? rest with
      | some (number, after) =>
        if hlt : number < count then
          .placeholder (rest.takeWhile (· ≠ closeBrace)) ⟨number, hlt⟩ :: piecesOf count after
        else consLiteral c (piecesOf count rest)
      | none => consLiteral c (piecesOf count rest)
    else consLiteral c (piecesOf count rest)
termination_by text.length
decreasing_by
  · have := length_lt_of_placeholder? _h
    simp only [List.length_cons]
    omega
  all_goals simp

/-- Induction on a format: it is empty, or begins with a placeholder, or with a character of literal
text. -/
theorem induct (count : Nat) {motive : List Char → Prop} (nil : motive [])
    (placeholder : ∀ (numeral : List Char) (number : Fin count) (rest : List Char),
      IsNumeral numeral number → motive rest →
        motive (openBrace :: (numeral ++ closeBrace :: rest)))
    (literal : ∀ (c : Char) (rest : List Char), ¬ Opens count (c :: rest) → motive rest →
      motive (c :: rest)) (text : List Char) : motive text := by
  match text with
  | [] => exact nil
  | c :: rest =>
    by_cases hopens : Opens count (c :: rest)
    · obtain ⟨numeral, number, after, hnumeral, heq⟩ := opens_iff.1 hopens
      rw [heq]
      exact placeholder numeral number after hnumeral
        (induct count nil placeholder literal after)
    · exact literal c rest hopens (induct count nil placeholder literal rest)
termination_by text.length
decreasing_by
  · simp only [heq, List.length_cons, List.length_append]
    omega
  · simp

theorem piecesOf_placeholder {number : Fin count} (h : IsNumeral numeral number) :
    piecesOf count (openBrace :: (numeral ++ closeBrace :: rest)) =
      .placeholder numeral number :: piecesOf count rest := by
  have hread : placeholder? (numeral ++ closeBrace :: rest) = some (number.val, rest) :=
    placeholder?_eq_some_iff.2 ⟨numeral, h, rfl⟩
  rw [piecesOf, if_pos rfl]
  split
  · rename_i read after hsome
    obtain ⟨rfl, rfl⟩ := Prod.mk.inj (Option.some.inj (hread.symm.trans hsome))
    rw [dif_pos number.isLt, h.takeWhile_append]
  · rename_i hnone
    cases hread.symm.trans hnone

theorem piecesOf_cons {c : Char} (h : ¬ Opens count (c :: text)) :
    piecesOf count (c :: text) = consLiteral c (piecesOf count text) := by
  rw [piecesOf]
  split
  · rename_i hbrace
    split
    · rename_i number after hsome
      obtain ⟨numeral, hnumeral, rfl⟩ := placeholder?_eq_some_iff.1 hsome
      refine dif_neg fun hlt => h (opens_iff.2 ⟨numeral, ⟨number, hlt⟩, after, hnumeral, ?_⟩)
      rw [hbrace]
    · rfl
  · rfl

theorem HasPieces.cons {c : Char} {pieces : List (FormatPiece count)}
    (hopens : ¬ Opens count (c :: text)) (h : HasPieces count text pieces) :
    HasPieces count (c :: text) (consLiteral c pieces) := by
  cases h with
  | nil =>
    exact .literal (List.cons_ne_nil c []) (isPlain_cons_iff.2 ⟨hopens, isPlain_nil⟩) (.inl rfl) .nil
  | placeholder hnumeral hrest =>
    have hsingle : ¬ Opens count [c] := fun h => hopens (h.append _)
    exact .literal (List.cons_ne_nil c []) (isPlain_cons_iff.2 ⟨hsingle, isPlain_nil⟩)
      (.inr (opens_iff.2 ⟨_, _, _, hnumeral, rfl⟩)) (.placeholder hnumeral hrest)
  | @literal text rest _ hne hplain hends hrest =>
    have hfront : ¬ Opens count (c :: text) := fun h => hopens (h.append rest)
    exact .literal (List.cons_ne_nil c text) (isPlain_cons_iff.2 ⟨hfront, hplain⟩) hends hrest

/-- A format falls into its pieces. -/
theorem hasPieces_piecesOf (text : List Char) : HasPieces count text (piecesOf count text) := by
  induction text using induct count with
  | nil =>
    rw [piecesOf]
    exact .nil
  | placeholder numeral number rest hnumeral ih =>
    rw [piecesOf_placeholder hnumeral]
    exact .placeholder hnumeral ih
  | literal c rest hopens ih =>
    rw [piecesOf_cons hopens]
    exact ih.cons hopens

/-- Literal text is one piece. -/
theorem piecesOf_append (hne : text ≠ []) (hplain : IsPlain count text)
    (hends : rest = [] ∨ Opens count rest) :
    piecesOf count (text ++ rest) = .literal text :: piecesOf count rest := by
  induction text with
  | nil => exact absurd rfl hne
  | cons c text ih =>
    rw [List.cons_append, piecesOf_cons (hplain.not_opens_append hends)]
    by_cases htext : text = []
    · rw [htext, List.nil_append]
      rcases hends with rfl | hopens
      · rw [piecesOf, consLiteral]
        simp
      · obtain ⟨numeral, number, after, hnumeral, rfl⟩ := opens_iff.1 hopens
        rw [piecesOf_placeholder hnumeral, consLiteral]
        simp
    · rw [ih htext (isPlain_cons_iff.1 hplain).2, consLiteral]

/-- A format falls into its pieces and no others. -/
theorem hasPieces_iff {pieces : List (FormatPiece count)} :
    HasPieces count text pieces ↔ pieces = piecesOf count text := by
  constructor
  · intro h
    induction h with
    | nil => rw [piecesOf]
    | placeholder hnumeral hrest ih => rw [piecesOf_placeholder hnumeral, ih]
    | literal hne hplain hends hrest ih => rw [piecesOf_append hne hplain hends, ih]
  · rintro rfl
    exact hasPieces_piecesOf text

/-! ## Filling -/

variable {arguments : Vector String count}

theorem argument?_placeholder {number : Fin count} (h : IsNumeral numeral number) :
    argument? arguments.toList (numeral ++ closeBrace :: rest) = some (arguments[number], rest) := by
  rw [argument?, placeholder?_eq_some_iff.2 ⟨numeral, h, rfl⟩]
  simp

theorem argument?_eq_none (h : ¬ Opens count (openBrace :: text)) :
    argument? arguments.toList text = none := by
  rw [argument?, Option.bind_eq_none_iff]
  rintro ⟨number, after⟩ hread
  obtain ⟨numeral, hnumeral, rfl⟩ := placeholder?_eq_some_iff.1 hread
  have hle : count ≤ number := by
    by_contra hlt
    exact h (opens_iff.2 ⟨numeral, ⟨number, Nat.lt_of_not_le hlt⟩, after, hnumeral, rfl⟩)
  simpa using hle

theorem fill_placeholder {number : Fin count} (h : IsNumeral numeral number) :
    fill arguments.toList (openBrace :: (numeral ++ closeBrace :: rest)) =
      arguments[number].toList ++ fill arguments.toList rest := by
  rw [fill, if_pos rfl]
  split
  · rename_i argument after hsome
    obtain ⟨rfl, rfl⟩ := Prod.mk.inj (Option.some.inj ((argument?_placeholder h).symm.trans hsome))
    rfl
  · rename_i hnone
    cases (argument?_placeholder h).symm.trans hnone

theorem fill_cons {c : Char} (h : ¬ Opens count (c :: text)) :
    fill arguments.toList (c :: text) = c :: fill arguments.toList text := by
  rw [fill]
  split
  · rename_i hbrace
    split
    · rename_i hsome
      cases (argument?_eq_none (hbrace ▸ h)).symm.trans hsome
    · rfl
  · rfl

theorem fillPieces_consLiteral (c : Char) (pieces : List (FormatPiece count)) :
    fillPieces arguments (consLiteral c pieces) = c :: fillPieces arguments pieces := by
  rw [consLiteral.eq_def]
  split <;> simp [fillPieces, fillPiece]

/-- Formatting fills in the pieces of a format. -/
theorem fill_eq_fillPieces (text : List Char) :
    fill arguments.toList text = fillPieces arguments (piecesOf count text) := by
  induction text using induct count with
  | nil =>
    rw [fill, piecesOf]
    rfl
  | placeholder numeral number rest hnumeral ih =>
    rw [fill_placeholder hnumeral, piecesOf_placeholder hnumeral, ih]
    rfl
  | literal c rest hopens ih =>
    rw [fill_cons hopens, piecesOf_cons hopens, fillPieces_consLiteral, ih]

/-! ## The end of a pass -/

/-- Where a pass over a format stands. -/
structure Pass where
  /-- The message so far. -/
  written : List Char
  /-- What is still to be read. -/
  unread : List Char

namespace Pass

/-- A step of a pass: to the next opening brace, and over the placeholder that begins there, or else
over the brace alone. Without an opening brace there is no step. -/
def step? (arguments : List String) (pass : Pass) : Option Pass :=
  match pass.unread.dropWhile (· ≠ openBrace) with
  | [] => none
  | brace :: behind =>
    let written := pass.written ++ pass.unread.takeWhile (· ≠ openBrace)
    match argument? arguments behind with
    | some (argument, after) => some ⟨written ++ argument.toList, after⟩
    | none => some ⟨written ++ [brace], behind⟩

/-- A pass ends after a number of steps, with a message. -/
inductive Ends (arguments : List String) : Pass → Nat → List Char → Prop where
  /-- There is no step, and the rest of the format is written as it is. -/
  | done {pass : Pass} (h : pass.step? arguments = none) :
      Ends arguments pass 0 (pass.written ++ pass.unread)
  /-- There is a step, and the pass ends from there. -/
  | step {pass next : Pass} {steps : Nat} {message : List Char}
      (h : pass.step? arguments = some next) (hnext : Ends arguments next steps message) :
      Ends arguments pass (steps + 1) message

variable {written : List Char}

theorem step?_placeholder {number : Fin count} (h : IsNumeral numeral number) :
    step? arguments.toList ⟨written, openBrace :: (numeral ++ closeBrace :: rest)⟩ =
      some ⟨written ++ arguments[number].toList, rest⟩ := by
  simp [step?, argument?_placeholder h]

theorem step?_openBrace (h : ¬ Opens count (openBrace :: text)) :
    step? arguments.toList ⟨written, openBrace :: text⟩ = some ⟨written ++ [openBrace], text⟩ := by
  simp [step?, argument?_eq_none h]

/-- A step takes everything up to the next opening brace with it. -/
theorem step?_cons {arguments : List String} {c : Char} (h : c ≠ openBrace) :
    step? arguments ⟨written, c :: text⟩ = step? arguments ⟨written ++ [c], text⟩ := by
  simp [step?, h]

theorem Ends.cons {arguments : List String} {c : Char} {steps : Nat} {message : List Char}
    (hc : c ≠ openBrace) (h : Ends arguments ⟨written ++ [c], text⟩ steps message) :
    Ends arguments ⟨written, c :: text⟩ steps message := by
  cases h with
  | done hstep =>
    rw [List.append_assoc]
    exact .done ((step?_cons hc).trans hstep)
  | step hstep hnext => exact .step ((step?_cons hc).trans hstep) hnext

/-- A pass takes a step for each opening brace: a placeholder has one, and every other one is passed
over by itself. -/
theorem ends_fill (written text : List Char) :
    Ends arguments.toList ⟨written, text⟩ (text.count openBrace)
      (written ++ fill arguments.toList text) := by
  induction text using induct count generalizing written with
  | nil =>
    rw [fill]
    exact .done rfl
  | placeholder numeral number rest hnumeral ih =>
    have hcount : (openBrace :: (numeral ++ closeBrace :: rest)).count openBrace =
        rest.count openBrace + 1 := by
      have hbraces : (closeBrace == openBrace) = false := by decide
      simp [List.count_cons, List.count_eq_zero.2 hnumeral.openBrace_notMem, hbraces]
    rw [hcount, fill_placeholder hnumeral, ← List.append_assoc]
    exact .step (step?_placeholder hnumeral) (ih _)
  | literal c rest hopens ih =>
    have hmessage : written ++ fill arguments.toList (c :: rest) =
        written ++ [c] ++ fill arguments.toList rest := by
      rw [fill_cons hopens, List.append_assoc, List.singleton_append]
    rw [hmessage]
    by_cases hc : c = openBrace
    · rw [hc, List.count_cons_self]
      exact .step (step?_openBrace (hc ▸ hopens)) (ih _)
    · -- the character belongs to the step that comes to the next brace, or to the end
      rw [List.count_cons_of_ne hc]
      exact (ih _).cons hc

end Pass

/-- For each number of arguments a format falls in one way into literal text and placeholders for one
of the arguments. Whatever the arguments are, the message consists of the literal text as it is and
the arguments as they are in the places of the placeholders, and the pass that writes it ends after
as many steps as the format has opening braces. -/
theorem apply_eq_fillPieces (format : String) (count : Nat) :
    (∀ pieces, HasPieces count format.toList pieces ↔ pieces = piecesOf count format.toList) ∧
    ∀ arguments : Vector String count,
      MessageFormat.apply format arguments.toList =
        String.ofList (fillPieces arguments (piecesOf count format.toList)) ∧
      Pass.Ends arguments.toList ⟨[], format.toList⟩ (format.toList.count openBrace)
        (MessageFormat.apply format arguments.toList).toList := by
  refine ⟨fun pieces => hasPieces_iff, fun arguments => ⟨?_, ?_⟩⟩
  · rw [MessageFormat.apply, fill_eq_fillPieces]
  · rw [MessageFormat.apply, String.toList_ofList]
    exact Pass.ends_fill [] format.toList

/- A brace that is not closed around a numeral for an argument is text. -/
example : piecesOf 2 "\x7b\x7b+01\x7d, \x7b2\x7d\x7b0".toList =
    [.literal ['\x7b'], .placeholder ['+', '0', '1'] 1,
      .literal [',', ' ', '\x7b', '2', '\x7d', '\x7b', '0']] := by
  decide +kernel

end MessageFormat

end Forwarder
