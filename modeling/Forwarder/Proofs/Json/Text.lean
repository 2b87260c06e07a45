import Forwarder.Json.Reader
import Forwarder.Json.Writer

/-!
# Texts of JSON values

What is written of a value is read back as that value, in both layouts, as long as every part of it
has a text of its own: there is nothing illegible in it, and its numbers are unsigned integers of 64
bits. The scanners are followed one token at a time. What a token is scanned to does not depend on
what stands behind it, provided that cannot go on the token.
-/

namespace Forwarder.Json

variable {rest : List Char}

/-- What stands behind a value: nothing, a blank, a comma or a closing bracket. -/
def EndsToken (rest : List Char) : Prop :=
  ∀ c, rest.head? = some c → isBlank c = true ∨ c = ',' ∨ c = ']' ∨ c = '}'

/-! ## Numbers -/

theorem decimalDigit?_eq (c : Char) :
    decimalDigit? c = if c.isDigit then some (c.toNat - '0'.toNat) else none := rfl

theorem EndsToken.head_ne {c : Char} {later : List Char} (h : EndsToken (c :: later)) :
    c.isDigit = false ∧ c ≠ '.' ∧ c ≠ 'e' ∧ c ≠ 'E' := by
  have hcases := h c rfl
  simp only [isBlank, Bool.or_eq_true, decide_eq_true_eq, or_assoc] at hcases
  rcases hcases with rfl | rfl | rfl | rfl | rfl | rfl | rfl <;> decide

/-- Digits are taken up to the end of their token. -/
theorem scanDigits_append {digits : List Char} (hdigits : ∀ c ∈ digits, c.isDigit = true)
    (hrest : EndsToken rest) :
    scanDigits (digits ++ rest) = (digits.map fun c => c.toNat - '0'.toNat, rest) := by
  induction digits with
  | nil =>
    cases rest with
    | nil => rfl
    | cons c later =>
      rw [List.nil_append, scanDigits, decimalDigit?_eq, hrest.head_ne.1]
      rfl
  | cons c later ih =>
    have hlater := ih fun d hd => hdigits d (List.mem_cons_of_mem _ hd)
    rw [List.cons_append, scanDigits, decimalDigit?_eq, hdigits c List.mem_cons_self, hlater]
    rfl

/-- The digits of a number begin with a zero for zero only. -/
theorem exists_toDigits_eq_cons {n : Nat} (h : 0 < n) :
    ∃ c later, Nat.toDigits 10 n = c :: later ∧ c ≠ '0' := by
  induction n using Nat.base_induction 10 (by decide) with
  | single m hm =>
    refine ⟨m.digitChar, [], Nat.toDigits_of_lt_base hm, fun hzero => ?_⟩
    rw [Nat.digitChar_eq_zero] at hzero
    omega
  | digit m k hk hm ih =>
    obtain ⟨c, later, hdigits, hc⟩ := ih hm
    refine ⟨c, later ++ Nat.toDigits 10 k, ?_, hc⟩
    rw [← Nat.toDigits_append_toDigits (by decide) hm hk, hdigits, List.cons_append]

theorem isDigit_of_mem_toDigits {n : Nat} {c : Char} (h : c ∈ Nat.toDigits 10 n) :
    c.isDigit = true :=
  Nat.isDigit_of_mem_toDigits (by decide) (by decide) h

/-- The values of the digits of a number. -/
def digitsOf (n : Nat) : List Nat := (Nat.toDigits 10 n).map fun c => c.toNat - '0'.toNat

theorem ofDigits_digitsOf (n : Nat) : ofDigits (digitsOf n) = n := by
  have hread := Nat.ofDigitChars_toDigits (b := 10) (n := n) (by decide) (by decide)
  rw [Nat.ofDigitChars_eq_foldl] at hread
  rw [ofDigits, digitsOf, List.foldl_map]
  simpa only [Nat.mul_comm] using hread

theorem scanWhole_toDigits (n : Nat) (hrest : EndsToken rest) :
    scanWhole (Nat.toDigits 10 n ++ rest) = some (digitsOf n, rest) := by
  rcases Nat.eq_zero_or_pos n with rfl | hpos
  · have hnil : ∀ c ∈ ([] : List Char), c.isDigit = true := fun c hc => absurd hc List.not_mem_nil
    have hnone : scanDigits rest = ([], rest) := scanDigits_append hnil hrest
    rw [Nat.toDigits_zero, List.singleton_append, scanWhole, hnone]
    rfl
  · obtain ⟨c, later, hdigits, hc⟩ := exists_toDigits_eq_cons hpos
    have hscan : scanDigits (Nat.toDigits 10 n ++ rest) = (digitsOf n, rest) :=
      scanDigits_append (fun c hc => isDigit_of_mem_toDigits hc) hrest
    have hsome : scanSomeDigits (Nat.toDigits 10 n ++ rest) = some (digitsOf n, rest) := by
      rw [scanSomeDigits, hscan, digitsOf, hdigits]
      rfl
    rw [← hsome, hdigits, List.cons_append]
    unfold scanWhole
    split
    · rename_i heq
      obtain ⟨rfl, -⟩ := List.cons.inj heq
      exact absurd rfl hc
    · rfl

/-- The literal of a natural number. -/
def natLiteral (n : Nat) : NumberLiteral := ⟨false, digitsOf n, [], none⟩

theorem scanNumber_toDigits (n : Nat) (hrest : EndsToken rest) :
    scanNumber (Nat.toDigits 10 n ++ rest) = some (natLiteral n, rest) := by
  have hfraction : scanFraction rest = some ([], rest) := by
    cases rest with
    | nil => rfl
    | cons c later =>
      unfold scanFraction
      split
      · rename_i heq
        obtain ⟨rfl, -⟩ := List.cons.inj heq
        exact absurd rfl hrest.head_ne.2.1
      · rfl
  have hexponent : scanExponent rest = some (none, rest) := by
    cases rest with
    | nil => rfl
    | cons c later =>
      unfold scanExponent
      split
      · rename_i heq
        obtain ⟨rfl, -⟩ := List.cons.inj heq
        exact absurd rfl hrest.head_ne.2.2.1
      · rename_i heq
        obtain ⟨rfl, -⟩ := List.cons.inj heq
        exact absurd rfl hrest.head_ne.2.2.2
      · rfl
  have hmagnitude : scanMagnitude false (Nat.toDigits 10 n ++ rest) =
      some (natLiteral n, rest) := by
    rw [scanMagnitude, scanWhole_toDigits n hrest]
    simp only [Option.bind_eq_bind, Option.bind_some, hfraction, hexponent]
    rfl
  rw [← hmagnitude]
  unfold scanNumber
  split
  · -- there is no sign in front of digits
    rename_i heq
    obtain ⟨c, later, hdigits⟩ :=
      List.exists_cons_of_ne_nil (Nat.toDigits_ne_nil (n := n) (b := 10))
    rw [hdigits, List.cons_append] at heq
    obtain ⟨rfl, -⟩ := List.cons.inj heq
    have hdigit : '-'.isDigit = true :=
      isDigit_of_mem_toDigits (hdigits ▸ List.mem_cons_self)
    exact absurd hdigit (by decide)
  · rfl

theorem ofLiteral_natLiteral {n : Nat} (h : n < UInt64.size) :
    ofLiteral (natLiteral n) = nat n := by
  have hnumber : (natLiteral n).number? = some (.integer n) := by
    rw [NumberLiteral.number?]
    simp [natLiteral, ofDigits_digitsOf, h]
  rw [ofLiteral, hnumber]
  rfl

/-! ## Strings -/

/-- The characters behind a backslash and one letter. -/
def shortEscapes : List (Char × Char) :=
  [('"', '"'), ('\\', '\\'), ('\x08', 'b'), ('\t', 't'), ('\n', 'n'), ('\x0c', 'f'), ('\r', 'r')]

/-- The piece of a literal that a character is written as. -/
def pieceOf (c : Char) : Piece :=
  if c.toNat < 0x20 ∧ shortEscapes.lookup c = none then .unit c.toNat else .char c

theorem hexUnit?_hexChar : ∀ n < 0x20,
    hexUnit? '0' '0' (hexChar (n / 16)) (hexChar (n % 16)) = some n := by
  decide

/-- A character behind a backslash and one letter is scanned as such. -/
theorem scanPieces_letter {c letter : Char} (h : simpleEscape? letter = some c)
    (rest : List Char) :
    scanPieces ('\\' :: letter :: rest) =
      (scanPieces rest).map fun scanned => (.char c :: scanned.1, scanned.2) := by
  have hletter : letter ≠ 'u' := by
    rintro rfl
    cases h
  rw [scanPieces.eq_4 letter rest fun _ _ _ _ _ heq => absurd heq hletter, h]
  cases scanPieces rest <;> rfl

/-- A character is scanned to its piece. -/
theorem scanPieces_escapeChar (c : Char) (rest : List Char) :
    scanPieces (escapeChar c ++ rest) =
      (scanPieces rest).map fun scanned => (pieceOf c :: scanned.1, scanned.2) := by
  by_cases hshort : c ∈ shortEscapes.map (·.1)
  · simp only [shortEscapes, List.map_cons, List.map_nil, List.mem_cons, List.not_mem_nil,
      or_false] at hshort
    rcases hshort with rfl | rfl | rfl | rfl | rfl | rfl | rfl <;> exact scanPieces_letter rfl rest
  · have hlookup : shortEscapes.lookup c = none := by
      simpa [List.lookup_eq_none_iff, shortEscapes] using hshort
    simp only [shortEscapes, List.map_cons, List.map_nil, List.mem_cons, List.not_mem_nil,
      or_false, not_or] at hshort
    obtain ⟨hquote, hbackslash, hback, htab, hline, hform, hreturn⟩ := hshort
    by_cases hcontrol : c.toNat < 0x20
    · have hescape : escapeChar c =
          ['\\', 'u', '0', '0', hexChar (c.toNat / 16), hexChar (c.toNat % 16)] := by
        simp [escapeChar, hquote, hbackslash, hback, htab, hline, hform, hreturn, hcontrol]
      have hpiece : pieceOf c = .unit c.toNat := if_pos ⟨hcontrol, hlookup⟩
      rw [hescape, hpiece]
      simp only [List.cons_append, List.nil_append, scanPieces, hexUnit?_hexChar _ hcontrol]
      cases scanPieces rest <;> rfl
    · have hescape : escapeChar c = [c] := by
        simp [escapeChar, hquote, hbackslash, hback, htab, hline, hform, hreturn, hcontrol]
      have hpiece : pieceOf c = .char c := if_neg fun h => hcontrol h.1
      rw [hescape, hpiece, List.singleton_append, scanPieces.eq_5 c rest hquote
        (fun _ _ _ _ _ heq => absurd heq hbackslash) (fun _ _ heq => absurd heq hbackslash)]
      simp only [hcontrol, hbackslash, decide_false, Bool.or_false, Bool.false_eq_true, if_false]
      cases scanPieces rest <;> rfl

theorem scanPieces_escapeChars (text rest : List Char) :
    scanPieces (escapeChars text ++ '"' :: rest) = some (text.map pieceOf, rest) := by
  induction text with
  | nil => rfl
  | cons c later ih =>
    rw [escapeChars, List.append_assoc, scanPieces_escapeChar, ih]
    rfl

/-- A character is put together from its piece. -/
theorem assemble?_pieceOf (text : List Char) : assemble? (text.map pieceOf) = some text := by
  induction text with
  | nil => rfl
  | cons c later ih =>
    rw [List.map_cons, pieceOf]
    split
    · rename_i hunit
      have hleading : isLeadingUnit c.toNat = false := by
        rw [isLeadingUnit, Bool.and_eq_false_iff]
        left
        simpa using Nat.lt_trans hunit.1 (by decide)
      have htrailing : isTrailingUnit c.toNat = false := by
        rw [isTrailingUnit, Bool.and_eq_false_iff]
        left
        simpa using Nat.lt_trans hunit.1 (by decide)
      unfold assemble?
      simp only [hleading, htrailing, Bool.false_eq_true, if_false, ih, Char.ofNat_toNat]
      rfl
    · rw [assemble?, ih]
      rfl

theorem scanString_stringLiteral (text : String) (rest : List Char) :
    scanString (escapeChars text.toList ++ '"' :: rest) = some (some text, rest) := by
  rw [scanString, scanPieces_escapeChars]
  simp only [Option.bind_eq_bind, Option.bind_some, assemble?_pieceOf, Option.map_some,
    String.ofList_toList]
  rfl

/-! ## Values -/

/-- Every part of a value has a text of its own: nothing is illegible, and numbers are unsigned
integers of 64 bits. -/
inductive Exact : Json → Prop where
  /-- The value `null`. -/
  | null : Exact .null
  /-- A truth value. -/
  | bool (value : Bool) : Exact (.bool value)
  /-- An unsigned integer. -/
  | nat {n : Nat} (h : n < UInt64.size) : Exact (nat n)
  /-- A string. -/
  | string (text : String) : Exact (.string text)
  /-- An array. -/
  | array {items : List Json} (h : ∀ item ∈ items, Exact item) : Exact (.array items)
  /-- An object. -/
  | object {fields : List (String × Json)} (h : ∀ field ∈ fields, Exact field.2) :
    Exact (.object fields)

@[simp] theorem exact_string (text : String) : (string text).Exact := .string text

@[simp] theorem exact_array_iff {items : List Json} :
    (array items).Exact ↔ ∀ item ∈ items, item.Exact := by
  refine ⟨fun h => ?_, .array⟩
  cases h with
  | array h => exact h

@[simp] theorem exact_object_iff {fields : List (String × Json)} :
    (object fields).Exact ↔ ∀ field ∈ fields, field.2.Exact := by
  refine ⟨fun h => ?_, .object⟩
  cases h with
  | object h => exact h

/-- There may be only blanks. -/
def AllBlank (blanks : List Char) : Prop := ∀ c ∈ blanks, isBlank c = true

theorem AllBlank.nil : AllBlank [] := fun _ hc => absurd hc List.not_mem_nil

/-- A text is scanned to a value whatever stands behind it. -/
structure Scans (value : Json) (text : List Char) : Prop where
  /-- It begins with the value at once. -/
  start : ∃ c later, text = c :: later ∧ isBlank c = false ∧ c ≠ ']'
  /-- It is scanned with as much fuel as it has characters. -/
  scan : ∀ fuel rest, text.length ≤ fuel → EndsToken rest →
    scanValue fuel (text ++ rest) = some (value, rest)

/-- A text is scanned to the items of an array, its closing bracket included. -/
structure ScansItems (items : List Json) (text : List Char) : Prop where
  /-- It begins with the first item at once. -/
  start : ∃ c later, text = c :: later ∧ isBlank c = false ∧ c ≠ ']'
  /-- It is scanned with as much fuel as it has characters. -/
  scan : ∀ fuel rest, text.length ≤ fuel → scanItems fuel (text ++ rest) = some (items, rest)

/-- A text is scanned to the fields of an object, its closing brace included. -/
structure ScansFields (fields : List (String × Json)) (text : List Char) : Prop where
  /-- It begins with the name of the first field at once. -/
  start : ∃ later, text = '"' :: later
  /-- It is scanned with as much fuel as it has characters. -/
  scan : ∀ fuel rest, text.length ≤ fuel → scanFields fuel (text ++ rest) =
    some (fields.map fun field => (some field.1, field.2), rest)

theorem skipBlanks_append {blanks text : List Char} (hblanks : AllBlank blanks)
    (htext : ∀ c, text.head? = some c → isBlank c = false) :
    skipBlanks (blanks ++ text) = text := by
  rw [skipBlanks, List.dropWhile_append_of_pos hblanks]
  cases text with
  | nil => rfl
  | cons c later => simp [htext c rfl]

theorem ofFields_named (fields : List (String × Json)) :
    ofFields (fields.map fun field => (some field.1, field.2)) = .object fields := by
  have hnamed : ∀ reader : Option String × Json → Option (String × Json),
      (∀ field : String × Json, reader (some field.1, field.2) = some field) →
      (fields.map fun field => (some field.1, field.2)).mapM reader = some fields := by
    intro reader hreader
    induction fields with
    | nil => rfl
    | cons field later ih =>
      rw [List.map_cons, List.mapM_cons, hreader, ih]
      rfl
  rw [ofFields, hnamed _ fun _ => rfl]

theorem EndsToken.of_mem_close {c : Char} (h : c = ',' ∨ c = ']' ∨ c = '}') (rest : List Char) :
    EndsToken (c :: rest) := by
  intro d hd
  obtain rfl : c = d := Option.some.inj hd
  exact Or.inr h

theorem exists_fuel {c : Char} {later : List Char} {fuel : Nat}
    (h : (c :: later).length ≤ fuel) : ∃ less, fuel = less + 1 ∧ later.length ≤ less := by
  rw [List.length_cons] at h
  exact ⟨fuel - 1, by omega, by omega⟩

namespace Scans

theorem null : Scans .null ['n', 'u', 'l', 'l'] := by
  refine ⟨⟨'n', _, rfl, by decide, by decide⟩, fun fuel rest hfuel _ => ?_⟩
  obtain ⟨less, rfl, -⟩ := exists_fuel hfuel
  simp only [List.cons_append, List.nil_append, scanValue]

theorem bool (value : Bool) : Scans (.bool value) (boolText value) := by
  cases value with
  | true =>
    refine ⟨⟨'t', _, rfl, by decide, by decide⟩, fun fuel rest hfuel _ => ?_⟩
    obtain ⟨less, rfl, -⟩ := exists_fuel hfuel
    simp only [boolText, List.cons_append, List.nil_append, scanValue]
  | false =>
    refine ⟨⟨'f', _, rfl, by decide, by decide⟩, fun fuel rest hfuel _ => ?_⟩
    obtain ⟨less, rfl, -⟩ := exists_fuel hfuel
    simp only [boolText, List.cons_append, List.nil_append, scanValue]

theorem string (text : String) : Scans (.string text) (stringLiteral text) := by
  refine ⟨⟨'"', _, rfl, by decide, by decide⟩, fun fuel rest hfuel _ => ?_⟩
  obtain ⟨less, rfl, -⟩ := exists_fuel hfuel
  rw [stringLiteral, List.cons_append, List.append_assoc, List.singleton_append, scanValue,
    scanString_stringLiteral]
  rfl

theorem nat {n : Nat} (h : n < UInt64.size) : Scans (nat n) (Nat.toDigits 10 n) := by
  obtain ⟨c, later, hdigits⟩ :=
    List.exists_cons_of_ne_nil (Nat.toDigits_ne_nil (n := n) (b := 10))
  have hdigit : c.isDigit = true := isDigit_of_mem_toDigits (hdigits ▸ List.mem_cons_self)
  have hne : ∀ d : Char, d.isDigit = false → c ≠ d := by
    rintro d hd rfl
    rw [hdigit] at hd
    cases hd
  have hblank : isBlank c = false := by
    simp [isBlank, hne ' ' (by decide), hne '\t' (by decide), hne '\n' (by decide),
      hne '\r' (by decide)]
  refine ⟨⟨c, later, hdigits, hblank, hne ']' (by decide)⟩, fun fuel rest hfuel hrest => ?_⟩
  have hscan := scanNumber_toDigits n hrest
  rw [hdigits] at hfuel hscan ⊢
  obtain ⟨less, rfl, -⟩ := exists_fuel hfuel
  rw [List.cons_append] at hscan ⊢
  unfold scanValue
  split
  all_goals try
    rename_i heq
    exact absurd (List.cons.inj heq).1 (hne _ (by decide))
  rw [hscan, ← ofLiteral_natLiteral h]
  rfl

end Scans

/-! ## Arrays -/

variable {blanks text : List Char} {item : Json} {items : List Json}

/-- Behind an item there are blanks at most before the bracket or the comma. -/
theorem endsToken_blanks {c : Char} (hblanks : AllBlank blanks)
    (hc : c = ',' ∨ c = ']' ∨ c = '}') (rest : List Char) : EndsToken (blanks ++ c :: rest) := by
  cases blanks with
  | nil => exact .of_mem_close hc rest
  | cons blank later =>
    intro d hd
    obtain rfl : blank = d := Option.some.inj hd
    exact Or.inl (hblanks blank List.mem_cons_self)

theorem skipBlanks_close {c : Char} (hblanks : AllBlank blanks)
    (hc : c = ',' ∨ c = ':' ∨ c = ']' ∨ c = '}') (rest : List Char) :
    skipBlanks (blanks ++ c :: rest) = c :: rest := by
  refine skipBlanks_append hblanks fun d hd => ?_
  obtain rfl : c = d := Option.some.inj hd
  rcases hc with rfl | rfl | rfl | rfl <;> decide

theorem ScansItems.last (hitem : Scans item text) (hblanks : AllBlank blanks) :
    ScansItems [item] (text ++ (blanks ++ [']'])) := by
  obtain ⟨⟨c, later, rfl, hstart⟩, hscan⟩ := hitem
  refine ⟨⟨c, later ++ (blanks ++ [']']), rfl, hstart⟩, fun fuel rest hfuel => ?_⟩
  rw [List.cons_append] at hfuel
  obtain ⟨less, rfl, hless⟩ := exists_fuel hfuel
  have hlength : (c :: later).length ≤ less := by
    simp only [List.length_append, List.length_cons, List.length_nil] at hless ⊢
    omega
  have hclose : EndsToken (blanks ++ ']' :: rest) := endsToken_blanks hblanks (by simp) rest
  have hskip : skipBlanks (blanks ++ ']' :: rest) = ']' :: rest :=
    skipBlanks_close hblanks (by simp) rest
  have htext : c :: later ++ (blanks ++ [']']) ++ rest =
      c :: later ++ (blanks ++ ']' :: rest) := by
    simp
  rw [htext, scanItems, hscan less _ hlength hclose]
  simp only [Option.bind_eq_bind, Option.bind_some, hskip]
  rfl

theorem ScansItems.cons {later : List Char} (hitem : Scans item text)
    (hblanks : AllBlank blanks) (hitems : ScansItems items later) :
    ScansItems (item :: items) (text ++ ',' :: (blanks ++ later)) := by
  obtain ⟨⟨c, tail, rfl, hstart⟩, hscan⟩ := hitem
  refine ⟨⟨c, tail ++ ',' :: (blanks ++ later), rfl, hstart⟩, fun fuel rest hfuel => ?_⟩
  rw [List.cons_append] at hfuel
  obtain ⟨less, rfl, hless⟩ := exists_fuel hfuel
  simp only [List.length_append, List.length_cons] at hless
  have hlength : (c :: tail).length ≤ less := by
    rw [List.length_cons]
    omega
  have hcomma : EndsToken (',' :: (blanks ++ (later ++ rest))) := .of_mem_close (by simp) _
  have hskip : skipBlanks (blanks ++ (later ++ rest)) = later ++ rest := by
    obtain ⟨d, tail', rfl, hd, -⟩ := hitems.start
    refine skipBlanks_append hblanks fun e he => ?_
    obtain rfl : d = e := Option.some.inj he
    exact hd
  have htext : c :: tail ++ ',' :: (blanks ++ later) ++ rest =
      c :: tail ++ ',' :: (blanks ++ (later ++ rest)) := by
    simp
  have hcommaSkip : skipBlanks (',' :: (blanks ++ (later ++ rest))) =
      ',' :: (blanks ++ (later ++ rest)) :=
    skipBlanks_close .nil (by simp) _
  rw [htext, scanItems, hscan less _ hlength hcomma]
  simp only [Option.bind_eq_bind, Option.bind_some, hcommaSkip, hskip,
    hitems.scan less rest (by omega)]
  rfl

theorem Scans.array (hitems : ScansItems items text) (hblanks : AllBlank blanks) :
    Scans (.array items) ('[' :: (blanks ++ text)) := by
  refine ⟨⟨'[', _, rfl, by decide, by decide⟩, fun fuel rest hfuel _ => ?_⟩
  obtain ⟨less, rfl, hless⟩ := exists_fuel hfuel
  rw [List.length_append] at hless
  obtain ⟨c, later, rfl, hc, hbracket⟩ := hitems.start
  have hskip : skipBlanks (blanks ++ (c :: later ++ rest)) = c :: later ++ rest := by
    refine skipBlanks_append hblanks fun d hd => ?_
    obtain rfl : c = d := Option.some.inj hd
    exact hc
  have hscan := hitems.scan less rest (by omega)
  rw [List.cons_append, List.append_assoc, scanValue, hskip]
  split
  · rename_i heq
    exact absurd (List.cons.inj heq).1 hbracket
  · rw [hscan]
    rfl

theorem Scans.array_nil : Scans (.array []) ['[', ']'] := by
  refine ⟨⟨'[', _, rfl, by decide, by decide⟩, fun fuel rest hfuel _ => ?_⟩
  obtain ⟨less, rfl, -⟩ := exists_fuel hfuel
  have hskip : skipBlanks (']' :: rest) = ']' :: rest :=
    skipBlanks_close .nil (by simp) rest
  simp only [List.cons_append, List.nil_append, scanValue, hskip]

/-! ## Objects -/

variable {name : String} {value : Json} {fields : List (String × Json)} {before : List Char}

/-- A field is scanned up to what stands behind its value. -/
theorem scanFields_field {fuel : Nat} (hvalue : Scans value text)
    (hbefore : AllBlank before) (hfuel : text.length ≤ fuel)
    (hrest : EndsToken rest) :
    scanFields (fuel + 1) (stringLiteral name ++ ':' :: (before ++ (text ++ rest))) =
      match skipBlanks rest with
      | '}' :: rest => some ([(some name, value)], rest)
      | ',' :: rest => (scanFields fuel (skipBlanks rest)).map fun scanned =>
        ((some name, value) :: scanned.1, scanned.2)
      | _ => none := by
  obtain ⟨⟨c, later, rfl, hc, -⟩, hscan⟩ := hvalue
  have hcolon : skipBlanks (':' :: (before ++ (c :: later ++ rest))) =
      ':' :: (before ++ (c :: later ++ rest)) :=
    skipBlanks_close .nil (by simp) _
  have hskip : skipBlanks (before ++ (c :: later ++ rest)) = c :: later ++ rest := by
    refine skipBlanks_append hbefore fun d hd => ?_
    obtain rfl : c = d := Option.some.inj hd
    exact hc
  rw [stringLiteral, List.cons_append, List.append_assoc, List.singleton_append, scanFields,
    scanString_stringLiteral]
  simp only [Option.bind_eq_bind, Option.bind_some, hcolon, hskip, hscan fuel rest hfuel hrest]
  generalize skipBlanks rest = behind
  rcases behind with _ | ⟨d, behind⟩
  · rfl
  by_cases hbrace : d = '}'
  · subst hbrace
    rfl
  by_cases hcomma : d = ','
  · subst hcomma
    show ((scanFields fuel (skipBlanks behind)).bind fun scanned =>
      some ((some name, value) :: scanned.1, scanned.2)) = _
    exact Option.map_eq_bind.symm
  · simp [hbrace, hcomma]

theorem ScansFields.last (hvalue : Scans value text) (hbefore : AllBlank before)
    (hblanks : AllBlank blanks) : ScansFields [(name, value)]
      (stringLiteral name ++ ':' :: (before ++ (text ++ (blanks ++ ['}'])))) := by
  refine ⟨⟨_, rfl⟩, fun fuel rest hfuel => ?_⟩
  obtain ⟨less, rfl⟩ : ∃ less, fuel = less + 1 :=
    ⟨fuel - 1, by simp only [List.length_append, List.length_cons] at hfuel; omega⟩
  have hlength : text.length ≤ less := by
    simp only [List.length_append, List.length_cons] at hfuel
    omega
  have hclose : EndsToken (blanks ++ '}' :: rest) := endsToken_blanks hblanks (by simp) rest
  have hskip : skipBlanks (blanks ++ '}' :: rest) = '}' :: rest :=
    skipBlanks_close hblanks (by simp) rest
  have htext : stringLiteral name ++ ':' :: (before ++ (text ++ (blanks ++ ['}']))) ++ rest =
      stringLiteral name ++ ':' :: (before ++ (text ++ (blanks ++ '}' :: rest))) := by
    simp
  rw [htext, scanFields_field hvalue hbefore hlength hclose, hskip]
  rfl

theorem ScansFields.cons {later : List Char} (hvalue : Scans value text)
    (hbefore : AllBlank before) (hblanks : AllBlank blanks)
    (hfields : ScansFields fields later) : ScansFields ((name, value) :: fields)
      (stringLiteral name ++ ':' :: (before ++ (text ++ ',' :: (blanks ++ later)))) := by
  refine ⟨⟨_, rfl⟩, fun fuel rest hfuel => ?_⟩
  obtain ⟨less, rfl⟩ : ∃ less, fuel = less + 1 :=
    ⟨fuel - 1, by simp only [List.length_append, List.length_cons] at hfuel; omega⟩
  simp only [List.length_append, List.length_cons] at hfuel
  have hcomma : EndsToken (',' :: (blanks ++ (later ++ rest))) := .of_mem_close (by simp) _
  have hcommaSkip : skipBlanks (',' :: (blanks ++ (later ++ rest))) =
      ',' :: (blanks ++ (later ++ rest)) :=
    skipBlanks_close .nil (by simp) _
  have hskip : skipBlanks (blanks ++ (later ++ rest)) = later ++ rest := by
    obtain ⟨tail, rfl⟩ := hfields.start
    refine skipBlanks_append hblanks fun d hd => ?_
    obtain rfl : '"' = d := Option.some.inj hd
    decide
  have htext : stringLiteral name ++ ':' :: (before ++ (text ++ ',' :: (blanks ++ later))) ++ rest =
      stringLiteral name ++ ':' :: (before ++ (text ++ ',' :: (blanks ++ (later ++ rest)))) := by
    simp
  rw [htext, scanFields_field hvalue hbefore (by omega) hcomma, hcommaSkip]
  simp only [hskip, hfields.scan less rest (by omega)]
  rfl

theorem Scans.object (hfields : ScansFields fields text)
    (hblanks : AllBlank blanks) :
    Scans (.object fields) ('{' :: (blanks ++ text)) := by
  refine ⟨⟨'{', _, rfl, by decide, by decide⟩, fun fuel rest hfuel _ => ?_⟩
  obtain ⟨less, rfl, hless⟩ := exists_fuel hfuel
  rw [List.length_append] at hless
  obtain ⟨later, rfl⟩ := hfields.start
  have hskip : skipBlanks (blanks ++ ('"' :: later ++ rest)) = '"' :: later ++ rest := by
    refine skipBlanks_append hblanks fun d hd => ?_
    obtain rfl : '"' = d := Option.some.inj hd
    decide
  have hscan := hfields.scan less rest (by omega)
  rw [List.cons_append, List.append_assoc, scanValue, hskip]
  split
  · rename_i heq
    exact absurd (List.cons.inj heq).1 (by decide)
  · rw [hscan, ← ofFields_named fields]
    rfl

theorem Scans.object_nil : Scans (.object []) ['{', '}'] := by
  refine ⟨⟨'{', _, rfl, by decide, by decide⟩, fun fuel rest hfuel _ => ?_⟩
  obtain ⟨less, rfl, -⟩ := exists_fuel hfuel
  have hskip : skipBlanks ('}' :: rest) = '}' :: rest :=
    skipBlanks_close .nil (by simp) rest
  simp only [List.cons_append, List.nil_append, scanValue, hskip]

/-! ## Layouts -/

theorem scansItems_compactItems {items : List Json} (hne : items ≠ [])
    (h : ∀ item ∈ items, Scans item item.compactChars) :
    ScansItems items (compactItems items) := by
  induction items with
  | nil => exact absurd rfl hne
  | cons item later ih =>
    have hitem := h item List.mem_cons_self
    rw [compactItems]
    cases later with
    | nil => exact .last hitem .nil
    | cons next rest =>
      have hlater := ih (by simp) fun other hother => h other (List.mem_cons_of_mem _ hother)
      have hcons := ScansItems.cons hitem .nil hlater
      exact hcons

theorem scansFields_compactFields {fields : List (String × Json)} (hne : fields ≠ [])
    (h : ∀ field ∈ fields, Scans field.2 field.2.compactChars) :
    ScansFields fields (compactFields fields) := by
  induction fields with
  | nil => exact absurd rfl hne
  | cons field later ih =>
    obtain ⟨name, value⟩ := field
    have hvalue := h (name, value) List.mem_cons_self
    rw [compactFields]
    cases later with
    | nil => exact .last hvalue .nil .nil
    | cons next rest =>
      have hlater := ih (by simp) fun other hother => h other (List.mem_cons_of_mem _ hother)
      have hcons : ScansFields ((name, value) :: next :: rest) (stringLiteral name ++
          ':' :: ([] ++ (value.compactChars ++ ',' :: ([] ++ compactFields (next :: rest))))) :=
        .cons hvalue .nil .nil hlater
      exact hcons

/-- The compact layout of a value is scanned to it. -/
theorem Exact.scans_compactChars (h : Exact value) : Scans value value.compactChars := by
  induction h with
  | null => exact .null
  | bool value => exact .bool value
  | nat hlt => exact .nat hlt
  | string text => exact .string text
  | @array items _ ih =>
    rw [compactChars]
    by_cases hne : items = []
    · subst hne
      exact .array_nil
    · exact .array (scansItems_compactItems hne ih) .nil
  | @object fields _ ih =>
    rw [compactChars]
    by_cases hne : fields = []
    · subst hne
      exact .object_nil
    · exact .object (scansFields_compactFields hne ih) .nil

theorem allBlank_newLine (level : Nat) : AllBlank (newLine level) := by
  intro c hmem
  rcases List.mem_cons.1 hmem with rfl | hspace
  · decide
  · rw [List.eq_of_mem_replicate hspace]
    decide

/-- Every item of an indented array comes behind a new line. -/
theorem exists_scansItems_indentedItems {level : Nat} {items : List Json} (hne : items ≠ [])
    (h : ∀ item ∈ items, Scans item (item.indentedChars level)) :
    ∃ text, indentedItems level items = newLine level ++ text ∧ ScansItems items text := by
  induction items with
  | nil => exact absurd rfl hne
  | cons item later ih =>
    have hitem := h item List.mem_cons_self
    rw [indentedItems, List.append_assoc]
    refine ⟨_, rfl, ?_⟩
    cases later with
    | nil => exact .last hitem (allBlank_newLine _)
    | cons next rest =>
      obtain ⟨text, htext, hlater⟩ :=
        ih (by simp) fun other hother => h other (List.mem_cons_of_mem _ hother)
      rw [htext]
      exact .cons hitem (allBlank_newLine _) hlater

/-- Every field of an indented object comes behind a new line. -/
theorem exists_scansFields_indentedFields {level : Nat} {fields : List (String × Json)}
    (hne : fields ≠ []) (h : ∀ field ∈ fields, Scans field.2 (field.2.indentedChars level)) :
    ∃ text, indentedFields level fields = newLine level ++ text ∧ ScansFields fields text := by
  induction fields with
  | nil => exact absurd rfl hne
  | cons field later ih =>
    obtain ⟨name, value⟩ := field
    have hvalue := h (name, value) List.mem_cons_self
    have hspace : AllBlank [' '] := by simp [AllBlank, isBlank]
    rw [indentedFields, List.append_assoc]
    refine ⟨_, rfl, ?_⟩
    cases later with
    | nil => exact .last hvalue hspace (allBlank_newLine _)
    | cons next rest =>
      obtain ⟨text, htext, hlater⟩ :=
        ih (by simp) fun other hother => h other (List.mem_cons_of_mem _ hother)
      rw [htext]
      exact .cons hvalue hspace (allBlank_newLine _) hlater

/-- The indented layout of a value is scanned to it, at whatever level it stands. -/
theorem Exact.scans_indentedChars (h : Exact value) (level : Nat) :
    Scans value (value.indentedChars level) := by
  induction h generalizing level with
  | null => exact .null
  | bool value => exact .bool value
  | nat hlt => exact .nat hlt
  | string text => exact .string text
  | @array items _ ih =>
    rw [indentedChars]
    by_cases hne : items = []
    · subst hne
      exact .array_nil
    · obtain ⟨text, htext, hitems⟩ :=
        exists_scansItems_indentedItems hne fun item hitem => ih item hitem (level + 1)
      rw [if_neg (by simpa using hne), htext]
      exact .array hitems (allBlank_newLine _)
  | @object fields _ ih =>
    rw [indentedChars]
    by_cases hne : fields = []
    · subst hne
      exact .object_nil
    · obtain ⟨text, htext, hfields⟩ := exists_scansFields_indentedFields hne
        fun field hfield => ih field hfield (level + 1)
      rw [if_neg (by simpa using hne), htext]
      exact .object hfields (allBlank_newLine _)

theorem Scans.parse? (h : Scans value text) : parse? (String.ofList text) = some value := by
  obtain ⟨⟨c, later, rfl, hc, -⟩, hscan⟩ := h
  have hskip : skipBlanks (c :: later) = c :: later := by
    simp [skipBlanks, hc]
  have hvalue := hscan ((c :: later).length + 1) [] (Nat.le_succ _) (by simp [EndsToken])
  rw [List.append_nil] at hvalue
  rw [Json.parse?, String.toList_ofList, parseChars?, hskip, hvalue]
  rfl

/-- What is written of a value in either layout stands for that value. -/
theorem Exact.parse? (h : Exact value) :
    parse? value.compact = some value ∧ parse? value.indented = some value :=
  ⟨h.scans_compactChars.parse?, (h.scans_indentedChars 0).parse?⟩

end Forwarder.Json
