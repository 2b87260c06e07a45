import Mathlib.Data.List.Basic
import Forwarder.Proofs.TypeExpr.Mentions
import Forwarder.TypeExpr.Printer

/-!
# The text of a reference with gaps

How a named type is written depends on its definition: a predefined type goes by its keyword, a
nullable value by a question mark, and everything else by its name with its arguments in brackets.
Replacement changes arguments but no definition, so it takes none of these decisions anew. What
remains fixed is the pattern of a reference, its text in a style with a gap for each mention of a
type parameter. Whatever an assignment puts in for the type parameters, the text of the result is
the same pattern, with the texts of what was put in in its gaps.
-/

namespace Forwarder

/-- A part of a text with gaps. -/
inductive PatternPart where
  /-- Text that is always the same. -/
  | text (content : String)
  /-- A gap for what a type parameter stands for. -/
  | gap (name : String)
  deriving DecidableEq, Repr

namespace PatternPart

/-- The text of a part, given what to write for type parameters. -/
def fill (texts : String → String) : PatternPart → String
  | .text content => content
  | .gap name => texts name

/-- The type parameter that a part leaves a gap for. -/
def name? : PatternPart → Option String
  | .text _ => none
  | .gap name => some name

end PatternPart

/-- The text of a pattern, given what to write for type parameters. -/
def fillPattern (texts : String → String) (parts : List PatternPart) : String :=
  String.join (parts.map (·.fill texts))

/-- The type parameters that a pattern has gaps for, as often as it has. -/
def patternNames (parts : List PatternPart) : List String := parts.filterMap (·.name?)

namespace TypeExpr

/-- The pattern of a named type, from the patterns of its arguments. -/
def namedPattern (style : Qualification) (head : TypeName) (arguments : List (List PatternPart)) :
    List PatternPart :=
  match keyword? ⟨head, arguments.length⟩ with
  | some keyword => [.text keyword]
  | none =>
    if (⟨head, arguments.length⟩ : OpenType) = nullableValue then arguments.flatten ++ [.text "?"]
    else if arguments = [] then [.text (headText style head)]
    else .text (headText style head) :: .text "<" ::
      [.text ", "].intercalate arguments ++ [.text ">"]

mutual

/-- The pattern of a reference in a style. -/
def pattern (style : Qualification) : TypeExpr → List PatternPart
  | .void => [.text "void"]
  | .named head arguments => namedPattern style head (patternAll style arguments)
  | .parameter name => [.gap name]
  | .array element rank => element.pattern style ++ [.text (rankText rank)]
  | .pointer pointee => pointee.pattern style ++ [.text "*"]
  | .nullable underlying => underlying.pattern style ++ [.text "?"]
  | .unresolved name => [.text name]

/-- The patterns of several references in a style. -/
def patternAll (style : Qualification) : List TypeExpr → List (List PatternPart)
  | [] => []
  | argument :: rest => argument.pattern style :: patternAll style rest

end

theorem patternAll_eq_map (style : Qualification) (arguments : List TypeExpr) :
    patternAll style arguments = arguments.map (pattern style) := by
  induction arguments with
  | nil => rfl
  | cons argument rest ih => rw [patternAll, ih, List.map_cons]

end TypeExpr

/-! ## Filling -/

variable {texts : String → String}

@[simp]
theorem fillPattern_nil : fillPattern texts [] = "" := rfl

@[simp]
theorem fillPattern_cons (part : PatternPart) (parts : List PatternPart) :
    fillPattern texts (part :: parts) = part.fill texts ++ fillPattern texts parts := by
  rw [fillPattern, List.map_cons, String.join_cons, ← fillPattern]

@[simp]
theorem fillPattern_append (parts others : List PatternPart) :
    fillPattern texts (parts ++ others) = fillPattern texts parts ++ fillPattern texts others := by
  rw [fillPattern, List.map_append, String.join_append, ← fillPattern, ← fillPattern]

theorem fillPattern_flatten (patterns : List (List PatternPart)) :
    fillPattern texts patterns.flatten = String.join (patterns.map (fillPattern texts)) := by
  induction patterns with
  | nil => rfl
  | cons parts rest ih =>
    rw [List.flatten_cons, fillPattern_append, ih, List.map_cons, String.join_cons]

theorem fillPattern_intercalate (separator : String) (patterns : List (List PatternPart)) :
    fillPattern texts ([.text separator].intercalate patterns) =
      separator.intercalate (patterns.map (fillPattern texts)) := by
  induction patterns with
  | nil => simp
  | cons parts rest ih =>
    cases rest with
    | nil => simp
    | cons next rest =>
      rw [List.intercalate_cons_cons, fillPattern_append, fillPattern_append, ih]
      simp [PatternPart.fill]

namespace TypeExpr

/-- Filling the pattern of a named type makes the same choices as writing the type does: they depend
on the number of arguments and not on the arguments. -/
theorem fillPattern_namedPattern (style : Qualification) (head : TypeName)
    (patterns : List (List PatternPart)) :
    fillPattern texts (namedPattern style head patterns) =
      namedText style head (patterns.map (fillPattern texts)) := by
  rw [namedPattern, namedText, List.length_map]
  cases keyword? ⟨head, patterns.length⟩ with
  | some keyword => simp [PatternPart.fill]
  | none =>
    by_cases hnullable : (⟨head, patterns.length⟩ : OpenType) = nullableValue
    · simp [hnullable, fillPattern_flatten, PatternPart.fill]
    · simp only [if_neg hnullable]
      by_cases hempty : patterns = []
      · simp [hempty, PatternPart.fill]
      · simp [hempty, PatternPart.fill, fillPattern_intercalate, String.append_assoc]

/-- After a replacement the text of a reference is its pattern with the texts of what was put
in. -/
theorem display_subst (style : Qualification) (assignment : Assignment) (type : TypeExpr) :
    (type.subst assignment).display style =
      fillPattern (fun name => ((parameter name).subst assignment).display style)
        (type.pattern style) := by
  induction type using TypeExpr.induct with
  | void | unresolved _ => simp [subst, display, pattern, PatternPart.fill]
  | named head arguments ih =>
    rw [subst, display, pattern, fillPattern_namedPattern, displayAll_eq_map, substAll_eq_map,
      patternAll_eq_map, List.map_map, List.map_map]
    congr 1
    exact List.map_congr_left ih
  | parameter own => simp [pattern, PatternPart.fill]
  | array element rank ih => simp [subst, display, pattern, PatternPart.fill, ih]
  | pointer pointee ih => simp [subst, display, pattern, PatternPart.fill, ih]
  | nullable underlying ih => simp [subst, display, pattern, PatternPart.fill, ih]

/-! ## Gaps -/

theorem patternNames_append (parts others : List PatternPart) :
    patternNames (parts ++ others) = patternNames parts ++ patternNames others :=
  List.filterMap_append

theorem patternNames_intercalate (separator : String) (patterns : List (List PatternPart)) :
    patternNames ([.text separator].intercalate patterns) = patterns.flatMap patternNames := by
  induction patterns with
  | nil => rfl
  | cons parts rest ih =>
    cases rest with
    | nil => simp
    | cons next rest =>
      rw [List.intercalate_cons_cons, patternNames_append, patternNames_append, ih,
        List.flatMap_cons]
      simp [patternNames, PatternPart.name?]

theorem patternNames_flatten (patterns : List (List PatternPart)) :
    patternNames patterns.flatten = patterns.flatMap patternNames := by
  rw [patternNames, List.filterMap_flatten]
  rfl

/-- A keyword stands for a definition without type parameters. -/
theorem arity_of_keyword? {openType : OpenType} {keyword : String}
    (h : keyword? openType = some keyword) : openType.arity = 0 := by
  rw [keyword?] at h
  split at h
  · rename_i hpredefined
    simp only [Bool.and_eq_true, decide_eq_true_eq] at hpredefined
    exact hpredefined.1.1
  · cases h

/-- No argument of a named type is left out of its pattern. -/
theorem patternNames_namedPattern (style : Qualification) (head : TypeName)
    (patterns : List (List PatternPart)) :
    patternNames (namedPattern style head patterns) = patterns.flatMap patternNames := by
  rw [namedPattern]
  cases hkeyword : keyword? ⟨head, patterns.length⟩ with
  | some keyword =>
    -- a keyword has no place for arguments, so there must be none to leave out
    have hempty : patterns = [] := List.length_eq_zero_iff.1 (arity_of_keyword? hkeyword)
    rw [hempty]
    rfl
  | none =>
    by_cases hnullable : (⟨head, patterns.length⟩ : OpenType) = nullableValue
    · simp only [if_pos hnullable, patternNames_append, patternNames_flatten]
      exact List.append_nil _
    · simp only [if_neg hnullable]
      by_cases hempty : patterns = []
      · rw [if_pos hempty, hempty]
        rfl
      · rw [if_neg hempty, patternNames_append, ← patternNames_intercalate ", "]
        exact List.append_nil _

/-- A pattern has a gap for each mention of a type parameter, in their order. -/
theorem patternNames_pattern (style : Qualification) (type : TypeExpr) :
    patternNames (type.pattern style) = type.mentioned := by
  have htext : ∀ parts content, patternNames (parts ++ [.text content]) = patternNames parts :=
    fun parts content => (patternNames_append parts _).trans (List.append_nil _)
  induction type using TypeExpr.induct with
  | void | unresolved _ | parameter _ => rfl
  | named head arguments ih =>
    rw [pattern, patternNames_namedPattern, patternAll_eq_map, List.flatMap_map, mentioned,
      mentionedByAll_eq_flatMap]
    exact List.flatMap_congr ih
  | array element rank ih => rw [pattern, htext, ih, mentioned]
  | pointer pointee ih => rw [pattern, htext, ih, mentioned]
  | nullable underlying ih => rw [pattern, htext, ih, mentioned]

/-- Writing a reference and replacing type parameters change places. In every style a reference has
a pattern of fixed texts with a gap for each mention of a type parameter. With the names of the type
parameters in the gaps it is the text of the reference, and with the texts of what an assignment
gives to them it is the text of the reference after the replacement. -/
theorem display_eq_fillPattern (style : Qualification) (type : TypeExpr) :
    patternNames (type.pattern style) = type.mentioned ∧
    type.display style = fillPattern id (type.pattern style) ∧
    ∀ assignment : Assignment, (type.subst assignment).display style =
      fillPattern (fun name => (assignment name).elim name (display style))
        (type.pattern style) := by
  refine ⟨patternNames_pattern style type, ?_, fun assignment => ?_⟩
  · have hnone := display_subst style (fun _ => none) type
    rwa [subst_none] at hnone
  · have hgiven : ∀ name, ((parameter name).subst assignment).display style =
        (assignment name).elim name (display style) := by
      intro name
      rw [subst]
      cases assignment name <;> rfl
    rw [display_subst]
    simp only [hgiven]

/- A nullable value has its question mark by its definition, whatever its argument comes to. -/
example : (construct (some "System") "Nullable" [.array (.parameter "T") 2]).pattern .full =
    [.gap "T", .text "[,]", .text "?"] := by decide +kernel

end TypeExpr

end Forwarder
