import Forwarder.Proofs.Text.Identifier

/-!
# Folding as joining words

A text is a row of words, which are runs of word characters that go on in neither direction, with
gaps of other characters between them. Folding goes through the text once and remembers whether it
has written anything and whether a gap has passed since. What it writes are the words with single
underscores between them: a gap shows only when the next word begins, so those at the two ends leave
nothing, and an underscore of the text is a word character like any other.
-/

namespace Forwarder.Text

/-! ## Words and gaps -/

/-- The maximal runs of word characters in a text, in their order. -/
def wordRuns (text : List Char) : List (List Char) :=
  (text.splitOnP fun c => !isWordChar c).filter (· ≠ [])

/-- A text consists of words with gaps around them. Behind a word there is a character that does not
belong to it, or nothing. -/
inductive HasWords : List Char → List (List Char) → Prop where
  /-- There is only a gap. -/
  | gap {gap : List Char} (hgap : ∀ c ∈ gap, isWordChar c = false) : HasWords gap []
  /-- A gap comes before the first word. -/
  | word {gap word rest : List Char} {words : List (List Char)}
      (hgap : ∀ c ∈ gap, isWordChar c = false) (hne : word ≠ [])
      (hword : ∀ c ∈ word, isWordChar c = true) (hend : ∀ c ∈ rest.head?, isWordChar c = false)
      (hrest : HasWords rest words) : HasWords (gap ++ (word ++ rest)) (word :: words)

variable {text word rest : List Char} {c : Char}

theorem wordRuns_cons_of_not_word (h : isWordChar c = false) :
    wordRuns (c :: text) = wordRuns text := by
  rw [wordRuns, List.splitOnP_cons_eq_if_modifyHead, if_pos (by simp [h]), wordRuns]
  exact List.filter_cons_of_neg (by simp)

theorem wordRuns_of_gap (h : ∀ c ∈ text, isWordChar c = false) : wordRuns text = [] := by
  induction text with
  | nil => simp [wordRuns]
  | cons c rest ih =>
    rw [wordRuns_cons_of_not_word (h c List.mem_cons_self)]
    exact ih fun c hmem => h c (List.mem_cons_of_mem _ hmem)

/-- A word at the front of a text is its first word, if it ends there. -/
theorem wordRuns_append (hne : word ≠ []) (hword : ∀ c ∈ word, isWordChar c = true)
    (hend : ∀ c ∈ rest.head?, isWordChar c = false) :
    wordRuns (word ++ rest) = word :: wordRuns rest := by
  have hnone : ∀ c ∈ word, (!isWordChar c) = false := fun c hmem => by simp [hword c hmem]
  cases rest with
  | nil =>
    rw [List.append_nil, wordRuns, List.splitOnP_eq_singleton hnone]
    simp [hne, wordRuns]
  | cons c rest =>
    have hc : isWordChar c = false := hend c rfl
    rw [wordRuns_cons_of_not_word hc, wordRuns,
      List.splitOnP_append_cons_of_forall_mem hnone c (by simp [hc])]
    exact List.filter_cons_of_pos (by simpa using hne)

/-- The first word goes on as long as there are word characters. -/
theorem isWordChar_of_mem_cons_takeWhile (h : isWordChar c = true) :
    ∀ d ∈ c :: text.takeWhile isWordChar, isWordChar d = true := by
  intro d hmem
  rcases List.mem_cons.1 hmem with rfl | hmem
  · exact h
  · exact List.all_eq_true.1 List.all_takeWhile d hmem

theorem not_isWordChar_of_mem_head?_dropWhile :
    ∀ d ∈ (text.dropWhile isWordChar).head?, isWordChar d = false := by
  intro d hmem
  have hnot := List.head?_dropWhile_not isWordChar text
  rw [Option.mem_def.1 hmem] at hnot
  simpa using hnot

theorem wordRuns_cons_of_word (h : isWordChar c = true) :
    wordRuns (c :: text) =
      (c :: text.takeWhile isWordChar) :: wordRuns (text.dropWhile isWordChar) := by
  rw [← wordRuns_append (List.cons_ne_nil _ _) (isWordChar_of_mem_cons_takeWhile h)
    not_isWordChar_of_mem_head?_dropWhile, List.cons_append, List.takeWhile_append_dropWhile]

theorem HasWords.cons {words : List (List Char)} (hc : isWordChar c = false)
    (h : HasWords text words) : HasWords (c :: text) words := by
  cases h with
  | gap hgap => exact .gap (List.forall_mem_cons.2 ⟨hc, hgap⟩)
  | word hgap hne hword hend hrest =>
    exact .word (List.forall_mem_cons.2 ⟨hc, hgap⟩) hne hword hend hrest

/-- A text consists of its maximal runs. -/
theorem hasWords_wordRuns (text : List Char) : HasWords text (wordRuns text) := by
  match text with
  | [] => exact .gap (by simp)
  | c :: rest =>
    cases h : isWordChar c with
    | false =>
      rw [wordRuns_cons_of_not_word h]
      exact (hasWords_wordRuns rest).cons h
    | true =>
      rw [wordRuns_cons_of_word h]
      have hword : ∀ d ∈ c :: rest.takeWhile isWordChar, isWordChar d = true :=
        isWordChar_of_mem_cons_takeWhile h
      have hrest := hasWords_wordRuns (rest.dropWhile isWordChar)
      have hwords := HasWords.word (List.forall_mem_nil _) (List.cons_ne_nil c _) hword
        not_isWordChar_of_mem_head?_dropWhile hrest
      rwa [List.nil_append, List.cons_append, List.takeWhile_append_dropWhile] at hwords
termination_by text.length
decreasing_by
  · simp
  · have hle := (List.dropWhile_sublist isWordChar (l := rest)).length_le
    simp only [List.length_cons]
    omega

/-- The maximal runs are the words that a text consists of, and it consists of no others. -/
theorem hasWords_iff {words : List (List Char)} : HasWords text words ↔ words = wordRuns text := by
  constructor
  · intro h
    induction h with
    | gap hgap => exact (wordRuns_of_gap hgap).symm
    | @word gap word rest words hgap hne hword hend hrest ih =>
      induction gap with
      | nil => rw [List.nil_append, wordRuns_append hne hword hend, ih]
      | cons c gap ihgap =>
        rw [List.cons_append, wordRuns_cons_of_not_word (hgap c List.mem_cons_self)]
        exact ihgap fun c hmem => hgap c (List.mem_cons_of_mem _ hmem)
  · rintro rfl
    exact hasWords_wordRuns text

/-! ## Folding -/

/-- Words behind something else, each with an underscore before it. -/
def wordsBehind (words : List (List Char)) : List Char := words.flatMap ('_' :: ·)

theorem intercalate_cons_eq (word : List Char) (words : List (List Char)) :
    ['_'].intercalate (word :: words) = word ++ wordsBehind words := by
  induction words generalizing word with
  | nil => simp [wordsBehind]
  | cons next words ih =>
    rw [List.intercalate_cons_cons, ih, wordsBehind, wordsBehind, List.flatMap_cons]
    simp

/-- Once something is written, folding writes the remaining words behind it. After a gap they all
are still to begin; without one, the word that is being written is finished first. -/
theorem joinWordsFrom_started (text : List Char) :
    joinWordsFrom true true text = wordsBehind (wordRuns text) ∧
      joinWordsFrom true false text =
        text.takeWhile isWordChar ++ wordsBehind (wordRuns (text.dropWhile isWordChar)) := by
  induction text with
  | nil => simp [joinWordsFrom, wordRuns, wordsBehind]
  | cons c rest ih =>
    obtain ⟨hgap, hword⟩ := ih
    cases h : isWordChar c with
    | false => simp [joinWordsFrom, h, hgap, wordRuns_cons_of_not_word h]
    | true =>
      simp [joinWordsFrom, h, hword, wordRuns_cons_of_word h, wordsBehind]

/-- Before anything is written, gaps make no difference, and folding writes all words. -/
theorem joinWordsFrom_unstarted (gap : Bool) (text : List Char) :
    joinWordsFrom false gap text = ['_'].intercalate (wordRuns text) := by
  induction text generalizing gap with
  | nil => simp [joinWordsFrom, wordRuns]
  | cons c rest ih =>
    cases h : isWordChar c with
    | false => simp [joinWordsFrom, h, ih, wordRuns_cons_of_not_word h]
    | true =>
      rw [wordRuns_cons_of_word h, intercalate_cons_eq, List.cons_append,
        ← (joinWordsFrom_started rest).2]
      simp [joinWordsFrom, h]

/-- Folding leaves out no word character. -/
theorem filter_sublist_joinWordsFrom (started gap : Bool) (text : List Char) :
    (text.filter isWordChar).Sublist (joinWordsFrom started gap text) := by
  induction text generalizing started gap with
  | nil => exact .slnil
  | cons c rest ih =>
    rw [joinWordsFrom]
    cases h : isWordChar c with
    | false =>
      rw [List.filter_cons_of_neg (by simp [h])]
      exact ih started true
    | true =>
      rw [List.filter_cons_of_pos h, if_pos rfl]
      split
      · exact ((ih true false).cons_cons c).cons '_'
      · exact (ih true false).cons_cons c

theorem joinWords_eq (text : String) :
    joinWords text = "_".intercalate ((wordRuns text.toList).map String.ofList) := by
  rw [joinWords, joinWordsFrom_unstarted, ← String.toList_inj, String.toList_ofList,
    String.toList_intercalate, List.map_map]
  have hlists : String.toList ∘ String.ofList = id := funext fun _ => String.toList_ofList
  rw [hlists, List.map_id]
  rfl

/-- A text of word characters is folded into itself. -/
theorem joinWords_eq_self {text : String} (h : ∀ c ∈ text.toList, isWordChar c = true) :
    joinWords text = text := by
  rw [joinWords_eq]
  by_cases hempty : text.toList = []
  · have hruns : wordRuns text.toList = [] := by rw [hempty]; exact wordRuns_of_gap (by simp)
    rw [hruns, List.map_nil, String.intercalate_nil, ← String.toList_inj, hempty]
    rfl
  · have hruns : wordRuns text.toList = [text.toList] := by
      rw [← List.append_nil text.toList, wordRuns_append hempty h (by simp),
        wordRuns_of_gap (by simp), List.append_nil]
    rw [hruns, List.map_singleton, String.intercalate_singleton, String.ofList_toList]

/-- Folding joins the words of a text, its maximal runs of word characters in their order, by single
underscores. So it writes word characters only, leaves none out, and does nothing the second
time. -/
theorem joinWords_eq_intercalate (text : String) :
    (∀ words, HasWords text.toList words ↔ words = wordRuns text.toList) ∧
    joinWords text = "_".intercalate ((wordRuns text.toList).map String.ofList) ∧
    (∀ c ∈ (joinWords text).toList, isWordChar c = true) ∧
    (text.toList.filter isWordChar).Sublist (joinWords text).toList ∧
    joinWords (joinWords text) = joinWords text := by
  have hword : ∀ c ∈ (joinWords text).toList, isWordChar c = true :=
    fun c => isWordChar_of_mem_joinWords
  refine ⟨fun words => hasWords_iff, joinWords_eq text, hword, ?_, joinWords_eq_self hword⟩
  rw [joinWords, String.toList_ofList]
  exact filter_sublist_joinWordsFrom false false text.toList

/- Gaps at the ends leave nothing, and underscores of the text are not gaps. -/
example : joinWords "<_a__b>[, c_] " = "_a__b_c_" := by decide +kernel

end Forwarder.Text
