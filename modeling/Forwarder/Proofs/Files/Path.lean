import Mathlib.Data.List.TakeDrop
import Forwarder.Files.Path

/-!
# Paths of plain names in a directory

A path that goes on from a directory by a plain name has the components of the directory and then
the name, and its temporary path goes on from the same directory by a name with another extension.
Two names that end in the same suffix keep out of each other's way: the temporary name of one is
never the other one.
-/

namespace Forwarder.Path

/-! ## Pieces -/

theorem pieces_ne_nil (path : List Char) : pieces path ≠ [] := by
  cases path with
  | nil => simp [pieces]
  | cons c rest =>
    rw [pieces]
    split
    · simp
    · cases pieces rest <;> simp

theorem pieces_of_not_mem {name : List Char} (h : '/' ∉ name) : pieces name = [name] := by
  induction name with
  | nil => rfl
  | cons c rest ih =>
    have hc : c ≠ '/' := fun heq => h (heq ▸ List.mem_cons_self)
    rw [pieces, if_neg hc, ih fun hmem => h (List.mem_cons_of_mem _ hmem)]

/-- A slash ends a piece. -/
theorem pieces_append_slash (before after : List Char) :
    pieces (before ++ '/' :: after) = pieces before ++ pieces after := by
  induction before with
  | nil =>
    rw [List.nil_append, pieces]
    rfl
  | cons c rest ih =>
    rw [List.cons_append, pieces, pieces, ih]
    by_cases hc : c = '/'
    · rw [if_pos hc, if_pos hc]
      rfl
    · rw [if_neg hc, if_neg hc]
      cases hrest : pieces rest with
      | nil => exact absurd hrest (pieces_ne_nil rest)
      | cons piece others => rfl

/-! ## Names -/

/-- A name can stand as a component of a path: it is neither empty nor a dot and has no slash. -/
structure IsComponent (name : String) : Prop where
  /-- It is not empty. -/
  ne_empty : name ≠ ""
  /-- It does not lead to where it stands. -/
  ne_dot : name ≠ "."
  /-- It has no slash. -/
  slash_not_mem : '/' ∉ name.toList

/-- A name is that of a file: it can stand as a component, and it does not lead up. -/
structure IsPlain (name : String) : Prop extends IsComponent name where
  /-- It does not lead up. -/
  ne_dots : name ≠ ".."

instance (name : String) : Decidable (IsComponent name) :=
  decidable_of_iff (name ≠ "" ∧ name ≠ "." ∧ '/' ∉ name.toList)
    ⟨fun ⟨ne_empty, ne_dot, slash_not_mem⟩ => ⟨ne_empty, ne_dot, slash_not_mem⟩,
      fun ⟨ne_empty, ne_dot, slash_not_mem⟩ => ⟨ne_empty, ne_dot, slash_not_mem⟩⟩

instance (name : String) : Decidable (IsPlain name) :=
  decidable_of_iff (IsComponent name ∧ name ≠ "..")
    ⟨fun ⟨component, ne_dots⟩ => ⟨component, ne_dots⟩, fun h => ⟨h.toIsComponent, h.ne_dots⟩⟩

/-- With three characters or more a name is that of a file unless there is a slash in it. -/
theorem isPlain_iff_of_three_le {name : String} (h : 3 ≤ name.length) :
    IsPlain name ↔ '/' ∉ name.toList := by
  refine ⟨fun hplain => hplain.slash_not_mem, fun hslash => ?_⟩
  have hne : ∀ short : String, short.length < 3 → name ≠ short := by
    rintro short hshort rfl
    omega
  exact ⟨⟨hne "" (by decide), hne "." (by decide), hslash⟩, hne ".." (by decide)⟩

namespace IsComponent

variable {name : String}

theorem isAbsolute_eq_false (h : IsComponent name) : isAbsolute name = false := by
  rw [isAbsolute]
  cases hlist : name.toList with
  | nil => rfl
  | cons c rest =>
    have hc : c ≠ '/' := fun heq => h.slash_not_mem (hlist ▸ heq ▸ List.mem_cons_self)
    simpa using hc

end IsComponent

/-! ## Going on from a directory -/

/-- The part of the path of a directory that a component is put behind, with a slash between. -/
def base (directory : String) : List Char :=
  if directory.toList.getLast? = some '/' then directory.toList.dropLast else directory.toList

theorem toList_eq_base {directory : String} (h : directory.toList.getLast? = some '/') :
    directory.toList = base directory ++ ['/'] := by
  obtain ⟨before, hbefore⟩ := List.getLast?_eq_some_iff.1 h
  rw [base, if_pos h, hbefore, List.dropLast_concat]

theorem toList_join {directory name : String} (hname : IsComponent name) (h : directory ≠ "") :
    (join directory name).toList = base directory ++ '/' :: name.toList := by
  have hjoin : (isAbsolute name || decide (directory = "")) = false := by
    simp [hname.isAbsolute_eq_false, h]
  rw [join]
  simp only [hjoin, Bool.false_eq_true, if_false]
  split
  · rename_i hlast
    rw [String.toList_append, toList_eq_base hlast, List.append_assoc]
    rfl
  · rename_i hlast
    simp [base, hlast]

theorem join_empty (name : String) : join "" name = name := by
  simp [join]

/-- The pieces of a directory, up to an empty one, are those of its base. -/
theorem components_base (directory : String) :
    ((pieces (base directory)).map String.ofList).filter (fun piece => piece ≠ "" && piece ≠ ".") =
      components directory := by
  rw [components]
  by_cases hlast : directory.toList.getLast? = some '/'
  · rw [toList_eq_base hlast, pieces_append_slash, List.map_append, List.filter_append]
    simp [pieces]
  · rw [base, if_neg hlast]

theorem components_join (directory : String) {name : String} (h : IsComponent name) :
    components (join directory name) = components directory ++ [name] := by
  have hself : ((pieces name.toList).map String.ofList).filter
      (fun piece => piece ≠ "" && piece ≠ ".") = [name] := by
    rw [pieces_of_not_mem h.slash_not_mem]
    simp [h.ne_empty, h.ne_dot]
  by_cases hempty : directory = ""
  · subst hempty
    rw [join_empty, components, hself]
    rfl
  · rw [components, toList_join h hempty, pieces_append_slash, List.map_append, List.filter_append,
      components_base, hself]

theorem isAbsolute_join (directory : String) {name : String} (h : IsComponent name) :
    isAbsolute (join directory name) = isAbsolute directory := by
  by_cases hempty : directory = ""
  · subst hempty
    rw [join_empty, h.isAbsolute_eq_false]
    rfl
  · rw [isAbsolute, isAbsolute, toList_join h hempty, base]
    cases hlist : directory.toList with
    | nil => exact absurd (String.toList_injective hlist) hempty
    | cons c rest =>
      cases rest with
      | nil =>
        by_cases hc : c = '/'
        · simp [hc]
        · simp [hc]
      | cons d rest =>
        split <;> simp

/-! ## Temporary paths -/

/-- The last component of a path ends where a slash stands, or at the beginning of the path. -/
theorem splitLast_append {name before : List Char} (hne : name ≠ []) (hdot : name ≠ ['.'])
    (hslash : '/' ∉ name) (hbefore : before = [] ∨ ∃ rest, before = '/' :: rest) :
    splitLast (name ++ before) = (name, before) := by
  have hspan : (name ++ before).span (· ≠ '/') = (name, before) := by
    have hall : ∀ c ∈ name, decide (c ≠ '/') = true := by
      intro c hc
      simpa using fun heq : c = '/' => hslash (heq ▸ hc)
    rw [List.span_eq_takeWhile_dropWhile, List.takeWhile_append_of_pos hall,
      List.dropWhile_append_of_pos hall]
    rcases hbefore with rfl | ⟨rest, rfl⟩ <;> simp
  unfold splitLast
  split
  · rename_i heq
    exact absurd (List.append_eq_nil_iff.1 heq).1 hne
  · rename_i rest heq
    cases name with
    | nil => exact absurd rfl hne
    | cons c name =>
      obtain ⟨rfl, -⟩ := List.cons.inj heq
      exact absurd List.mem_cons_self hslash
  · rename_i rest heq
    rcases name with _ | ⟨c, _ | ⟨d, name⟩⟩
    · exact absurd rfl hne
    · obtain ⟨rfl, -⟩ := List.cons.inj heq
      exact absurd rfl hdot
    · obtain ⟨-, heq⟩ := List.cons.inj heq
      obtain ⟨rfl, -⟩ := List.cons.inj heq
      exact absurd (List.mem_cons_of_mem _ List.mem_cons_self) hslash
  · exact hspan

/-- The characters of the temporary name for a name, which is given in reverse. -/
def temporaryName (name : List Char) : List Char :=
  match splitExtension name with
  | none => name.reverse ++ ['.', 't', 'm', 'p']
  | some (_, ['.']) => ['.', '.']
  | some (_, stem) => stem.reverse ++ ['.', 't', 'm', 'p']

/-- The temporary path of a path begins with what comes before its last component, and the rest
depends on that component only. -/
theorem toList_temporary {path : String} {name before : List Char}
    (h : splitLast path.toList.reverse = (name, before)) (hne : name ≠ []) (hdot : name ≠ ['.'])
    (hdots : name ≠ ['.', '.']) :
    (temporary path).toList = before.reverse ++ temporaryName name := by
  rw [temporary, h]
  simp only [List.isEmpty_iff, hne, hdot, hdots, Bool.or_false, decide_false, if_false]
  rw [temporaryName]
  -- no extension, nothing but a dot before it, or a proper stem
  cases splitExtension name with
  | none => simp
  | some parts =>
    obtain ⟨_, stem⟩ := parts
    by_cases hstem : stem = ['.']
    · simp [hstem]
    · simp

namespace IsPlain

variable {name : String}

theorem reverse_ne_dots (h : IsPlain name) : name.toList.reverse ≠ ['.', '.'] := by
  intro heq
  have hname : name.toList = ['.', '.'] := by simpa using congrArg List.reverse heq
  exact h.ne_dots (String.toList_injective hname)

theorem reverse_ne_dot (h : IsPlain name) : name.toList.reverse ≠ ['.'] := by
  intro heq
  have hname : name.toList = ['.'] := by simpa using congrArg List.reverse heq
  exact h.ne_dot (String.toList_injective hname)

theorem reverse_ne_nil (h : IsPlain name) : name.toList.reverse ≠ [] := by
  simpa using h.ne_empty

theorem slash_not_mem_reverse (h : IsPlain name) : '/' ∉ name.toList.reverse := by
  simpa using h.slash_not_mem

/-- The characters of the temporary path of a name on its own. -/
theorem toList_temporary (h : IsPlain name) :
    (temporary name).toList = temporaryName name.toList.reverse := by
  have hsplit : splitLast name.toList.reverse = (name.toList.reverse, []) := by
    have hself := splitLast_append h.reverse_ne_nil h.reverse_ne_dot h.slash_not_mem_reverse
      (Or.inl rfl)
    rwa [List.append_nil] at hself
  exact Path.toList_temporary hsplit h.reverse_ne_nil h.reverse_ne_dot h.reverse_ne_dots

end IsPlain

/-- An extension begins behind the last dot of a name, unless the name begins with that dot. -/
theorem splitExtension_append {extension stem : List Char} (h : '.' ∉ extension)
    (hstem : stem ≠ []) : splitExtension (extension ++ '.' :: stem) = some (extension, stem) := by
  have hall : ∀ c ∈ extension, decide (c ≠ '.') = true := by
    intro c hc
    simpa using fun heq : c = '.' => h (heq ▸ hc)
  have hspan : (extension ++ '.' :: stem).span (· ≠ '.') = (extension, '.' :: stem) := by
    rw [List.span_eq_takeWhile_dropWhile, List.takeWhile_append_of_pos hall,
      List.dropWhile_append_of_pos hall]
    simp
  rw [splitExtension, hspan]
  cases stem with
  | nil => exact absurd rfl hstem
  | cons c rest => rfl

theorem subset_of_splitExtension {name extension stem : List Char}
    (h : splitExtension name = some (extension, stem)) : stem ⊆ name := by
  rw [splitExtension, List.span_eq_takeWhile_dropWhile] at h
  split at h
  · cases h
  · cases h
  · rename_i hspan
    cases h
    obtain ⟨-, hdrop⟩ := Prod.mk.inj hspan
    intro c hc
    have hmem : c ∈ name.dropWhile (· ≠ '.') := by
      rw [hdrop]
      exact List.mem_cons_of_mem _ hc
    exact (List.dropWhile_suffix _).subset hmem

theorem slash_not_mem_temporaryName {name : List Char} (h : '/' ∉ name) :
    '/' ∉ temporaryName name := by
  rw [temporaryName]
  split
  · simpa using h
  · simp
  · rename_i stem _ hsplit
    have hstem : '/' ∉ stem := fun hmem => h (subset_of_splitExtension hsplit hmem)
    simpa using hstem

theorem two_le_length_temporaryName (name : List Char) : 2 ≤ (temporaryName name).length := by
  rw [temporaryName]
  split <;> simp

/-- The temporary path of a plain name can stand as a component, though it may lead up. -/
theorem IsPlain.isComponent_temporary {name : String} (h : IsPlain name) :
    IsComponent (temporary name) := by
  have hlength := two_le_length_temporaryName name.toList.reverse
  rw [← h.toList_temporary] at hlength
  refine ⟨fun heq => ?_, fun heq => ?_, ?_⟩
  · rw [heq] at hlength
    exact absurd hlength (by decide)
  · rw [heq] at hlength
    exact absurd hlength (by decide)
  · rw [h.toList_temporary]
    exact slash_not_mem_temporaryName h.slash_not_mem_reverse

/-- The temporary path of a path that goes on from a directory by a name goes on from there by the
temporary path of the name. -/
theorem temporary_join (directory : String) {name : String} (h : IsPlain name) :
    temporary (join directory name) = join directory (temporary name) := by
  by_cases hempty : directory = ""
  · subst hempty
    rw [join_empty, join_empty]
  · have hsplit : splitLast (join directory name).toList.reverse =
        (name.toList.reverse, '/' :: (base directory).reverse) := by
      have happend := splitLast_append h.reverse_ne_nil h.reverse_ne_dot h.slash_not_mem_reverse
        (Or.inr ⟨(base directory).reverse, rfl⟩)
      rw [toList_join h.toIsComponent hempty]
      simpa using happend
    apply String.toList_injective
    rw [toList_temporary hsplit h.reverse_ne_nil h.reverse_ne_dot h.reverse_ne_dots,
      toList_join h.isComponent_temporary hempty, h.toList_temporary]
    simp

/-! ## Names with the same suffix -/

/-- Among names that end in a suffix with a dot in it, and have something before that, the temporary
path of one is none of the others. -/
theorem temporary_ne {a b stemA stemB suffix : String} (ha : IsPlain a) (hb : IsPlain b)
    (hstemA : a = stemA ++ suffix) (hstemB : b = stemB ++ suffix) (hneA : stemA ≠ "")
    (hneB : stemB ≠ "") (hdot : '.' ∈ suffix.toList) (h : a ≠ b) : temporary a ≠ b := by
  -- the extension is that of the suffix, and `stem` is what the suffix has before it
  obtain ⟨extension, stem, hsuffix, hextension⟩ :=
    List.eq_append_cons_of_mem (List.mem_reverse.2 hdot)
  have hreverse : ∀ {name head : String}, name = head ++ suffix →
      name.toList.reverse = extension ++ '.' :: (stem ++ head.toList.reverse) := by
    intro name head hname
    rw [hname, String.toList_append, List.reverse_append, hsuffix]
    simp
  have hsplit : ∀ {name head : String}, name = head ++ suffix → head ≠ "" →
      splitExtension name.toList.reverse = some (extension, stem ++ head.toList.reverse) := by
    intro name head hname hne
    rw [hreverse hname]
    refine splitExtension_append hextension ?_
    simpa using fun _ => hne
  intro heq
  have htemporary := ha.toList_temporary
  rw [temporaryName, hsplit hstemA hneA, heq] at htemporary
  split at htemporary
  · rename_i hnone
    cases hnone
  · -- the temporary path leads up
    exact hb.ne_dots (String.toList_injective htemporary)
  · rename_i stem' _ hsome
    obtain ⟨-, rfl⟩ := Prod.mk.inj (Option.some.inj hsome)
    have hne : stem ++ stemA.toList.reverse ≠ [] := by
      simpa using fun _ => hneA
    have happend : splitExtension (['p', 'm', 't'] ++ '.' :: (stem ++ stemA.toList.reverse)) =
        some (['p', 'm', 't'], stem ++ stemA.toList.reverse) :=
      splitExtension_append (by decide) hne
    have htmp : splitExtension b.toList.reverse =
        some (['p', 'm', 't'], stem ++ stemA.toList.reverse) := by
      rw [htemporary, ← happend]
      simp
    rw [hsplit hstemB hneB] at htmp
    obtain ⟨-, hstems⟩ := Prod.mk.inj (Option.some.inj htmp)
    have hstem : stemB = stemA := by
      have hlist := List.append_cancel_left hstems
      exact String.toList_injective (List.reverse_inj.1 hlist)
    exact h (by rw [hstemA, hstemB, hstem])

end Forwarder.Path
