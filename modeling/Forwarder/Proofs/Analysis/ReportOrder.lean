import Mathlib.Data.List.Nodup
import Mathlib.Data.Prod.Basic
import Forwarder.Proofs.Analysis.Diagnosis

/-!
# The order of a report

A report is the stable merge of what the marked types have by themselves: everything is there, by
file, line, column and rule, and diagnostics that these do not tell apart stay in the order in which
they were found. A sorted list is determined by what it has of each rank. So where no two marked
types have the same place, the report is what the types have by themselves, one after the other in
the order of their places, however the snapshot lists them.
-/

namespace Forwarder

/-! ## Strict orders -/

section StrictOrder

variable {κ : Type} {r : κ → κ → Prop} [IsTrans κ r] {a b c : κ}

theorem not_rel_trans [Std.Trichotomous r] (hba : ¬ r b a) (hcb : ¬ r c b) : ¬ r c a := fun hca =>
  hcb (trans_trichotomous_right hca hba)

variable [Std.Irrefl r]

theorem not_rel_total (a b : κ) : ¬ r b a ∨ ¬ r a b :=
  not_and_or.1 fun ⟨hba, hab⟩ => irrefl_of r a (IsTrans.trans _ _ _ hab hba)

theorem rel_or_eq_iff [Std.Trichotomous r] : r a b ∨ a = b ↔ ¬ r b a := by
  constructor
  · rintro (hab | rfl)
    · exact (not_rel_total a b).resolve_right (not_not_intro hab)
    · exact irrefl_of r a
  · intro hba
    by_cases hab : r a b
    · exact .inl hab
    · exact .inr (Std.Trichotomous.trichotomous a b hab hba)

end StrictOrder

/-! ## Stable sorting -/

section Sorting

variable {α κ : Type} [DecidableEq κ] {key : α → κ}

/-- Sorting leaves the items of one key in their order, as long as it does not tell them apart. -/
theorem filter_mergeSort {le : α → α → Bool} (htrans : ∀ a b c, le a b → le b c → le a c)
    (htotal : ∀ a b, (le a b || le b a) = true) (hkey : ∀ a b, key a = key b → le a b)
    (items : List α) (k : κ) :
    (items.mergeSort le).filter (key · = k) = items.filter (key · = k) := by
  have hsorted : (items.filter (key · = k)).Pairwise (le · ·) := by
    refine List.pairwise_of_forall_mem_list fun a ha b hb => hkey a b ?_
    rw [of_decide_eq_true (List.mem_filter.1 ha).2, of_decide_eq_true (List.mem_filter.1 hb).2]
  have hsublist : (items.filter (key · = k)).Sublist ((items.mergeSort le).filter (key · = k)) := by
    have h := (List.sublist_mergeSort htrans htotal hsorted List.filter_sublist).filter (key · = k)
    simpa only [List.filter_filter, Bool.and_self] using h
  exact (hsublist.eq_of_length
    ((List.mergeSort_perm items le).filter _).length_eq.symm).symm

/-- Lists with the same items of every key have the same items. -/
theorem mem_iff_of_filter_eq {first second : List α}
    (h : ∀ k, first.filter (key · = k) = second.filter (key · = k)) (a : α) :
    a ∈ first ↔ a ∈ second := by
  have hfilter : ∀ items : List α, a ∈ items ↔ a ∈ items.filter (key · = key a) := by simp
  rw [hfilter first, h, ← hfilter]

/-- A sorted list is determined by its items of every key, in their order. -/
theorem eq_of_filter_eq (key : α → κ) {r : α → α → Prop}
    (hkey : ∀ a b, r a b → r b a → key a = key b) {first second : List α}
    (hfirst : first.Pairwise r) (hsecond : second.Pairwise r)
    (h : ∀ k, first.filter (key · = k) = second.filter (key · = k)) : first = second := by
  have hmem := mem_iff_of_filter_eq h
  induction first generalizing second with
  | nil =>
    exact (List.eq_nil_iff_forall_not_mem.2 fun a ha => List.not_mem_nil ((hmem a).2 ha)).symm
  | cons a rest ih =>
    cases second with
    | nil => exact absurd ((hmem a).1 List.mem_cons_self) List.not_mem_nil
    | cons b others =>
      obtain ⟨ha, hrest⟩ := List.pairwise_cons.1 hfirst
      obtain ⟨hb, hothers⟩ := List.pairwise_cons.1 hsecond
      -- each of the two first items stands before the other, so they have the same key
      have hsame : key a = key b := by
        rcases List.mem_cons.1 ((hmem a).1 List.mem_cons_self) with rfl | hleft
        · rfl
        · rcases List.mem_cons.1 ((hmem b).2 List.mem_cons_self) with rfl | hright
          · rfl
          · exact hkey a b (ha b hright) (hb a hleft)
      have hheads := h (key a)
      rw [List.filter_cons_of_pos (by simp), List.filter_cons_of_pos (by simp [hsame])] at hheads
      obtain ⟨rfl, -⟩ := List.cons.inj hheads
      have htails : ∀ k, rest.filter (key · = k) = others.filter (key · = k) := fun k => by
        have hk := h k
        rw [List.filter_cons, List.filter_cons] at hk
        split at hk
        · exact (List.cons.inj hk).2
        · exact hk
      rw [ih hrest hothers htails (mem_iff_of_filter_eq htails)]

end Sorting

/-! ## Places and ranks -/

/-- Places are ordered by file, line and column. -/
theorem Location.before_iff {a b : Location} : a.Before b ↔
    Prod.Lex (· < ·) (Prod.Lex (· < ·) (· < ·)) (a.file, a.line, a.column)
      (b.file, b.line, b.column) := by
  simp only [Before, Prod.lex_def]

instance : IsTrans Location Location.Before where
  trans a b c hab hbc := by
    rw [Location.before_iff] at hab hbc ⊢
    exact IsTrans.trans _ _ _ hab hbc

instance : Std.Irrefl Location.Before where
  irrefl a := by
    rw [Location.before_iff]
    exact irrefl_of _ _

instance : Std.Trichotomous Location.Before where
  trichotomous a b hab hba := by
    rw [Location.before_iff] at hab hba
    obtain ⟨_, _, _⟩ := a
    obtain ⟨_, _, _⟩ := b
    simpa using Std.Trichotomous.trichotomous _ _ hab hba

namespace Diagnostic

/-- What diagnostics are ordered by: their place and their rule. -/
def rank (diagnostic : Diagnostic) : Location × String := (diagnostic.location, diagnostic.id)

variable {a b : Diagnostic}

theorem before_iff : a.Before b ↔ Prod.Lex Location.Before (· < ·) a.rank b.rank := by
  simp only [Before, rank, Prod.lex_def]

/-- Of two ranks the one comes first, or the other, or they are equal. -/
theorem before_or_rank_eq_iff : a.Before b ∨ a.rank = b.rank ↔ ¬ b.Before a := by
  rw [before_iff, before_iff]
  exact rel_or_eq_iff

/-- The comparison that reports are sorted by is transitive. -/
theorem sorting_trans (a b c : Diagnostic) (hab : decide (¬ b.Before a) = true)
    (hbc : decide (¬ c.Before b) = true) : decide (¬ c.Before a) = true := by
  rw [decide_eq_true_iff, before_iff] at hab hbc ⊢
  exact not_rel_trans hab hbc

/-- The comparison that reports are sorted by is total. -/
theorem sorting_total (a b : Diagnostic) :
    (decide (¬ b.Before a) || decide (¬ a.Before b)) = true := by
  rw [Bool.or_eq_true, decide_eq_true_iff, decide_eq_true_iff, before_iff, before_iff]
  exact not_rel_total _ _

/-- A list of diagnostics is the stable merge of another one. -/
structure Merges (merged given : List Diagnostic) : Prop where
  /-- It has the same diagnostics. -/
  perm : merged.Perm given
  /-- They are listed by rank. -/
  sorted : merged.Pairwise fun a b => a.Before b ∨ a.rank = b.rank
  /-- Those of one rank are listed in the order in which they were given. -/
  stable : ∀ rank, merged.filter (·.rank = rank) = given.filter (·.rank = rank)

variable {merged other given : List Diagnostic}

/-- Sorting merges. -/
theorem merges_mergeSort (given : List Diagnostic) :
    Merges (given.mergeSort fun a b => ¬ b.Before a) given where
  perm := List.mergeSort_perm _ _
  sorted := (List.pairwise_mergeSort sorting_trans sorting_total given).imp fun hle =>
    before_or_rank_eq_iff.2 (of_decide_eq_true hle)
  stable rank := filter_mergeSort sorting_trans sorting_total
    (fun _ _ hrank => decide_eq_true (before_or_rank_eq_iff.1 (.inr hrank))) given rank

/-- There is only one stable merge. -/
theorem Merges.unique (h : Merges merged given) (hother : Merges other given) :
    merged = other := by
  refine eq_of_filter_eq rank (fun a b hab hba => ?_) h.sorted hother.sorted fun rank => ?_
  · exact hab.resolve_left (before_or_rank_eq_iff.1 hba)
  · rw [h.stable, hother.stable]

end Diagnostic

namespace Analysis

variable {settings : Settings} {snapshot shuffled : Snapshot} {type : TypeDecl}
  {types others : List TypeDecl}

/-! ## The diagnostics of one type -/

theorem location_of_mem_diagnose {diagnostic : Diagnostic}
    (h : diagnostic ∈ diagnose settings snapshot type) : diagnostic.location = type.location := by
  by_cases hkind : type.kind = .unresolved
  · rw [diagnose, if_pos hkind] at h
    cases h
  by_cases hinterfaces : type.interfaces = []
  · rw [diagnose, if_neg hkind, if_pos (by simpa using hinterfaces), List.mem_singleton] at h
    rw [h]
    rfl
  rw [diagnose_eq settings snapshot hkind hinterfaces] at h
  simp only [List.mem_append, or_assoc] at h
  rcases h with hcollision | hmember | haccessor | hhook
  · obtain ⟨group, -, rfl⟩ := List.mem_map.1 hcollision
    rfl
  · obtain ⟨reference, -, hreport⟩ := List.mem_flatMap.1 hmember
    rw [memberReports] at hreport
    split at hreport
    · cases hreport
    · obtain ⟨member, -, hreport⟩ := List.mem_filterMap.1 hreport
      split at hreport
      · cases hreport
      · cases hreport
        rfl
  · obtain ⟨entry, -, hreport⟩ := List.mem_filterMap.1 haccessor
    simp only [Option.ite_none_left_eq_some, Option.some.injEq] at hreport
    rw [← hreport.2]
    rfl
  · obtain ⟨hook, -, hreport⟩ := List.mem_filterMap.1 hhook
    simp only [Option.ite_none_left_eq_some, Option.some.injEq] at hreport
    rw [← hreport.2]
    rfl

/-- Diagnostics of one rule come in the order of rules. -/
theorem pairwise_of_id_eq {diagnostics : List Diagnostic} {id : String}
    (h : ∀ diagnostic ∈ diagnostics, diagnostic.id = id) :
    diagnostics.Pairwise fun a b => ¬ b.id < a.id :=
  List.pairwise_of_forall_mem_list fun a ha b hb => by
    rw [h a ha, h b hb]
    exact String.lt_irrefl id

/-- The diagnostics of a type come in the order of their rules. -/
theorem pairwise_diagnose (settings : Settings) (snapshot : Snapshot) (type : TypeDecl) :
    (diagnose settings snapshot type).Pairwise fun a b => ¬ b.id < a.id := by
  by_cases hkind : type.kind = .unresolved
  · rw [diagnose, if_pos hkind]
    exact .nil
  by_cases hinterfaces : type.interfaces = []
  · rw [diagnose, if_neg hkind, if_pos (by simpa using hinterfaces)]
    exact List.pairwise_singleton _ _
  have hcollision : ∀ a ∈ collisionReports type (type.accessors settings),
      a.id = Rule.sharedAccessorName.id := fun _ => id_of_mem_collisionReports
  have hmember : ∀ a ∈ type.interfaces.flatMap (memberReports snapshot type),
      a.id = Rule.unforwardedMember.id := fun _ h => by
    obtain ⟨reference, -, hreport⟩ := List.mem_flatMap.1 h
    exact id_of_mem_memberReports hreport
  have hmissing : ∀ a ∈ accessorReports type (type.accessors settings) ++ hookReports type,
      a.id = Rule.missingBody.id := fun _ h =>
    (List.mem_append.1 h).elim id_of_mem_accessorReports id_of_mem_hookReports
  rw [diagnose_eq settings snapshot hkind hinterfaces, List.append_assoc]
  refine List.pairwise_append.2 ⟨List.pairwise_append.2 ⟨pairwise_of_id_eq hcollision,
    pairwise_of_id_eq hmember, fun a ha b hb => ?_⟩, pairwise_of_id_eq hmissing,
    fun a ha b hb => ?_⟩
  · rw [hcollision a ha, hmember b hb]
    decide
  · rw [hmissing b hb]
    rcases List.mem_append.1 ha with ha | ha
    · rw [hcollision a ha]
      decide
    · rw [hmember a ha]
      decide

/-! ## Types by their places -/

/-- Types in the order of their places. -/
def byPlace (types : List TypeDecl) : List TypeDecl :=
  types.mergeSort fun a b => ¬ b.location.Before a.location

theorem byPlace_perm (types : List TypeDecl) : (byPlace types).Perm types :=
  List.mergeSort_perm _ _

/-- Types with different places are listed one before the other. -/
theorem pairwise_byPlace (h : (types.map (·.location)).Nodup) :
    (byPlace types).Pairwise fun a b => a.location.Before b.location := by
  have hsorted : (byPlace types).Pairwise fun a b => ¬ b.location.Before a.location := by
    refine (List.pairwise_mergeSort (fun a b c hab hbc => ?_) (fun a b => ?_) types).imp
      of_decide_eq_true
    · exact decide_eq_true (not_rel_trans (of_decide_eq_true hab) (of_decide_eq_true hbc))
    · rw [Bool.or_eq_true, decide_eq_true_iff, decide_eq_true_iff]
      exact not_rel_total _ _
  have hnodup : (byPlace types).Pairwise fun a b => a.location ≠ b.location :=
    List.pairwise_map.1 (((byPlace_perm types).map _).nodup_iff.2 h)
  exact (hsorted.and hnodup).imp fun ⟨hba, hne⟩ =>
    (rel_or_eq_iff.2 hba).resolve_right hne

/-- The order in which types with different places are given makes no difference. -/
theorem byPlace_eq_of_perm (hperm : others.Perm types) (h : (types.map (·.location)).Nodup) :
    byPlace others = byPlace types :=
  (((byPlace_perm others).trans hperm).trans (byPlace_perm types).symm).eq_of_pairwise
    (fun _ _ _ _ hab hba => absurd hba (rel_or_eq_iff.1 (.inl hab)))
    (pairwise_byPlace ((hperm.map _).nodup_iff.2 h)) (pairwise_byPlace h)

/-- What only types at one place have is listed the same whatever the order of types, if no two are
at the same place. -/
theorem flatMap_eq_of_perm {α : Type} {items : TypeDecl → List α} (place : Location)
    (hitems : ∀ type : TypeDecl, type.location ≠ place → items type = [])
    (hperm : others.Perm types) (h : (types.map (·.location)).Nodup) :
    others.flatMap items = types.flatMap items := by
  induction hperm with
  | nil => rfl
  | cons type _ ih => rw [List.flatMap_cons, List.flatMap_cons, ih (List.nodup_cons.1 h).2]
  | swap first second rest =>
    have hne : first.location ≠ second.location := fun heq => by simp [heq] at h
    simp only [List.flatMap_cons]
    by_cases hfirst : first.location = place
    · rw [hitems second fun hsecond => hne (hfirst.trans hsecond.symm), List.nil_append,
        List.nil_append]
    · rw [hitems first hfirst, List.nil_append, List.nil_append]
  | trans hfirst hsecond ihfirst ihsecond =>
    rw [ihfirst ((hsecond.map _).nodup_iff.2 h), ihsecond h]

/-! ## The report -/

/-- What types with different places have by themselves, in the order of their places, is the stable
merge of what they have in any order. -/
theorem merges_flatMap_byPlace (settings : Settings) (snapshot : Snapshot)
    (h : (types.map (·.location)).Nodup) :
    Diagnostic.Merges ((byPlace types).flatMap (diagnose settings snapshot))
      (types.flatMap (diagnose settings snapshot)) where
  perm := (byPlace_perm types).flatMap_right _
  sorted := by
    refine List.pairwise_flatMap.2
      ⟨fun type _ => ?_, (pairwise_byPlace h).imp fun hbefore a ha b hb => ?_⟩
    · refine (pairwise_diagnose settings snapshot type).imp_of_mem fun {a b} ha hb hid => ?_
      refine Diagnostic.before_or_rank_eq_iff.2 ?_
      rw [Diagnostic.Before, location_of_mem_diagnose ha, location_of_mem_diagnose hb]
      exact not_or_intro (irrefl_of _ _) fun hrule => hid hrule.2
    · rw [← location_of_mem_diagnose ha, ← location_of_mem_diagnose hb] at hbefore
      exact .inl (.inl hbefore)
  stable rank := by
    rw [List.filter_flatMap, List.filter_flatMap]
    refine flatMap_eq_of_perm rank.1 (fun type hne => ?_) (byPlace_perm types) h
    refine List.filter_eq_nil_iff.2 fun diagnostic hmem heq => hne ?_
    rw [← location_of_mem_diagnose hmem, ← of_decide_eq_true heq]
    rfl

/-- Where no two marked types have the same place, a report has what they have by themselves, in the
order of their places. -/
theorem diagnostics_ofSnapshot_eq
    (h : ((snapshot.marked settings.markerAttribute).map (·.location)).Nodup) :
    (ofSnapshot settings snapshot).diagnostics =
      (byPlace (snapshot.marked settings.markerAttribute)).flatMap (diagnose settings snapshot) :=
  (Diagnostic.merges_mergeSort _).unique (merges_flatMap_byPlace settings snapshot h)

/-- The other types of a snapshot do not matter to what a type has by itself. -/
theorem diagnose_eq_of_interfaces_eq (h : shuffled.interfaces = snapshot.interfaces) :
    diagnose settings shuffled = diagnose settings snapshot := by
  obtain ⟨_, interfaces⟩ := shuffled
  obtain rfl : interfaces = snapshot.interfaces := h
  rfl

/-- A report is the stable merge of the diagnostics that the marked types have by themselves. Where
no two marked types have the same place, those of each type stand together as it has them by itself
and nothing else of its place stands elsewhere, and the order in which the snapshot lists its types
makes no difference. -/
theorem merges_ofSnapshot (settings : Settings) (snapshot : Snapshot) :
    Diagnostic.Merges (ofSnapshot settings snapshot).diagnostics
      ((snapshot.marked settings.markerAttribute).flatMap (diagnose settings snapshot)) ∧
    (((snapshot.marked settings.markerAttribute).map (·.location)).Nodup →
      (∀ type ∈ snapshot.marked settings.markerAttribute, ∃ front back,
        (ofSnapshot settings snapshot).diagnostics =
          front ++ diagnose settings snapshot type ++ back ∧
        ∀ diagnostic ∈ front ++ back, diagnostic.location ≠ type.location) ∧
      ∀ shuffled : Snapshot, shuffled.types.Perm snapshot.types →
        shuffled.interfaces = snapshot.interfaces →
        ofSnapshot settings shuffled = ofSnapshot settings snapshot) := by
  refine ⟨Diagnostic.merges_mergeSort _, fun hplaces => ⟨fun type htype => ?_,
    fun shuffled htypes hinterfaces => ?_⟩⟩
  · rw [diagnostics_ofSnapshot_eq hplaces]
    have hperm := byPlace_perm (snapshot.marked settings.markerAttribute)
    have hnodup := (hperm.map (·.location)).nodup_iff.2 hplaces
    obtain ⟨earlier, later, hsplit⟩ := List.append_of_mem (hperm.mem_iff.2 htype)
    rw [hsplit] at hnodup ⊢
    refine ⟨earlier.flatMap (diagnose settings snapshot),
      later.flatMap (diagnose settings snapshot), ?_, fun diagnostic hmem heq => ?_⟩
    · rw [List.flatMap_append, List.flatMap_cons, List.append_assoc]
    · rw [← List.flatMap_append] at hmem
      obtain ⟨other, hother, hmem⟩ := List.mem_flatMap.1 hmem
      rw [List.map_append, List.map_cons, List.nodup_middle, ← List.map_append] at hnodup
      rw [location_of_mem_diagnose hmem] at heq
      exact (List.nodup_cons.1 hnodup).1 (List.mem_map.2 ⟨other, hother, heq⟩)
  · have hmarked : (shuffled.marked settings.markerAttribute).Perm
        (snapshot.marked settings.markerAttribute) := htypes.filter _
    have hdiagnostics : (ofSnapshot settings shuffled).diagnostics =
        (ofSnapshot settings snapshot).diagnostics := by
      rw [diagnostics_ofSnapshot_eq hplaces,
        diagnostics_ofSnapshot_eq ((hmarked.map _).nodup_iff.2 hplaces),
        byPlace_eq_of_perm hmarked hplaces, diagnose_eq_of_interfaces_eq hinterfaces]
    have hcount : (ofSnapshot settings shuffled).typeCount =
        (ofSnapshot settings snapshot).typeCount := congrArg Nat.toUInt64 hmarked.length_eq
    calc ofSnapshot settings shuffled
        = ⟨(ofSnapshot settings shuffled).typeCount,
            (ofSnapshot settings shuffled).diagnostics⟩ := rfl
      _ = ofSnapshot settings snapshot := by rw [hcount, hdiagnostics]

/-- A type at some place in a file. -/
def shelfType : TypeDecl :=
  { TypeDecl.ofClass (some "Shop") "ShelfDecorator" with
    attributes := ["Decorgen.GenericDecoratorAttribute"]
    interfaces := [.plain (some "Shop") "IShelf"]
    location := ⟨"Shelf.cs", 12, 1⟩ }

/-- A snapshot that lists `shelfType` before a marked type that is declared further up, and also has
a type at the place of `shelfType` that is not marked. -/
def shelfSnapshot : Snapshot where
  types := [shelfType,
    { TypeDecl.ofClass none "Bare" with
      attributes := ["Decorgen.GenericDecoratorAttribute"]
      location := ⟨"Shelf.cs", 3, 5⟩ },
    { TypeDecl.ofClass none "Plain" with location := ⟨"Shelf.cs", 12, 1⟩ }]
  interfaces := [.inScope (some "Shop") "IShelf" [] [.property "Size" Framework.int]]

/-- The report on `shelfSnapshot` is the one on its types turned around, which are in order, and the
diagnostics of `shelfType` stand together in it. -/
theorem merges_ofSnapshot_shelf :
    ((shelfSnapshot.marked Settings.default.markerAttribute).map (·.location)).Nodup ∧
    ofSnapshot .default ⟨shelfSnapshot.types.reverse, shelfSnapshot.interfaces⟩ =
      ofSnapshot .default shelfSnapshot ∧
    (ofSnapshot .default shelfSnapshot).diagnostics.map (·.id) = ["GDG0001", "GDG0003",
      "GDG8795", "GDG8795", "GDG8795", "GDG8795", "GDG8795"] ∧
    ∃ front back, (ofSnapshot .default shelfSnapshot).diagnostics =
      front ++ diagnose .default shelfSnapshot shelfType ++ back ∧
      ∀ diagnostic ∈ front ++ back, diagnostic.location ≠ shelfType.location := by
  have hplaces : ((shelfSnapshot.marked Settings.default.markerAttribute).map
      (·.location)).Nodup := by decide +kernel
  have hmarked : shelfType ∈ shelfSnapshot.marked Settings.default.markerAttribute := by
    decide +kernel
  obtain ⟨-, hreport⟩ := merges_ofSnapshot .default shelfSnapshot
  obtain ⟨hblocks, hshuffled⟩ := hreport hplaces
  have hreverse : ofSnapshot .default ⟨shelfSnapshot.types.reverse, shelfSnapshot.interfaces⟩ =
      ofSnapshot .default shelfSnapshot := hshuffled _ (List.reverse_perm _) rfl
  refine ⟨hplaces, hreverse, ?_, hblocks shelfType hmarked⟩
  rw [← hreverse, ofSnapshot, List.mergeSort_of_pairwise (by decide +kernel)]
  decide +kernel

end Analysis

end Forwarder
