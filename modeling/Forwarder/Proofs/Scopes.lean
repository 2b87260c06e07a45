import Forwarder.Proofs.Snapshot.Construction
import Forwarder.Scopes

/-!
# The namespaces of a constructed interface

Putting type arguments into the members of an interface neither loses a namespace nor invents one:
the namespaces that the interface refers to as constructed are those that it refers to as declared,
and those of the named types in the arguments. A replaced type has the namespaces of the type and of
whatever was put in, so a member may gain some of an argument, and all of the arguments are counted
with the reference anyway.
-/

namespace Forwarder

variable {snapshot : Snapshot} {reference : TypeExpr} {bound : BoundInterface}
  {assignment : Assignment} {scope : String}

/-! ## Sets of texts -/

section SortedSet

variable {text : String} {texts others : List String}

theorem mem_insertSorted {other : String} :
    other ∈ insertSorted text texts ↔ other = text ∨ other ∈ texts := by
  induction texts with
  | nil => rw [insertSorted, List.mem_cons]
  | cons first rest ih =>
    rw [insertSorted]
    split
    · rw [List.mem_cons]
    · split
      · rename_i heq
        rw [heq, List.mem_cons, ← or_assoc, or_self]
      · rw [List.mem_cons, ih, List.mem_cons]
        exact or_left_comm

/-- A set has the texts that it was made from. -/
theorem mem_sortedSet : text ∈ sortedSet texts ↔ text ∈ texts := by
  induction texts with
  | nil => exact Iff.rfl
  | cons first rest ih =>
    have hcons : sortedSet (first :: rest) = insertSorted first (sortedSet rest) := rfl
    rw [hcons, mem_insertSorted, ih, List.mem_cons]

theorem pairwise_insertSorted (h : texts.Pairwise (· < ·)) :
    (insertSorted text texts).Pairwise (· < ·) := by
  induction texts with
  | nil => exact List.pairwise_singleton _ _
  | cons first rest ih =>
    obtain ⟨hfirst, hrest⟩ := List.pairwise_cons.1 h
    rw [insertSorted]
    split
    · rename_i hlt
      refine List.pairwise_cons.2 ⟨fun other hother => ?_, h⟩
      rcases List.mem_cons.1 hother with rfl | hother
      · exact hlt
      · exact String.lt_trans hlt (hfirst other hother)
    · split
      · exact h
      · rename_i hle hne
        refine List.pairwise_cons.2 ⟨fun other hother => ?_, ih hrest⟩
        rcases mem_insertSorted.1 hother with rfl | hother
        · exact Std.lt_of_le_of_ne (String.not_lt.1 hle) (Ne.symm hne)
        · exact hfirst other hother

/-- A set is listed in ascending order. -/
theorem pairwise_sortedSet (texts : List String) : (sortedSet texts).Pairwise (· < ·) := by
  induction texts with
  | nil => exact .nil
  | cons first rest ih => exact pairwise_insertSorted ih

/-- Sets are equal exactly if they have the same texts. -/
theorem sortedSet_eq_iff :
    sortedSet texts = sortedSet others ↔ ∀ text, text ∈ texts ↔ text ∈ others := by
  constructor
  · intro h text
    rw [← mem_sortedSet, h, mem_sortedSet]
  · intro h
    have hnodup : ∀ texts, (sortedSet texts).Nodup := fun texts =>
      (pairwise_sortedSet texts).imp fun {a b} hlt (heq : a = b) => by
        rw [heq] at hlt
        exact String.lt_irrefl b hlt
    have hperm : (sortedSet texts).Perm (sortedSet others) :=
      (List.perm_ext_iff_of_nodup (hnodup texts) (hnodup others)).2 fun text => by
        rw [mem_sortedSet, mem_sortedSet, h]
    exact hperm.eq_of_pairwise
      (fun a b _ _ hab hba => absurd (String.lt_trans hab hba) (String.lt_irrefl a))
      (pairwise_sortedSet texts) (pairwise_sortedSet others)

end SortedSet

/-! ## Named types in a reference -/

/-- A type of a name stands in a reference, at any depth. -/
inductive TypeName.OccursIn (head : TypeName) : TypeExpr → Prop where
  /-- The reference is to such a type. -/
  | here (arguments : List TypeExpr) : head.OccursIn (.named head arguments)
  /-- It stands in a type argument. -/
  | argument {other : TypeName} {arguments : List TypeExpr} {argument : TypeExpr}
      (hmem : argument ∈ arguments) (h : head.OccursIn argument) :
      head.OccursIn (.named other arguments)
  /-- It stands in the elements of an array. -/
  | element {element : TypeExpr} {rank : UInt64} (h : head.OccursIn element) :
      head.OccursIn (.array element rank)
  /-- It stands in what is pointed at. -/
  | pointee {pointee : TypeExpr} (h : head.OccursIn pointee) : head.OccursIn (.pointer pointee)
  /-- It stands in what may be null. -/
  | underlying {underlying : TypeExpr} (h : head.OccursIn underlying) :
      head.OccursIn (.nullable underlying)

theorem mem_scopeNames {given : Option String} :
    scope ∈ scopeNames given ↔ given = some scope ∧ scope ≠ "" := by
  rw [scopeNames, Option.mem_toList, Option.filter_eq_some_iff, decide_eq_true_iff]

namespace TypeExpr

theorem allScopes_eq_flatMap (arguments : List TypeExpr) :
    allScopes arguments = arguments.flatMap scopes := by
  induction arguments with
  | nil => rfl
  | cons argument rest ih => rw [allScopes, ih, List.flatMap_cons]

theorem mem_scopes_named {head : TypeName} {arguments : List TypeExpr} :
    scope ∈ (named head arguments).scopes ↔
      scope ∈ scopeNames head.scope ∨ ∃ argument ∈ arguments, scope ∈ argument.scopes := by
  rw [scopes, allScopes_eq_flatMap, List.mem_append, List.mem_flatMap]

/-- The namespaces of a reference are those that are not global and that a named type in it has. -/
theorem mem_scopes_iff {type : TypeExpr} :
    scope ∈ type.scopes ↔ ∃ head : TypeName,
      head.OccursIn type ∧ head.scope = some scope ∧ scope ≠ "" := by
  constructor
  · intro h
    induction type using TypeExpr.induct with
    | void | parameter _ | unresolved _ => cases h
    | named head arguments ih =>
      rcases mem_scopes_named.1 h with hhead | ⟨argument, hmem, hscope⟩
      · exact ⟨head, .here arguments, mem_scopeNames.1 hhead⟩
      · obtain ⟨inner, hinner, hscope⟩ := ih argument hmem hscope
        exact ⟨inner, .argument hmem hinner, hscope⟩
    | array element rank ih =>
      obtain ⟨head, hhead, hscope⟩ := ih h
      exact ⟨head, .element hhead, hscope⟩
    | pointer pointee ih =>
      obtain ⟨head, hhead, hscope⟩ := ih h
      exact ⟨head, .pointee hhead, hscope⟩
    | nullable underlying ih =>
      obtain ⟨head, hhead, hscope⟩ := ih h
      exact ⟨head, .underlying hhead, hscope⟩
  · rintro ⟨head, hoccurs, hscope⟩
    induction hoccurs with
    | here arguments => exact mem_scopes_named.2 (.inl (mem_scopeNames.2 hscope))
    | argument hmem _ ih => exact mem_scopes_named.2 (.inr ⟨_, hmem, ih⟩)
    | element _ ih | pointee _ ih | underlying _ ih => exact ih

/-- After a replacement a reference has the namespaces that it had, and those of the types that have
been put in. -/
theorem mem_scopes_subst {type : TypeExpr} :
    scope ∈ (type.subst assignment).scopes ↔ scope ∈ type.scopes ∨
      ∃ name ∈ type.mentioned, ∃ given, assignment name = some given ∧ scope ∈ given.scopes := by
  induction type using TypeExpr.induct with
  | void | unresolved _ => simp [subst, scopes, mentioned]
  | named head arguments ih =>
    rw [subst, substAll_eq_map]
    simp only [mem_scopes_named, mem_mentioned_named, List.mem_map, exists_exists_and_eq_and]
    constructor
    · rintro (hhead | ⟨argument, hmem, hscope⟩)
      · exact .inl (.inl hhead)
      · rcases (ih argument hmem).1 hscope with hscope | ⟨name, hname, hgiven⟩
        · exact .inl (.inr ⟨argument, hmem, hscope⟩)
        · exact .inr ⟨name, ⟨argument, hmem, hname⟩, hgiven⟩
    · rintro ((hhead | ⟨argument, hmem, hscope⟩) | ⟨name, ⟨argument, hmem, hname⟩, hgiven⟩)
      · exact .inl hhead
      · exact .inr ⟨argument, hmem, (ih argument hmem).2 (.inl hscope)⟩
      · exact .inr ⟨argument, hmem, (ih argument hmem).2 (.inr ⟨name, hname, hgiven⟩)⟩
  | parameter own =>
    simp only [mem_mentioned_parameter, exists_eq_left]
    cases hgiven : assignment own with
    | none => simp [subst_parameter_of_none hgiven, scopes]
    | some given => simp [subst_parameter_of_some hgiven, scopes]
  | array element rank ih => rw [subst, scopes, scopes, mentioned, ih]
  | pointer pointee ih => rw [subst, scopes, scopes, mentioned, ih]
  | nullable underlying ih => rw [subst, scopes, scopes, mentioned, ih]

end TypeExpr

/-! ## Members -/

theorem mem_memberScopes {members : List MemberDecl} :
    scope ∈ memberScopes members ↔
      ∃ member ∈ members, ∃ type ∈ member.types, scope ∈ type.scopes := by
  have htypes : ∀ member : MemberDecl, member.signatureTypes = member.types := fun member => by
    cases member <;> rfl
  simp only [memberScopes, List.mem_flatMap, htypes]

/-- What a member declares itself is shadowed, and anything else that is put into a type of it is an
argument. -/
theorem exists_argument_of_without {names parameters : List String} {arguments : List TypeExpr}
    {name : String} {given : TypeExpr}
    (h : (Assignment.ofArguments parameters arguments).without names name = some given) :
    given ∈ arguments :=
  (Assignment.mem_of_ofArguments (Assignment.without_eq_some_iff.1 h).2).2

/-- Construction loses no namespace of the members. -/
theorem memberScopes_subset_membersOf (declaration : InterfaceDecl)
    (constructed : ConstructedType) (h : scope ∈ memberScopes declaration.members) :
    scope ∈ memberScopes (declaration.membersOf constructed) := by
  obtain ⟨member, hmember, type, htype, hscope⟩ := mem_memberScopes.1 h
  refine mem_memberScopes.2 ⟨_, List.mem_map_of_mem hmember, ?_⟩
  rw [MemberDecl.subst_eq_mapTypes, MemberDecl.types_mapTypes]
  exact ⟨_, List.mem_map_of_mem htype, TypeExpr.mem_scopes_subst.2 (.inl hscope)⟩

/-- Construction gives the members no namespaces but those of arguments. -/
theorem mem_memberScopes_membersOf (declaration : InterfaceDecl)
    (constructed : ConstructedType) (h : scope ∈ memberScopes (declaration.membersOf constructed)) :
    scope ∈ memberScopes declaration.members ∨
      ∃ argument ∈ constructed.arguments, scope ∈ argument.scopes := by
  obtain ⟨_, hresolved, _, hreplaced, hscope⟩ := mem_memberScopes.1 h
  obtain ⟨member, hmember, rfl⟩ := List.mem_map.1 hresolved
  rw [MemberDecl.subst_eq_mapTypes, MemberDecl.types_mapTypes] at hreplaced
  obtain ⟨type, htype, rfl⟩ := List.mem_map.1 hreplaced
  rcases TypeExpr.mem_scopes_subst.1 hscope with hscope | ⟨name, -, given, hgiven, hscope⟩
  · exact .inl (mem_memberScopes.2 ⟨member, hmember, type, htype, hscope⟩)
  · exact .inr ⟨given, exists_argument_of_without hgiven, hscope⟩

/-! ## Interfaces -/

/-- The namespaces that a constructed interface refers to are those that its declaration refers to,
and those of the named types at any depth in the type arguments. -/
theorem scopeSet_of_resolve? (h : snapshot.resolve? reference = some bound) :
    ∃ declaration, snapshot.declarationOf? bound.reference = some declaration ∧
      bound.scopeSet = sortedSet
        (declaration.scopeSet ++ TypeExpr.allScopes bound.reference.arguments) ∧
      ∀ scope, scope ∈ bound.scopeSet ↔ scope ∈ declaration.scopeSet ∨
        ∃ argument ∈ bound.reference.arguments, ∃ head : TypeName,
          head.OccursIn argument ∧ head.scope = some scope ∧ scope ≠ "" := by
  obtain ⟨-, -, declaration, hdeclaration, hmembers⟩ := Snapshot.resolve?_eq_some_iff.1 h
  have hhead : declaration.head = bound.reference.head :=
    congrArg OpenType.head (Snapshot.openType_of_declarationOf? hdeclaration)
  have hbound : ∀ scope, scope ∈ bound.scopeSet ↔ scope ∈ scopeNames bound.reference.head.scope ∨
      (∃ argument ∈ bound.reference.arguments, scope ∈ argument.scopes) ∨
      scope ∈ memberScopes bound.members := fun scope => by
    rw [BoundInterface.scopeSet, mem_sortedSet, List.mem_append, ConstructedType.toExpr,
      TypeExpr.mem_scopes_named, or_assoc]
  have hdeclared : ∀ scope, scope ∈ declaration.scopeSet ↔
      scope ∈ scopeNames bound.reference.head.scope ∨
        scope ∈ memberScopes declaration.members := fun scope => by
    rw [InterfaceDecl.scopeSet, mem_sortedSet, List.mem_append, hhead]
  have hmem : ∀ scope, scope ∈ bound.scopeSet ↔ scope ∈ declaration.scopeSet ∨
      ∃ argument ∈ bound.reference.arguments, scope ∈ argument.scopes := by
    intro scope
    rw [hbound, hdeclared, hmembers]
    constructor
    · rintro (hown | hargument | hmember)
      · exact .inl (.inl hown)
      · exact .inr hargument
      · exact (mem_memberScopes_membersOf declaration _ hmember).imp_left .inr
    · rintro ((hown | hmember) | hargument)
      · exact .inl hown
      · exact .inr (.inr (memberScopes_subset_membersOf declaration _ hmember))
      · exact .inr (.inl hargument)
  refine ⟨declaration, hdeclaration, ?_, fun scope => ?_⟩
  · refine sortedSet_eq_iff.2 fun scope => ?_
    rw [← mem_sortedSet]
    refine (hmem scope).trans ?_
    rw [List.mem_append, TypeExpr.allScopes_eq_flatMap, List.mem_flatMap]
  · rw [hmem]
    simp only [TypeExpr.mem_scopes_iff]

/-- The interface type that has arrays of items for the first and tasks for the second type
parameter of `bagInterface`. -/
def bagOfItems : ConstructedType :=
  ⟨bagInterface.head,
    [.array (.plain (some "Shop.Models") "Item") 1, Framework.genericTask Framework.int]⟩

/-- To the namespaces of `bagInterface` its arguments add two, one of them from the elements of an
array. -/
theorem scopeSet_of_resolve?_bag : ∃ bound,
    (⟨[], [bagInterface]⟩ : Snapshot).resolve? bagOfItems.toExpr = some bound ∧
    bagInterface.scopeSet = ["Data", "System"] ∧
    bound.scopeSet = ["Data", "Shop.Models", "System", "System.Threading.Tasks"] ∧
    ∀ scope, scope ∈ bound.scopeSet ↔ scope ∈ bagInterface.scopeSet ∨
      ∃ argument ∈ bagOfItems.arguments, ∃ head : TypeName,
        head.OccursIn argument ∧ head.scope = some scope ∧ scope ≠ "" := by
  have hresolve : (⟨[], [bagInterface]⟩ : Snapshot).resolve? bagOfItems.toExpr =
      some ⟨bagOfItems, bagInterface.membersOf bagOfItems⟩ := by decide +kernel
  have hdeclaration : (⟨[], [bagInterface]⟩ : Snapshot).declarationOf? bagOfItems =
      some bagInterface := by decide +kernel
  obtain ⟨declaration, hfound, -, hscopes⟩ := scopeSet_of_resolve? hresolve
  obtain rfl : declaration = bagInterface := Option.some.inj (hfound.symm.trans hdeclaration)
  exact ⟨_, hresolve, by decide +kernel, by decide +kernel, hscopes⟩

end Forwarder
