import Forwarder.Proofs.Session.Repetition
import Forwarder.Proofs.Snapshot.Construction

/-!
# The names of an interface's type parameters

An interface may call its type parameters what it likes. Arguments are given to type parameters by
position, so under other names each is given what it was given before, as long as no two get the
same name and no new name is one that means something else in the interface: a type parameter of a
method, which would shadow it, or one that the interface mentions without declaring it. Then
references resolve to the same, and nothing that is made from what they resolve to can tell.
-/

namespace Forwarder

variable {declaration changed : InterfaceDecl} {rename : String → String} {name : String}
  {member : MemberDecl} {type : ConstructedType}

/-! ## Snapshots around a declaration -/

/-- A snapshot but for one of its interface declarations. -/
structure Surroundings where
  /-- The candidate types. -/
  types : List TypeDecl
  /-- The interfaces that are declared before. -/
  before : List InterfaceDecl
  /-- The interfaces that are declared after. -/
  after : List InterfaceDecl

/-- The snapshot with a declaration in its place. -/
def Surroundings.with (surroundings : Surroundings) (declaration : InterfaceDecl) : Snapshot where
  types := surroundings.types
  interfaces := surroundings.before ++ declaration :: surroundings.after

/-- Where an earlier declaration is of the same definition, it is found. -/
theorem Surroundings.declarationOf?_with (surroundings : Surroundings)
    (declaration : InterfaceDecl) (type : ConstructedType) :
    (surroundings.with declaration).declarationOf? type =
      (surroundings.before.find? (·.openType = type.openType)).or
        (if declaration.openType = type.openType then some declaration
          else surroundings.after.find? (·.openType = type.openType)) := by
  rw [Snapshot.declarationOf?, Surroundings.with, List.find?_append, List.find?_cons]
  by_cases h : declaration.openType = type.openType <;> simp [h]

/-- A declaration is found where no earlier one is of the same definition. -/
theorem Surroundings.declarationOf?_with_of_first {surroundings : Surroundings}
    (hfirst : ∀ earlier ∈ surroundings.before, earlier.openType ≠ declaration.openType)
    (hopen : declaration.openType = type.openType) :
    (surroundings.with declaration).declarationOf? type = some declaration := by
  have hearlier : surroundings.before.find? (·.openType = type.openType) = none := by
    rw [← hopen, List.find?_eq_none]
    exact fun earlier hmem => by simpa using hfirst earlier hmem
  rw [surroundings.declarationOf?_with, hearlier, Option.none_or, if_pos hopen]

/-- Declarations of one definition whose members are constructed alike resolve alike. -/
theorem Surroundings.resolve?_with_eq (surroundings : Surroundings)
    (hopen : changed.openType = declaration.openType)
    (hmembers : ∀ type : ConstructedType, declaration.openType = type.openType →
      changed.membersOf type = declaration.membersOf type) (reference : TypeExpr) :
    (surroundings.with changed).resolve? reference =
      (surroundings.with declaration).resolve? reference := by
  rw [Snapshot.resolve?_eq, Snapshot.resolve?_eq]
  congr 1
  refine Option.bind_congr fun type _ => ?_
  rw [surroundings.declarationOf?_with, surroundings.declarationOf?_with, hopen]
  cases surroundings.before.find? (·.openType = type.openType) with
  | some earlier => rfl
  | none =>
    by_cases hfound : declaration.openType = type.openType
    · rw [if_pos hfound, if_pos hfound, Option.none_or, Option.none_or, Option.map_some,
        Option.map_some, hmembers type hfound]
    · rw [if_neg hfound, if_neg hfound]

/-! ## Other names -/

/-- An interface with other names for its type parameters, where it declares them and wherever its
members mention them. What a member declares itself is not meant. -/
def InterfaceDecl.renamed (rename : String → String) (declaration : InterfaceDecl) :
    InterfaceDecl :=
  { declaration with
    typeParameters := declaration.typeParameters.map rename
    members := declaration.members.map fun member =>
      member.mapTypes (·.renamed (TypeExpr.renameOnly
        (declaration.typeParameters.filter (· ∉ member.typeParameters)) rename)) }

/-- An interface can have other names for its type parameters. -/
structure InterfaceDecl.Admits (declaration : InterfaceDecl) (rename : String → String) : Prop where
  /-- No two type parameters get the same name. -/
  injective : ∀ name ∈ declaration.typeParameters, ∀ other ∈ declaration.typeParameters,
    rename name = rename other → name = other
  /-- A type parameter keeps its name or gets one that does not occur in the interface. -/
  fresh : ∀ name ∈ declaration.typeParameters,
    rename name = name ∨ rename name ∉ declaration.names

theorem InterfaceDecl.openType_renamed (rename : String → String) (declaration : InterfaceDecl) :
    (declaration.renamed rename).openType = declaration.openType :=
  congrArg (OpenType.mk declaration.head) (List.length_map _)

/-- Looking up under other names finds the same, if no other key gets the name looked up. -/
theorem lookup_map_rename {pairs : List (String × TypeExpr)}
    (h : ∀ pair ∈ pairs, rename pair.1 = rename name → pair.1 = name) :
    (pairs.map (Prod.map rename id)).lookup (rename name) = pairs.lookup name := by
  induction pairs with
  | nil => rfl
  | cons pair rest ih =>
    obtain ⟨key, given⟩ := pair
    have hrest := ih fun pair hmem => h pair (List.mem_cons_of_mem _ hmem)
    by_cases hkey : name = key
    · subst hkey
      simp
    · have hnew : rename name ≠ rename key := fun heq =>
        hkey (h (key, given) List.mem_cons_self heq.symm).symm
      simp [List.lookup_cons, beq_eq_false_iff_ne.2 hkey, beq_eq_false_iff_ne.2 hnew, hrest]

namespace InterfaceDecl.Admits

/-- A type parameter is given the same under its new name. -/
theorem ofArguments_rename (h : declaration.Admits rename) (arguments : List TypeExpr)
    (hname : name ∈ declaration.typeParameters) :
    Assignment.ofArguments (declaration.typeParameters.map rename) arguments (rename name) =
      Assignment.ofArguments declaration.typeParameters arguments name := by
  rw [Assignment.ofArguments, Assignment.ofArguments, Assignment.ofPairs, Assignment.ofPairs,
    List.zip_map_left, ← List.map_reverse]
  refine lookup_map_rename fun pair hpair heq => ?_
  have hkey : pair.1 ∈ declaration.typeParameters :=
    (List.of_mem_zip (List.mem_reverse.1 hpair)).1
  exact h.injective pair.1 hkey name hname heq

/-- A member that does not shadow a type parameter does not shadow its new name either. -/
theorem rename_not_mem_own (h : declaration.Admits rename) (hmember : member ∈ declaration.members)
    (hdeclared : name ∈ declaration.typeParameters) (hown : name ∉ member.typeParameters) :
    rename name ∉ member.typeParameters := by
  rcases h.fresh name hdeclared with hsame | hfresh
  · rwa [hsame]
  · exact fun hmem => hfresh (mem_names_of_member hmember (Or.inl hmem))

/-- What a member mentions is not declared under other names, if it was not declared before. -/
theorem not_mem_map_rename (h : declaration.Admits rename) (hmember : member ∈ declaration.members)
    (hname : name ∈ member.mentioned) (hdeclared : name ∉ declaration.typeParameters) :
    name ∉ declaration.typeParameters.map rename := by
  intro hmem
  obtain ⟨other, hother, rfl⟩ := List.mem_map.1 hmem
  rcases h.fresh other hother with hsame | hfresh
  · exact hdeclared (hsame.symm ▸ hother)
  · exact hfresh (mem_names_of_member hmember (Or.inr hname))

/-- What a member mentions is given the same under its new name. -/
theorem subst_parameter_renamed (h : declaration.Admits rename)
    (hmember : member ∈ declaration.members) (hname : name ∈ member.mentioned)
    {arguments : List TypeExpr}
    (hlength : declaration.typeParameters.length = arguments.length) :
    (TypeExpr.parameter (TypeExpr.renameOnly
        (declaration.typeParameters.filter (· ∉ member.typeParameters)) rename name)).subst
      ((Assignment.ofArguments (declaration.typeParameters.map rename) arguments).without
        member.typeParameters) =
      (TypeExpr.parameter name).subst
        ((Assignment.ofArguments declaration.typeParameters arguments).without
          member.typeParameters) := by
  by_cases hown : name ∈ member.typeParameters
  · have hkept : name ∉ declaration.typeParameters.filter (· ∉ member.typeParameters) :=
      fun hmem => by simpa [hown] using List.of_mem_filter hmem
    rw [TypeExpr.renameOnly_of_not_mem hkept, TypeExpr.subst_parameter_without_of_mem hown,
      TypeExpr.subst_parameter_without_of_mem hown]
  · by_cases hdeclared : name ∈ declaration.typeParameters
    · have hmem : name ∈ declaration.typeParameters.filter (· ∉ member.typeParameters) :=
        List.mem_filter.2 ⟨hdeclared, by simpa using hown⟩
      have hnew : rename name ∉ member.typeParameters :=
        h.rename_not_mem_own hmember hdeclared hown
      rw [TypeExpr.renameOnly_of_mem hmem, TypeExpr.subst_parameter_without_of_not_mem hnew,
        TypeExpr.subst_parameter_without_of_not_mem hown, TypeExpr.subst, TypeExpr.subst,
        h.ofArguments_rename arguments hdeclared]
      cases hgiven : Assignment.ofArguments declaration.typeParameters arguments name with
      | none => exact absurd hdeclared ((Assignment.ofArguments_eq_none_iff hlength).1 hgiven)
      | some given => rfl
    · have hkept : name ∉ declaration.typeParameters.filter (· ∉ member.typeParameters) :=
        fun hmem => hdeclared (List.mem_of_mem_filter hmem)
      have hnew : name ∉ declaration.typeParameters.map rename :=
        h.not_mem_map_rename hmember hname hdeclared
      have hlengthNew : (declaration.typeParameters.map rename).length = arguments.length := by
        rw [List.length_map, hlength]
      rw [TypeExpr.renameOnly_of_not_mem hkept, TypeExpr.subst_parameter_without_of_not_mem hown,
        TypeExpr.subst_parameter_without_of_not_mem hown,
        TypeExpr.subst_parameter_of_none ((Assignment.ofArguments_eq_none_iff hlengthNew).2 hnew),
        TypeExpr.subst_parameter_of_none
          ((Assignment.ofArguments_eq_none_iff hlength).2 hdeclared)]

/-- References construct the same members under other names. -/
theorem membersOf_renamed (h : declaration.Admits rename)
    (hopen : declaration.openType = type.openType) :
    (declaration.renamed rename).membersOf type = declaration.membersOf type := by
  have hlength : declaration.typeParameters.length = type.arguments.length :=
    congrArg OpenType.arity hopen
  rw [membersOf, membersOf, renamed, List.map_map]
  refine List.map_congr_left fun member hmember => ?_
  rw [Function.comp_apply, MemberDecl.subst_eq_mapTypes, MemberDecl.typeParameters_mapTypes,
    MemberDecl.mapTypes_mapTypes, MemberDecl.subst_eq_mapTypes]
  refine MemberDecl.mapTypes_congr fun written hwritten => ?_
  rw [Function.comp_apply, TypeExpr.renamed_eq_subst, TypeExpr.subst_subst,
    TypeExpr.subst_eq_subst_iff]
  intro name hname
  exact h.subst_parameter_renamed hmember
    (MemberDecl.mem_mentioned.2 ⟨written, hwritten, hname⟩) hlength

/-- Nothing that a snapshot is asked for tells other names apart. -/
theorem agrees (h : declaration.Admits rename) (surroundings : Surroundings) :
    (surroundings.with declaration).Agrees (surroundings.with (declaration.renamed rename)) where
  types := List.forall₂_same.2 fun type _ => .refl type
  resolve?_eq := surroundings.resolve?_with_eq (openType_renamed rename declaration)
    fun _ hopen => h.membersOf_renamed hopen

end InterfaceDecl.Admits

namespace Session

/-- Agreeing snapshots have the same candidates, and these are examined with the same outcomes. -/
theorem examined_eq_of_agrees {snapshot other : Snapshot} (h : snapshot.Agrees other)
    (session : Session) (token : Cancellation) :
    session.examined other token = session.examined snapshot token :=
  h.examineAll_eq session.settings session.cache
    (Snapshot.Agrees.distinctTargets (h.marked session.settings.markerAttribute) []) token

/-- The names of an interface's type parameters are irrelevant. Under other names every reference
resolves to the same, every type has the same decorator, and every run comes to the same. So a run
that is not cut short serves from the cache, in their order, all outputs of such a run before the
renaming, and reports no others. -/
theorem cached_of_renamed (surroundings : Surroundings) (h : declaration.Admits rename) :
    (∀ reference, (surroundings.with (declaration.renamed rename)).resolve? reference =
      (surroundings.with declaration).resolve? reference) ∧
    (∀ settings type,
      Decorator.derive (surroundings.with (declaration.renamed rename)) settings type =
        Decorator.derive (surroundings.with declaration) settings type) ∧
    (∀ (session : Session) token,
      session.run (surroundings.with (declaration.renamed rename)) token =
        session.run (surroundings.with declaration) token) ∧
    ∀ (session : Session) token other, ∃ report next later last,
      session.run (surroundings.with declaration) token = .ok (report, next) ∧
      next.run (surroundings.with (declaration.renamed rename)) other = .ok (later, last) ∧
      (session.Completes (surroundings.with declaration) token →
        next.Completes (surroundings.with (declaration.renamed rename)) other →
          later.outputs = report.standing.map (·.asCached)) := by
  have hagrees := h.agrees surroundings
  refine ⟨hagrees.resolve?_eq, fun settings type => hagrees.derive_eq (.refl type) settings,
    hagrees.run_eq, fun session token other => ?_⟩
  obtain ⟨report, next, hrun, hran⟩ := session.run_eq (surroundings.with declaration) token
  obtain ⟨later, last, hagain, hranAgain⟩ := next.run_eq (surroundings.with declaration) other
  refine ⟨report, next, later, last, hrun, (hagrees.run_eq next other).trans hagain, ?_⟩
  intro hcompletes hcompletesAgain
  rw [Completes, examined_eq_of_agrees hagrees] at hcompletesAgain
  exact hran.outputs_again hcompletes hranAgain hcompletesAgain

/-- The surroundings of `bagInterface` in a snapshot with a marked type that refers to it. -/
def bagSurroundings : Surroundings where
  types := [{ TypeDecl.ofClass (some "Data") "BagDecorator" with
    attributes := ["Decorgen.GenericDecoratorAttribute"]
    interfaces := [bagOfStrings.toExpr] }]
  before := []
  after := []

/-- Other names for the type parameters of `bagInterface`. -/
def bagNames (name : String) : String := name ++ "Item"

/-- The output for `bagSurroundings` comes from the cache after the type parameters of
`bagInterface` have got other names. -/
theorem cached_of_renamed_bag : bagInterface.Admits bagNames ∧
    (bagInterface.renamed bagNames).typeParameters = ["TItem", "KItem"] ∧
    (bagInterface.renamed bagNames).members.map (·.mentioned) =
      [["TItem", "K"], ["TItem"], ["KItem"]] ∧
    ∃ report next later last,
      (start .default).run (bagSurroundings.with bagInterface) .fresh = .ok (report, next) ∧
      next.run (bagSurroundings.with (bagInterface.renamed bagNames)) .fresh = .ok (later, last) ∧
      report.outputs.map (·.status) = [.new] ∧ later.outputs.map (·.status) = [.cached] := by
  have hadmits : bagInterface.Admits bagNames := ⟨by decide +kernel, by decide +kernel⟩
  obtain ⟨-, -, -, hcached⟩ := cached_of_renamed bagSurroundings hadmits
  obtain ⟨report, next, later, last, hrun, hagain, houtputs⟩ :=
    hcached (start .default) .fresh .fresh
  have hstatuses : ((start .default).run (bagSurroundings.with bagInterface) .fresh).toOption.map
      (fun ran => ran.1.outputs.map (·.status)) = some [.new] := by decide +kernel
  rw [hrun] at hstatuses
  have hnew : report.outputs.map (·.status) = [.new] := Option.some.inj hstatuses
  refine ⟨hadmits, by decide +kernel, by decide +kernel, report, next, later, last, hrun, hagain,
    hnew, ?_⟩
  obtain ⟨output, hreported⟩ : ∃ output, report.outputs = [output] := by
    refine List.length_eq_one_iff.1 ?_
    simpa using congrArg List.length hnew
  rw [hreported, List.map_singleton, List.singleton_inj] at hnew
  rw [houtputs (completes_fresh _ _) (completes_fresh _ _), RunReport.standing, hreported]
  simp [hnew, ReportedUnit.asCached]

end Session

end Forwarder
