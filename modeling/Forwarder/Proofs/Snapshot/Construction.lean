import Mathlib.Data.List.Basic
import Mathlib.Data.List.Nodup
import Forwarder.Proofs.TypeExpr.Mentions
import Forwarder.Snapshot
import Forwarder.TypeExpr.Framework

/-!
# Interfaces as references construct them

Resolving a reference puts its type arguments into the members of the declaration that it leads to.
The declaration has as many type parameters as the reference has arguments, so each of them is given
something, and a method's own type parameters stay what they are. So where a declaration mentions no
type parameters but those in scope, and the arguments mention none, no others are left over.
-/

namespace Forwarder

variable {snapshot : Snapshot} {reference : TypeExpr} {bound : BoundInterface}
  {declaration : InterfaceDecl} {assignment : Assignment} {member : MemberDecl} {name : String}

/-! ## Arguments for parameters -/

namespace Assignment

variable {parameters : List String} {arguments : List TypeExpr}

/-- What a type parameter is given is an argument at its position. -/
theorem mem_zip_of_ofArguments {given : TypeExpr}
    (h : ofArguments parameters arguments name = some given) :
    (name, given) ∈ parameters.zip arguments := by
  obtain ⟨front, back, hpairs, -⟩ := List.lookup_eq_some_iff.1 h
  rw [← List.mem_reverse, hpairs]
  exact List.mem_append_right _ List.mem_cons_self

theorem mem_of_ofArguments {given : TypeExpr}
    (h : ofArguments parameters arguments name = some given) :
    name ∈ parameters ∧ given ∈ arguments :=
  List.of_mem_zip (mem_zip_of_ofArguments h)

/-- Where there are as many arguments as type parameters, every type parameter is given one. -/
theorem ofArguments_eq_none_iff (hlength : parameters.length = arguments.length) :
    ofArguments parameters arguments name = none ↔ name ∉ parameters := by
  have hnames : (parameters.zip arguments).map Prod.fst = parameters :=
    List.map_fst_zip (Nat.le_of_eq hlength)
  rw [ofArguments, ofPairs, List.lookup_eq_none_iff]
  constructor
  · intro h hmem
    rw [← hnames] at hmem
    obtain ⟨pair, hpair, rfl⟩ := List.mem_map.1 hmem
    simpa using h pair (List.mem_reverse.2 hpair)
  · intro h pair hpair
    have hfirst : pair.1 ∈ parameters := (List.of_mem_zip (List.mem_reverse.1 hpair)).1
    simpa using fun heq : name = pair.1 => h (heq ▸ hfirst)

/-- Of distinct type parameters each is given the argument at its position. -/
theorem ofArguments_eq_some_iff {given : TypeExpr} (hlength : parameters.length ≤ arguments.length)
    (hdistinct : parameters.Nodup) :
    ofArguments parameters arguments name = some given ↔
      (name, given) ∈ parameters.zip arguments := by
  refine ⟨mem_zip_of_ofArguments, fun hmem => ?_⟩
  obtain ⟨front, back, hpairs⟩ := List.append_of_mem (List.mem_reverse.2 hmem)
  refine List.lookup_eq_some_iff.2 ⟨front, back, hpairs, fun pair hpair => ?_⟩
  have hkeys : ((parameters.zip arguments).reverse.map Prod.fst).Nodup := by
    rwa [List.map_reverse, List.nodup_reverse, List.map_fst_zip hlength]
  rw [hpairs, List.map_append, List.map_cons] at hkeys
  have hne : pair.1 ≠ name := by
    intro heq
    have hfront : name ∈ front.map Prod.fst := heq ▸ List.mem_map_of_mem hpair
    exact (List.nodup_append.1 hkeys).2.2 name hfront name List.mem_cons_self rfl
  simpa using hne.symm

theorem without_of_mem {names : List String} (h : name ∈ names) :
    assignment.without names name = none :=
  if_pos h

theorem without_of_not_mem {names : List String} (h : name ∉ names) :
    assignment.without names name = assignment name :=
  if_neg h

theorem without_eq_some_iff {names : List String} {given : TypeExpr} :
    assignment.without names name = some given ↔ name ∉ names ∧ assignment name = some given := by
  by_cases h : name ∈ names
  · simp [without_of_mem h, h]
  · simp [without_of_not_mem h, h]

end Assignment

/-- A shadowed type parameter stays as it is. -/
theorem TypeExpr.subst_parameter_without_of_mem {names : List String} (h : name ∈ names) :
    (TypeExpr.parameter name).subst (assignment.without names) = .parameter name :=
  subst_parameter_of_none (Assignment.without_of_mem h)

/-- Shadowing makes no difference to other type parameters. -/
theorem TypeExpr.subst_parameter_without_of_not_mem {names : List String} (h : name ∉ names) :
    (TypeExpr.parameter name).subst (assignment.without names) =
      (TypeExpr.parameter name).subst assignment := by
  rw [subst, subst, Assignment.without_of_not_mem h]

/-! ## The types of a member -/

namespace MethodDecl

/-- The types that a method is written with: its return type and those of its parameters. -/
def types (method : MethodDecl) : List TypeExpr :=
  method.returnType :: method.parameters.map (·.type)

/-- A method with something else in the place of each of its types. -/
def mapTypes (change : TypeExpr → TypeExpr) (method : MethodDecl) : MethodDecl :=
  { method with
    parameters := method.parameters.map fun parameter =>
      { parameter with type := change parameter.type }
    returnType := change method.returnType }

/-- What a method declares itself is shadowed in all of its types. -/
theorem subst_eq_mapTypes (assignment : Assignment) (method : MethodDecl) :
    method.subst assignment =
      method.mapTypes (·.subst (assignment.without method.typeParameters)) :=
  rfl

theorem types_mapTypes (change : TypeExpr → TypeExpr) (method : MethodDecl) :
    (method.mapTypes change).types = method.types.map change := by
  simp only [types, mapTypes, List.map_cons, List.map_map]
  rfl

theorem mapTypes_mapTypes (method : MethodDecl) (first second : TypeExpr → TypeExpr) :
    (method.mapTypes first).mapTypes second = method.mapTypes (second ∘ first) := by
  simp only [mapTypes, List.map_map]
  rfl

/-- Two changes of the types of a method come to the same exactly if they do at each type. -/
theorem mapTypes_eq_mapTypes_iff {method : MethodDecl} {change other : TypeExpr → TypeExpr} :
    method.mapTypes change = method.mapTypes other ↔
      ∀ type ∈ method.types, change type = other type := by
  simp only [mapTypes, types, MethodDecl.mk.injEq, true_and, and_true, List.map_inj_left,
    ParameterDecl.mk.injEq, List.forall_mem_cons, List.forall_mem_map]
  exact and_comm

/-- The type parameters that a method mentions. -/
def mentioned (method : MethodDecl) : List String := method.types.flatMap (·.mentioned)

theorem mem_mentioned {method : MethodDecl} :
    name ∈ method.mentioned ↔ ∃ type ∈ method.types, name ∈ type.mentioned :=
  List.mem_flatMap

end MethodDecl

namespace MemberDecl

/-- The types that a member is written with. -/
def types : MemberDecl → List TypeExpr
  | .method declared => declared.types
  | .property _ type => [type]
  | .event _ type => [type]

/-- The type parameters that a member declares for itself. Only methods do. -/
def typeParameters : MemberDecl → List String
  | .method declared => declared.typeParameters
  | .property .. | .event .. => []

/-- A member with something else in the place of each of its types. -/
def mapTypes (change : TypeExpr → TypeExpr) : MemberDecl → MemberDecl
  | .method declared => .method (declared.mapTypes change)
  | .property name type => .property name (change type)
  | .event name type => .event name (change type)

/-- The types of a member are replaced one by one, apart from what the member declares itself. -/
theorem subst_eq_mapTypes (assignment : Assignment) (member : MemberDecl) :
    member.subst assignment =
      member.mapTypes (·.subst (assignment.without member.typeParameters)) := by
  have hnone : assignment.without [] = assignment := rfl
  cases member with
  | method declared => exact congrArg method (declared.subst_eq_mapTypes assignment)
  | property name type | event name type =>
    rw [typeParameters, hnone]
    rfl

theorem types_mapTypes (change : TypeExpr → TypeExpr) (member : MemberDecl) :
    (member.mapTypes change).types = member.types.map change := by
  cases member with
  | method declared => exact declared.types_mapTypes change
  | property name type | event name type => rfl

theorem mapTypes_mapTypes (member : MemberDecl) (first second : TypeExpr → TypeExpr) :
    (member.mapTypes first).mapTypes second = member.mapTypes (second ∘ first) := by
  cases member with
  | method declared => exact congrArg method (declared.mapTypes_mapTypes first second)
  | property name type | event name type => rfl

theorem mapTypes_congr {change other : TypeExpr → TypeExpr}
    (h : ∀ type ∈ member.types, change type = other type) :
    member.mapTypes change = member.mapTypes other := by
  cases member with
  | method declared => exact congrArg method (MethodDecl.mapTypes_eq_mapTypes_iff.2 h)
  | property name type => exact congrArg (property name) (h type (List.mem_singleton_self _))
  | event name type => exact congrArg (event name) (h type (List.mem_singleton_self _))

/-- What a member is apart from its types: its kind, its name and its type parameters. -/
def outline (member : MemberDecl) : String × String × List String :=
  (member.kind, member.name, member.typeParameters)

theorem outline_mapTypes (change : TypeExpr → TypeExpr) (member : MemberDecl) :
    (member.mapTypes change).outline = member.outline := by
  cases member <;> rfl

theorem typeParameters_mapTypes (change : TypeExpr → TypeExpr) (member : MemberDecl) :
    (member.mapTypes change).typeParameters = member.typeParameters :=
  congrArg (·.2.2) (member.outline_mapTypes change)

/-- The type parameters that a member mentions. -/
def mentioned (member : MemberDecl) : List String := member.types.flatMap (·.mentioned)

theorem mem_mentioned : name ∈ member.mentioned ↔ ∃ type ∈ member.types, name ∈ type.mentioned :=
  List.mem_flatMap

/-- After a replacement a member mentions what the types mention that have been put in. -/
theorem mem_mentioned_subst :
    name ∈ (member.subst assignment).mentioned ↔ ∃ own ∈ member.mentioned,
      name ∈ ((TypeExpr.parameter own).subst
        (assignment.without member.typeParameters)).mentioned := by
  rw [mem_mentioned, subst_eq_mapTypes, types_mapTypes]
  constructor
  · rintro ⟨_, hmem, hname⟩
    obtain ⟨type, htype, rfl⟩ := List.mem_map.1 hmem
    obtain ⟨own, hown, hgiven⟩ := TypeExpr.mem_mentioned_subst.1 hname
    exact ⟨own, mem_mentioned.2 ⟨type, htype, hown⟩, hgiven⟩
  · rintro ⟨own, hmem, hgiven⟩
    obtain ⟨type, htype, hown⟩ := mem_mentioned.1 hmem
    exact ⟨_, List.mem_map_of_mem htype, TypeExpr.mem_mentioned_subst.2 ⟨own, hown, hgiven⟩⟩

end MemberDecl

/-- The names of type parameters that occur in an interface, declared or mentioned. -/
def InterfaceDecl.names (declaration : InterfaceDecl) : List String :=
  declaration.typeParameters ++
    declaration.members.flatMap fun member => member.typeParameters ++ member.mentioned

/-- What a member declares or mentions occurs in the interface. -/
theorem InterfaceDecl.mem_names_of_member (h : member ∈ declaration.members)
    (hname : name ∈ member.typeParameters ∨ name ∈ member.mentioned) : name ∈ declaration.names :=
  List.mem_append_right _ (List.mem_flatMap.2 ⟨member, h, List.mem_append.2 hname⟩)

/-! ## Resolved references -/

/-- The members of a declaration as a reference constructs them. -/
def InterfaceDecl.membersOf (declaration : InterfaceDecl) (constructed : ConstructedType) :
    List MemberDecl :=
  declaration.members.map
    (·.subst (Assignment.ofArguments declaration.typeParameters constructed.arguments))

namespace Snapshot

theorem resolve?_eq (snapshot : Snapshot) (reference : TypeExpr) :
    snapshot.resolve? reference =
      if reference.hasUnresolved then none
      else reference.asConstructed?.bind fun type =>
        (snapshot.declarationOf? type).map fun declaration =>
          { reference := type, members := declaration.membersOf type } := by
  rw [resolve?]
  congr 1
  cases reference.asConstructed? with
  | none => rfl
  | some type =>
    simp only [Option.bind_eq_bind, Option.bind_some]
    cases snapshot.declarationOf? type <;> rfl

/-- A declaration is found for its definition. -/
theorem openType_of_declarationOf? {type : ConstructedType}
    (h : snapshot.declarationOf? type = some declaration) :
    declaration.openType = type.openType := by
  simpa using List.find?_some h

/-- Where a reference leads to a declaration, there are as many arguments as type parameters. -/
theorem length_arguments_of_declarationOf? {type : ConstructedType}
    (h : snapshot.declarationOf? type = some declaration) :
    declaration.typeParameters.length = type.arguments.length :=
  congrArg OpenType.arity (openType_of_declarationOf? h)

/-- A reference resolves to what the declaration of its definition constructs. -/
theorem resolve?_eq_some_iff :
    snapshot.resolve? reference = some bound ↔
      reference.hasUnresolved = false ∧ reference.asConstructed? = some bound.reference ∧
        ∃ declaration, snapshot.declarationOf? bound.reference = some declaration ∧
          bound.members = declaration.membersOf bound.reference := by
  rw [resolve?_eq]
  constructor
  · intro h
    split at h
    · cases h
    · rename_i hunresolved
      obtain ⟨type, htype, h⟩ := Option.bind_eq_some_iff.1 h
      obtain ⟨declaration, hdeclaration, rfl⟩ := Option.map_eq_some_iff.1 h
      exact ⟨Bool.of_not_eq_true hunresolved, htype, declaration, hdeclaration, rfl⟩
  · rintro ⟨hunresolved, htype, declaration, hdeclaration, hmembers⟩
    rw [if_neg (by simp [hunresolved]), htype, Option.bind_some, hdeclaration, Option.map_some,
      ← hmembers]

/-- What a reference resolves to has the members of the declaration that it leads to. -/
theorem members_of_resolve? (h : snapshot.resolve? reference = some bound)
    (hdeclaration : snapshot.declarationOf? bound.reference = some declaration) :
    bound.members = declaration.membersOf bound.reference := by
  obtain ⟨-, -, found, hfound, hmembers⟩ := resolve?_eq_some_iff.1 h
  obtain rfl : found = declaration := Option.some.inj (hfound.symm.trans hdeclaration)
  exact hmembers

end Snapshot

/-! ## Type parameters in scope -/

/-- The members of an interface mention only its type parameters and those that they declare
themselves. -/
def InterfaceDecl.Scoped (declaration : InterfaceDecl) : Prop :=
  ∀ member ∈ declaration.members, ∀ name ∈ member.mentioned,
    name ∈ declaration.typeParameters ∨ name ∈ member.typeParameters

instance (declaration : InterfaceDecl) : Decidable declaration.Scoped := by
  unfold InterfaceDecl.Scoped
  infer_instance

/-- A reference without type parameters leaves none of an interface. Its members are those of the
declaration in kind, name and order, and all type parameters that they mention are their own: for
methods those that the method declares, and for properties and events none. -/
theorem mentioned_subset_of_closed (h : snapshot.resolve? reference = some bound)
    (hdeclaration : snapshot.declarationOf? bound.reference = some declaration)
    (hscoped : declaration.Scoped)
    (hclosed : ∀ argument ∈ bound.reference.arguments, argument.mentioned = []) :
    bound.members.map (·.outline) = declaration.members.map (·.outline) ∧
      ∀ member ∈ bound.members, ∀ name ∈ member.mentioned, name ∈ member.typeParameters := by
  have hlength := Snapshot.length_arguments_of_declarationOf? hdeclaration
  rw [Snapshot.members_of_resolve? h hdeclaration, InterfaceDecl.membersOf]
  constructor
  · rw [List.map_map]
    exact List.map_congr_left fun member _ => by
      rw [Function.comp_apply, MemberDecl.subst_eq_mapTypes, MemberDecl.outline_mapTypes]
  · intro resolved hresolved name hname
    obtain ⟨member, hmember, rfl⟩ := List.mem_map.1 hresolved
    rw [MemberDecl.subst_eq_mapTypes, MemberDecl.typeParameters_mapTypes]
    obtain ⟨mentioned, hmentioned, hname⟩ := MemberDecl.mem_mentioned_subst.1 hname
    by_cases hshadowed : mentioned ∈ member.typeParameters
    · rw [TypeExpr.subst_parameter_without_of_mem hshadowed,
        TypeExpr.mem_mentioned_parameter] at hname
      rwa [hname]
    · -- what the member does not declare is in scope by the interface, and so it is given something
      have hscope : mentioned ∈ declaration.typeParameters :=
        (hscoped member hmember mentioned hmentioned).resolve_right hshadowed
      rw [TypeExpr.subst_parameter_without_of_not_mem hshadowed] at hname
      cases hgiven : Assignment.ofArguments declaration.typeParameters bound.reference.arguments
          mentioned with
      | none => exact absurd hscope ((Assignment.ofArguments_eq_none_iff hlength).1 hgiven)
      | some argument =>
        rw [TypeExpr.subst_parameter_of_some hgiven,
          hclosed argument (Assignment.mem_of_ofArguments hgiven).2] at hname
        exact absurd hname List.not_mem_nil

/-- A generic interface with a member of every kind and a method that shadows a type parameter. -/
def bagInterface : InterfaceDecl :=
  .inScope (some "Data") "IBag" ["T", "K"]
    [.method { MethodDecl.returning "Sort" (.array (.nullable (.parameter "T")) 1) with
        typeParameters := ["K"]
        parameters := [⟨"key", Framework.func (.parameter "K"), .value, false⟩] },
      .property "First" (.parameter "T"), .event "Changed" (Framework.func (.parameter "K"))]

/-- The interface type that has strings for the first and numbers for the second type parameter of
`bagInterface`. -/
def bagOfStrings : ConstructedType :=
  ⟨bagInterface.head, [Framework.string, Framework.int]⟩

/-- Of the type parameters of `bagInterface` only the one is left that its method declares. -/
theorem mentioned_subset_of_closed_bag : ∃ bound,
    (⟨[], [bagInterface]⟩ : Snapshot).resolve? bagOfStrings.toExpr = some bound ∧
    (⟨[], [bagInterface]⟩ : Snapshot).declarationOf? bound.reference = some bagInterface ∧
    bagInterface.Scoped ∧ (∀ argument ∈ bound.reference.arguments, argument.mentioned = []) ∧
    bound.members.map (·.outline) =
      [("method", "Sort", ["K"]), ("property", "First", []), ("event", "Changed", [])] ∧
    ∀ member ∈ bound.members, ∀ name ∈ member.mentioned, name ∈ member.typeParameters := by
  have hresolve : (⟨[], [bagInterface]⟩ : Snapshot).resolve? bagOfStrings.toExpr =
      some ⟨bagOfStrings, bagInterface.membersOf bagOfStrings⟩ := by decide +kernel
  have hdeclaration : (⟨[], [bagInterface]⟩ : Snapshot).declarationOf? bagOfStrings =
      some bagInterface := by decide +kernel
  have hscoped : bagInterface.Scoped := by decide +kernel
  have hclosed : ∀ argument ∈ bagOfStrings.arguments, argument.mentioned = [] := by
    decide +kernel
  obtain ⟨houtlines, hmentioned⟩ :=
    mentioned_subset_of_closed hresolve hdeclaration hscoped hclosed
  exact ⟨_, hresolve, hdeclaration, hscoped, hclosed, houtlines, hmentioned⟩

end Forwarder
