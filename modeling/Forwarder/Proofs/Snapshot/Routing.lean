import Forwarder.Decorator.Derivation
import Forwarder.Hook
import Forwarder.Proofs.Snapshot.Construction

/-!
# The hooks that methods of a construction go through

Whether a call is awaited is decided on the return type that a method has after the type arguments
have been put in, whereas the declaration shows the return type before. A named type is awaitable by
its definition, which its arguments have no part in. So the two differ for one kind of return types
only, type parameters that stand by themselves, with any nullable annotations around them: there the
type argument decides, and any annotations around that make no difference either.
-/

namespace Forwarder

variable {assignment : Assignment}

namespace TypeExpr

/-- What is left of a reference without the nullable annotations around it. -/
def unannotated : TypeExpr → TypeExpr
  | .nullable underlying => underlying.unannotated
  | type => type

/-- What is put in for a reference that is a type parameter but for nullable annotations. -/
def putIn? (assignment : Assignment) (type : TypeExpr) : Option TypeExpr :=
  match type.unannotated with
  | .parameter name => assignment name
  | _ => none

theorem putIn?_eq_some_iff {type given : TypeExpr} :
    type.putIn? assignment = some given ↔
      ∃ name, type.unannotated = .parameter name ∧ assignment name = some given := by
  rw [putIn?]
  split
  · rename_i name heq
    simp [heq]
  · rename_i hother
    constructor
    · intro h
      cases h
    · rintro ⟨name, hname, -⟩
      exact (hother name hname).elim

end TypeExpr

/-! ## Awaitable types -/

/-- A type argument is asked for its shape in the place of the type parameter that it is put in for,
if nothing but annotations is around. In all other places it makes no difference. -/
theorem Awaitable.ofType?_subst (assignment : Assignment) (type : TypeExpr) :
    Awaitable.ofType? (type.subst assignment) =
      (type.putIn? assignment).elim (Awaitable.ofType? type) Awaitable.ofType? := by
  induction type using TypeExpr.induct with
  | void | unresolved _ | array _ _ _ | pointer _ _ => rfl
  | named head arguments _ =>
    -- the shapes are told apart by name and number of arguments
    have hopen : ConstructedType.openType ⟨head, TypeExpr.substAll assignment arguments⟩ =
        ConstructedType.openType ⟨head, arguments⟩ := by
      rw [ConstructedType.openType, ConstructedType.openType, TypeExpr.length_substAll]
    have hnone : (TypeExpr.named head arguments).putIn? assignment = none := rfl
    rw [hnone, TypeExpr.subst, ofType?, Option.elim_none, ofType?]
    simp only [ConstructedType.isConstructionOf, hopen]
  | parameter name =>
    have hputIn : (TypeExpr.parameter name).putIn? assignment = assignment name := rfl
    rw [hputIn, TypeExpr.subst]
    cases assignment name <;> rfl
  | nullable underlying ih =>
    have hputIn : (TypeExpr.nullable underlying).putIn? assignment =
        underlying.putIn? assignment := rfl
    rw [hputIn, TypeExpr.subst, ofType?, ofType?, ih]

/-- A type parameter by itself has no shape. -/
theorem Awaitable.ofType?_of_unannotated {type : TypeExpr} {name : String}
    (h : type.unannotated = .parameter name) : Awaitable.ofType? type = none := by
  induction type using TypeExpr.induct with
  | void | unresolved _ | array _ _ _ | pointer _ _ | parameter _ => rfl
  | named head arguments _ => cases h
  | nullable underlying ih =>
    rw [ofType?]
    exact ih h

/-- After a replacement a type can be awaited if it could before, or if a type that can be awaited
was put in for all of it but annotations. -/
theorem TypeExpr.canBeAwaited_subst_iff {type : TypeExpr} :
    (type.subst assignment).canBeAwaited = true ↔
      type.canBeAwaited = true ∨ ∃ name given, type.unannotated = .parameter name ∧
        assignment name = some given ∧ given.canBeAwaited = true := by
  rw [canBeAwaited, Awaitable.ofType?_subst]
  cases hputIn : type.putIn? assignment with
  | none =>
    have hnone : ¬ ∃ name given, type.unannotated = .parameter name ∧
        assignment name = some given ∧ given.canBeAwaited = true := by
      rintro ⟨name, given, hname, hgiven, -⟩
      rw [putIn?_eq_some_iff.2 ⟨name, hname, hgiven⟩] at hputIn
      cases hputIn
    rw [Option.elim_none, canBeAwaited]
    exact (or_iff_left hnone).symm
  | some given =>
    obtain ⟨name, hname, hgiven⟩ := putIn?_eq_some_iff.1 hputIn
    rw [Option.elim_some, canBeAwaited, Awaitable.ofType?_of_unannotated hname]
    constructor
    · intro hawaited
      exact .inr ⟨name, given, hname, hgiven, hawaited⟩
    · rintro (hawaited | ⟨other, put, hother, hput, hawaited⟩)
      · cases hawaited
      · obtain rfl := TypeExpr.parameter.inj (hname.symm.trans hother)
        obtain rfl := Option.some.inj (hgiven.symm.trans hput)
        exact hawaited

/-! ## Hooks -/

theorem Hook.nameFor_eq_iff {awaited : Bool} :
    Hook.nameFor awaited = "DecorateAsync" ↔ awaited = true := by
  cases awaited <;> simp [nameFor]

/-- Whether a method of a construction goes through the hook for awaited calls can be told from the
declaration. A replacement changes the shape of a type only where it puts in all of it but nullable
annotations. So a method goes through that hook exactly if its declared return type can be awaited,
or is, but for nullable annotations, a type parameter of the interface, not shadowed by the method,
whose argument can be awaited. -/
theorem nameFor_isAwaited_of_resolve? :
    (∀ (assignment : Assignment) (type : TypeExpr), Awaitable.ofType? (type.subst assignment) =
      (type.putIn? assignment).elim (Awaitable.ofType? type) Awaitable.ofType?) ∧
    ∀ (snapshot : Snapshot) (reference : TypeExpr) (bound : BoundInterface)
      (declaration : InterfaceDecl), snapshot.resolve? reference = some bound →
      snapshot.declarationOf? bound.reference = some declaration →
      ∀ (position : Nat) (method : MethodDecl),
        declaration.members[position]? = some (.method method) →
        ∃ forwarded, bound.members[position]?.bind (·.forwarded?) = some forwarded ∧
          (Hook.nameFor forwarded.isAwaited = "DecorateAsync" ↔
            method.returnType.canBeAwaited = true ∨
            ∃ name argument, method.returnType.unannotated = .parameter name ∧
              name ∉ method.typeParameters ∧
              Assignment.ofArguments declaration.typeParameters bound.reference.arguments name =
                some argument ∧
              argument.canBeAwaited = true) := by
  refine ⟨Awaitable.ofType?_subst, ?_⟩
  intro snapshot reference bound declaration h hdeclaration position method hmethod
  have hmember : bound.members[position]?.bind (·.forwarded?) = some (.ofDecl (method.subst
      (.ofArguments declaration.typeParameters bound.reference.arguments))) := by
    rw [Snapshot.members_of_resolve? h hdeclaration, InterfaceDecl.membersOf, List.getElem?_map,
      hmethod]
    rfl
  refine ⟨_, hmember, ?_⟩
  rw [Hook.nameFor_eq_iff, ForwardedMethod.ofDecl, MethodDecl.subst,
    TypeExpr.canBeAwaited_subst_iff]
  simp only [Assignment.without_eq_some_iff, and_assoc]

/-- A method that returns what its interface is generic in, or nothing. -/
def nextMethod : MethodDecl := .returning "Next" (.nullable (.parameter "T"))

/-- A method that returns what it is generic in itself. -/
def pickMethod : MethodDecl := { MethodDecl.returning "Pick" (.parameter "K") with
  typeParameters := ["K"] }

/-- A generic interface with `nextMethod` and `pickMethod`. -/
def feedInterface : InterfaceDecl :=
  .inScope (some "Data") "IFeed" ["T", "K"] [.method nextMethod, .method pickMethod]

/-- The interface type that has tasks for both type parameters of `feedInterface`. -/
def feedOfTasks : ConstructedType :=
  ⟨feedInterface.head, [Framework.genericTask Framework.int, Framework.task]⟩

/-- For tasks `nextMethod` is awaited, through its annotation, and `pickMethod` is not, as it
shadows the type parameter that a task is put in for. -/
theorem nameFor_isAwaited_of_resolve?_feed : ∃ bound next pick,
    (⟨[], [feedInterface]⟩ : Snapshot).resolve? feedOfTasks.toExpr = some bound ∧
    (⟨[], [feedInterface]⟩ : Snapshot).declarationOf? bound.reference = some feedInterface ∧
    nextMethod.returnType.canBeAwaited = false ∧
    bound.members[0]?.bind (·.forwarded?) = some next ∧
    Hook.nameFor next.isAwaited = "DecorateAsync" ∧
    bound.members[1]?.bind (·.forwarded?) = some pick ∧
    Hook.nameFor pick.isAwaited ≠ "DecorateAsync" := by
  have hresolve : (⟨[], [feedInterface]⟩ : Snapshot).resolve? feedOfTasks.toExpr =
      some ⟨feedOfTasks, feedInterface.membersOf feedOfTasks⟩ := by decide +kernel
  have hdeclaration : (⟨[], [feedInterface]⟩ : Snapshot).declarationOf? feedOfTasks =
      some feedInterface := by decide +kernel
  have hmethods := nameFor_isAwaited_of_resolve?.2 _ _ _ _ hresolve hdeclaration
  obtain ⟨next, hnext, hnextHook⟩ := hmethods 0 nextMethod rfl
  obtain ⟨pick, hpick, hpickHook⟩ := hmethods 1 pickMethod rfl
  refine ⟨_, next, pick, hresolve, hdeclaration, by decide +kernel, hnext, hnextHook.2 ?_, hpick,
    fun hawaited => ?_⟩
  · exact .inr ⟨"T", Framework.genericTask Framework.int, rfl, by decide, by decide +kernel,
      by decide +kernel⟩
  · rcases hpickHook.1 hawaited with hdeclared | ⟨name, argument, hname, hown, -⟩
    · exact absurd hdeclared (by decide +kernel)
    · obtain rfl := TypeExpr.parameter.inj hname
      exact hown List.mem_cons_self

end Forwarder
