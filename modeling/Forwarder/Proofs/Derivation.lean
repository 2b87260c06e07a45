import Forwarder.Decorator.Derivation
import Forwarder.Proofs.Accessor
import Forwarder.Proofs.Polling

/-!
# Derivation without polling

The walk that derives a decorator polls the token before every interface and every member. Here it
is taken apart into what it comes to, which is a plain map over the declared interfaces, and how
many checks it makes on the way there: none for a type that it does not look into, and otherwise one
for each interface and each of its members, up to the first interface that does not resolve.
-/

namespace Forwarder

/-! ## What the walk comes to -/

/-- An interface as it will be written, from what its reference is bound to. -/
def DecoratedInterface.ofBound (reference : TypeExpr) (accessor : String)
    (bound : BoundInterface) : DecoratedInterface where
  scope := aliasedScope bound.reference.head.scope
  fullName := reference.display .full
  minimalName := reference.display .minimal
  accessor := accessor
  methods := bound.members.filterMap (·.forwarded?)

/-- Interfaces as they will be written, each given with the name of its accessor, unless one of
them does not resolve. -/
def Snapshot.decorated? (snapshot : Snapshot) (interfaces : List (TypeExpr × String)) :
    Option (List DecoratedInterface) :=
  interfaces.mapM fun entry => (snapshot.resolve? entry.1).map (.ofBound entry.1 entry.2)

theorem Snapshot.decorated?_cons_of_none (snapshot : Snapshot) (rest : List (TypeExpr × String))
    {reference : TypeExpr} (accessor : String) (h : snapshot.resolve? reference = none) :
    snapshot.decorated? ((reference, accessor) :: rest) = none := by
  rw [decorated?, List.mapM_cons, h]
  rfl

theorem Snapshot.decorated?_cons_of_some (snapshot : Snapshot) (rest : List (TypeExpr × String))
    {reference : TypeExpr} {bound : BoundInterface} (accessor : String)
    (h : snapshot.resolve? reference = some bound) :
    snapshot.decorated? ((reference, accessor) :: rest) =
      (snapshot.decorated? rest).map (.ofBound reference accessor bound :: ·) := by
  rw [decorated?, List.mapM_cons, h, ← decorated?]
  cases snapshot.decorated? rest <;> rfl

/-! ## How many checks it makes -/

/-- The checks that interfaces take: one for each and one for each of its members, up to the first
one that does not resolve. -/
def Snapshot.interfaceChecks (snapshot : Snapshot) : List TypeExpr → Nat
  | [] => 0
  | reference :: rest =>
    match snapshot.resolve? reference with
    | none => 1
    | some bound => 1 + (bound.members.length + snapshot.interfaceChecks rest)

/-- The checks that a type takes: none if it did not resolve, and otherwise those of its
interfaces. -/
def TypeDecl.checks (type : TypeDecl) (snapshot : Snapshot) : Nat :=
  if type.kind = .unresolved then 0 else snapshot.interfaceChecks type.interfaces

/-- A type takes no check exactly if it did not resolve or declares no interface. -/
theorem TypeDecl.checks_eq_zero_iff (type : TypeDecl) (snapshot : Snapshot) :
    type.checks snapshot = 0 ↔ type.kind = .unresolved ∨ type.interfaces = [] := by
  rw [checks]
  split
  · simp [*]
  · rename_i hkind
    simp only [hkind, false_or]
    cases type.interfaces with
    | nil => simp [Snapshot.interfaceChecks]
    | cons reference rest =>
      rw [Snapshot.interfaceChecks]
      cases snapshot.resolve? reference with
      | none => simp
      | some bound =>
        simp only [reduceCtorEq, iff_false]
        omega

/-! ## The walk -/

/-- The walk over members takes a check for each, and comes to the methods among them. -/
theorem forwardMembers_takes (members : List MemberDecl) :
    (forwardMembers members).Takes members.length (members.filterMap (·.forwarded?)) := by
  induction members with
  | nil => exact .pure []
  | cons member rest ih =>
    have hmethods : (member :: rest).filterMap (·.forwarded?) =
        member.forwarded?.toList ++ rest.filterMap (·.forwarded?) := by
      rw [List.filterMap_cons]
      cases member.forwarded? <;> rfl
    rw [hmethods, List.length_cons, Nat.add_comm, forwardMembers]
    exact (Watched.Takes.check "extract member").bind
      (ih.map fun methods => member.forwarded?.toList ++ methods)

/-- The walk over interfaces takes their checks, and comes to them as they will be written. -/
theorem forwardInterfaces_takes (snapshot : Snapshot) (interfaces : List (TypeExpr × String)) :
    (forwardInterfaces snapshot interfaces).Takes
      (snapshot.interfaceChecks (interfaces.map Prod.fst)) (snapshot.decorated? interfaces) := by
  induction interfaces with
  | nil => exact .pure (some [])
  | cons head rest ih =>
    obtain ⟨reference, accessor⟩ := head
    rw [List.map_cons, Snapshot.interfaceChecks, forwardInterfaces]
    cases hresolve : snapshot.resolve? reference with
    | none =>
      rw [snapshot.decorated?_cons_of_none rest accessor hresolve]
      show Watched.Takes _ (1 + 0) none
      exact Watched.Takes.bind (.check "extract interface") (.pure none)
    | some bound =>
      rw [snapshot.decorated?_cons_of_some rest accessor hresolve]
      exact (Watched.Takes.check "extract interface").bind
        ((forwardMembers_takes bound.members).bind (ih.map _))

theorem TypeDecl.length_accessors (type : TypeDecl) (settings : Settings) :
    (type.accessors settings).names.length = type.interfaces.length := by
  rw [accessors, Accessor.length_names_resolve, List.length_map]

/-- No interface is lost where interfaces are paired with their accessors. -/
theorem TypeDecl.map_fst_accessors (type : TypeDecl) (settings : Settings) :
    (type.interfaces.zip (type.accessors settings).names).map Prod.fst = type.interfaces :=
  List.map_fst_zip (Nat.le_of_eq (type.length_accessors settings).symm)

/-- What a type's walk comes to. -/
def TypeDecl.decorator? (type : TypeDecl) (snapshot : Snapshot) (settings : Settings) :
    Option Decorator :=
  if type.kind = .unresolved ∨ type.interfaces = [] then none
  else (snapshot.decorated? (type.interfaces.zip (type.accessors settings).names)).map
    fun interfaces => { target := type.target, interfaces }

/-- The walk over a type takes its checks. -/
theorem Decorator.derive_takes (snapshot : Snapshot) (settings : Settings) (type : TypeDecl) :
    (Decorator.derive snapshot settings type).Takes (type.checks snapshot)
      (type.decorator? snapshot settings) := by
  by_cases hskip : type.kind = .unresolved ∨ type.interfaces = []
  · have hzero := (type.checks_eq_zero_iff snapshot).2 hskip
    rw [hzero, TypeDecl.decorator?, if_pos hskip, derive, if_pos (by simpa using hskip)]
    exact .pure none
  · rw [TypeDecl.decorator?, if_neg hskip, derive, if_neg (by simpa using hskip)]
    have hchecks : type.checks snapshot = snapshot.interfaceChecks
        ((type.interfaces.zip (type.accessors settings).names).map Prod.fst) := by
      rw [TypeDecl.checks, if_neg fun h => hskip (Or.inl h), type.map_fst_accessors settings]
    rw [hchecks]
    exact (forwardInterfaces_takes snapshot _).map _

/-- The decorator of a type is what its walk comes to. -/
theorem Decorator.derive?_eq (snapshot : Snapshot) (settings : Settings) (type : TypeDecl) :
    Decorator.derive? snapshot settings type = type.decorator? snapshot settings := by
  rw [derive?, (derive_takes snapshot settings type).start_fresh]

/-- A decorator is for the type that it is derived from. -/
theorem TypeDecl.target_of_decorator? {type : TypeDecl} {snapshot : Snapshot}
    {settings : Settings} {decorator : Decorator}
    (h : type.decorator? snapshot settings = some decorator) :
    decorator.target = type.target := by
  rw [decorator?] at h
  split at h
  · cases h
  · obtain ⟨interfaces, -, rfl⟩ := Option.map_eq_some_iff.1 h
    rfl

/-- A type that has a decorator takes some check. -/
theorem TypeDecl.checks_pos_of_decorator? {type : TypeDecl} {snapshot : Snapshot}
    {settings : Settings} {decorator : Decorator}
    (h : type.decorator? snapshot settings = some decorator) : 0 < type.checks snapshot := by
  refine Nat.pos_of_ne_zero fun hzero => ?_
  rw [decorator?, if_pos ((type.checks_eq_zero_iff snapshot).1 hzero)] at h
  cases h

end Forwarder
