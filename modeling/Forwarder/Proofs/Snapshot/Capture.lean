import Forwarder.Proofs.Snapshot.ParameterNames

/-!
# The type parameters of methods

A method shadows the type parameters that it declares itself: nothing is put in for them. That says
nothing about the types that are put in for the others. Where one of these mentions a type parameter
that the method declares too, the mention belongs to the method afterwards: it is captured. Then it
matters how the method calls its type parameters, and it matters only then: a method with other
names for them resolves to what it resolved to, under the other names, exactly if nothing is
captured.
-/

namespace Forwarder

variable {declaration : InterfaceDecl} {rename : String → String} {method : MethodDecl}
  {assignment : Assignment} {surroundings : Surroundings} {reference : TypeExpr}
  {bound : BoundInterface} {type : ConstructedType} {position : Nat}

/-! ## Methods under other names -/

namespace MethodDecl

/-- A method with other names for its own type parameters, where it declares them and wherever it
mentions them. -/
def rebound (rename : String → String) (method : MethodDecl) : MethodDecl :=
  { method.mapTypes (·.renamed (TypeExpr.renameOnly method.typeParameters rename)) with
    typeParameters := method.typeParameters.map rename }

/-- A type that is put into a method mentions one of the method's own type parameters. -/
def Captures (assignment : Assignment) (method : MethodDecl) : Prop :=
  ∃ name ∈ method.mentioned, name ∉ method.typeParameters ∧
    ∃ own ∈ method.typeParameters, own ∈ ((TypeExpr.parameter name).subst assignment).mentioned

instance (assignment : Assignment) (method : MethodDecl) :
    Decidable (method.Captures assignment) := by
  unfold Captures
  infer_instance

/-- Types that mention none of a method's own type parameters are put in without capture. -/
theorem not_captures_of_disjoint {parameters : List String} {arguments : List TypeExpr}
    (h : ∀ own ∈ method.typeParameters, ∀ argument ∈ arguments, own ∉ argument.mentioned) :
    ¬ method.Captures (.ofArguments parameters arguments) := by
  rintro ⟨name, -, hother, own, hown, hmentioned⟩
  cases hgiven : Assignment.ofArguments parameters arguments name with
  | none =>
    rw [TypeExpr.subst_parameter_of_none hgiven, TypeExpr.mem_mentioned_parameter] at hmentioned
    exact hother (hmentioned ▸ hown)
  | some argument =>
    rw [TypeExpr.subst_parameter_of_some hgiven] at hmentioned
    exact h own hown argument (Assignment.mem_of_ofArguments hgiven).2 hmentioned

/-- Putting in types and renaming can change places at a mention exactly if what is put in for it
keeps its names. -/
theorem subst_parameter_rebound_iff {name : String}
    (hnew : name ∉ method.typeParameters → name ∉ method.typeParameters.map rename)
    (hchanged : ∀ own ∈ method.typeParameters, rename own ≠ own) :
    (TypeExpr.parameter name).subst
        ((Assignment.ofNames (TypeExpr.renameOnly method.typeParameters rename)).andThen
          (assignment.without (method.typeParameters.map rename))) =
      (TypeExpr.parameter name).subst
        ((assignment.without method.typeParameters).andThen
          (.ofNames (TypeExpr.renameOnly method.typeParameters rename))) ↔
      (name ∉ method.typeParameters →
        ∀ own ∈ method.typeParameters,
          own ∉ ((TypeExpr.parameter name).subst assignment).mentioned) := by
  rw [← TypeExpr.subst_subst, ← TypeExpr.subst_subst, ← TypeExpr.renamed_eq_subst,
    ← TypeExpr.renamed_eq_subst, TypeExpr.renamed]
  by_cases hown : name ∈ method.typeParameters
  · have hbound : rename name ∈ method.typeParameters.map rename := List.mem_map_of_mem hown
    rw [TypeExpr.renameOnly_of_mem hown, TypeExpr.subst_parameter_without_of_mem hbound,
      TypeExpr.subst_parameter_without_of_mem hown, TypeExpr.renamed,
      TypeExpr.renameOnly_of_mem hown]
    exact iff_of_true rfl fun hother => absurd hown hother
  · rw [TypeExpr.renameOnly_of_not_mem hown,
      TypeExpr.subst_parameter_without_of_not_mem (hnew hown),
      TypeExpr.subst_parameter_without_of_not_mem hown, eq_comm, TypeExpr.renamed_eq_self_iff]
    constructor
    · intro h _ own hmem hmentioned
      have hkept := h own hmentioned
      rw [TypeExpr.renameOnly_of_mem hmem] at hkept
      exact hchanged own hmem hkept
    · intro h own hmentioned
      exact TypeExpr.renameOnly_of_not_mem fun hmem => h hown own hmem hmentioned

/-- Putting in types and renaming can change places in a method exactly if they can in each of its
types. -/
theorem subst_rebound_eq_iff_types :
    (method.rebound rename).subst assignment = (method.subst assignment).rebound rename ↔
      ∀ written ∈ method.types,
        (written.renamed (TypeExpr.renameOnly method.typeParameters rename)).subst
            (assignment.without (method.typeParameters.map rename)) =
          (written.subst (assignment.without method.typeParameters)).renamed
            (TypeExpr.renameOnly method.typeParameters rename) := by
  have hleft : (method.rebound rename).subst assignment =
      { method.mapTypes ((·.subst (assignment.without (method.typeParameters.map rename))) ∘
          (·.renamed (TypeExpr.renameOnly method.typeParameters rename))) with
        typeParameters := method.typeParameters.map rename } := by
    rw [subst_eq_mapTypes, ← mapTypes_mapTypes]
    rfl
  have hright : (method.subst assignment).rebound rename =
      { method.mapTypes ((·.renamed (TypeExpr.renameOnly method.typeParameters rename)) ∘
          (·.subst (assignment.without method.typeParameters))) with
        typeParameters := method.typeParameters.map rename } := by
    rw [subst_eq_mapTypes, ← mapTypes_mapTypes]
    rfl
  rw [hleft, hright]
  refine Iff.trans ?_ mapTypes_eq_mapTypes_iff
  constructor
  · exact congrArg fun other : MethodDecl =>
      { other with typeParameters := method.typeParameters }
  · exact congrArg fun other : MethodDecl =>
      { other with typeParameters := method.typeParameters.map rename }

theorem not_captures_iff :
    ¬ method.Captures assignment ↔
      ∀ written ∈ method.types, ∀ name ∈ written.mentioned, name ∉ method.typeParameters →
        ∀ own ∈ method.typeParameters,
          own ∉ ((TypeExpr.parameter name).subst assignment).mentioned := by
  constructor
  · intro h written hwritten name hname hother own hown hmentioned
    exact h ⟨name, mem_mentioned.2 ⟨written, hwritten, hname⟩, hother, own, hown, hmentioned⟩
  · rintro h ⟨name, hname, hother, own, hown, hmentioned⟩
    obtain ⟨written, hwritten, hin⟩ := mem_mentioned.1 hname
    exact h written hwritten name hin hother own hown hmentioned

/-- Putting types into a method under other names comes to the same, under the other names, exactly
if nothing is captured. -/
theorem subst_rebound_iff (hnew : ∀ own ∈ method.typeParameters, rename own ∉ method.mentioned)
    (hchanged : ∀ own ∈ method.typeParameters, rename own ≠ own) :
    (method.rebound rename).subst assignment = (method.subst assignment).rebound rename ↔
      ¬ method.Captures assignment := by
  rw [subst_rebound_eq_iff_types, not_captures_iff]
  refine forall₂_congr fun written hwritten => ?_
  rw [TypeExpr.renamed_eq_subst, TypeExpr.renamed_eq_subst, TypeExpr.subst_subst,
    TypeExpr.subst_subst, TypeExpr.subst_eq_subst_iff]
  refine forall₂_congr fun name hname => subst_parameter_rebound_iff ?_ hchanged
  -- no new name is one that the method mentions
  intro _ hmem
  obtain ⟨own, hown, rfl⟩ := List.mem_map.1 hmem
  exact hnew own hown (mem_mentioned.2 ⟨written, hwritten, hname⟩)

end MethodDecl

/-! ## Resolved methods -/

/-- An interface with another member at a position. -/
def InterfaceDecl.withMember (declaration : InterfaceDecl) (position : Nat) (member : MemberDecl) :
    InterfaceDecl :=
  { declaration with members := declaration.members.set position member }

/-- A resolved interface with another member at a position. -/
def BoundInterface.withMember (bound : BoundInterface) (position : Nat) (member : MemberDecl) :
    BoundInterface :=
  { bound with members := bound.members.set position member }

theorem BoundInterface.withMember_inj {member other : MemberDecl}
    (hposition : position < bound.members.length) :
    bound.withMember position member = bound.withMember position other ↔ member = other := by
  constructor
  · intro h
    have hmembers := congrArg (·.members[position]?) h
    simpa [withMember, hposition] using hmembers
  · exact congrArg (bound.withMember position)

/-- With another member in its declaration, a reference resolves to the same with this member. -/
theorem Surroundings.resolve?_withMember
    (hfirst : ∀ earlier ∈ surroundings.before, earlier.openType ≠ declaration.openType)
    (h : (surroundings.with declaration).resolve? reference = some bound)
    (hopen : declaration.openType = bound.reference.openType) (member : MemberDecl) :
    (surroundings.with (declaration.withMember position member)).resolve? reference =
      some (bound.withMember position (member.subst
        (.ofArguments declaration.typeParameters bound.reference.arguments))) := by
  have hmembers : bound.members = declaration.membersOf bound.reference :=
    Snapshot.members_of_resolve? h (declarationOf?_with_of_first hfirst hopen)
  obtain ⟨hunresolved, htype, -⟩ := Snapshot.resolve?_eq_some_iff.1 h
  refine Snapshot.resolve?_eq_some_iff.2 ⟨hunresolved, htype, _,
    declarationOf?_with_of_first hfirst hopen, ?_⟩
  rw [BoundInterface.withMember, hmembers, InterfaceDecl.membersOf, InterfaceDecl.membersOf,
    InterfaceDecl.withMember, List.map_set]

/-- The names of a method's type parameters are irrelevant to what a reference resolves to, but for
capture. With new names for them, which occur nowhere in the interface, the reference resolves to
what it resolved to, under these names, exactly if no type argument that is put into the method
mentions one of its type parameters. -/
theorem resolved_rebound_iff_not_captures
    (hfirst : ∀ earlier ∈ surroundings.before, earlier.openType ≠ declaration.openType)
    (h : (surroundings.with declaration).resolve? reference = some bound)
    (hopen : declaration.openType = bound.reference.openType)
    (hmethod : declaration.members[position]? = some (.method method))
    (hfresh : ∀ own ∈ method.typeParameters, rename own ∉ declaration.names) :
    ∃ resolved, bound.members[position]? = some (.method resolved) ∧
      ((surroundings.with
          (declaration.withMember position (.method (method.rebound rename)))).resolve? reference =
          some (bound.withMember position (.method (resolved.rebound rename))) ↔
        ¬ method.Captures
          (.ofArguments declaration.typeParameters bound.reference.arguments)) := by
  have hmember : MemberDecl.method method ∈ declaration.members := List.mem_of_getElem? hmethod
  have hnew : ∀ own ∈ method.typeParameters, rename own ∉ method.mentioned :=
    fun own hown hmentioned =>
      hfresh own hown (InterfaceDecl.mem_names_of_member hmember (Or.inr hmentioned))
  have hchanged : ∀ own ∈ method.typeParameters, rename own ≠ own := fun own hown hsame =>
    hfresh own hown (hsame.symm ▸ InterfaceDecl.mem_names_of_member hmember (Or.inl hown))
  have hmembers : bound.members = declaration.membersOf bound.reference :=
    Snapshot.members_of_resolve? h (Surroundings.declarationOf?_with_of_first hfirst hopen)
  have hresolved : bound.members[position]? = some (.method (method.subst
      (.ofArguments declaration.typeParameters bound.reference.arguments))) := by
    rw [hmembers, InterfaceDecl.membersOf, List.getElem?_map, hmethod]
    rfl
  have hposition : position < bound.members.length := (List.getElem?_eq_some_iff.1 hresolved).1
  refine ⟨_, hresolved, ?_⟩
  rw [Surroundings.resolve?_withMember hfirst h hopen, Option.some_inj,
    BoundInterface.withMember_inj hposition, MemberDecl.subst, MemberDecl.method.injEq,
    MethodDecl.subst_rebound_iff hnew hchanged]

/-- A generic method that takes something of the type that its interface is generic in. -/
def putMethod : MethodDecl :=
  { MethodDecl.returning "Put" .void with
    typeParameters := ["U"]
    parameters := [⟨"item", .parameter "T", .value, false⟩] }

/-- A generic interface with `putMethod`. -/
def boxInterface : InterfaceDecl := .inScope (some "Data") "IBox" ["T"] [.method putMethod]

/-- The interface type that has a type parameter for that of `boxInterface`. -/
def boxOf (name : String) : ConstructedType := ⟨boxInterface.head, [.parameter name]⟩

/-- A type argument with a name of its own is not captured. -/
theorem resolved_rebound_iff_not_captures_box : ∃ bound resolved,
    ((⟨[], [bagInterface], []⟩ : Surroundings).with boxInterface).resolve? (boxOf "W").toExpr =
      some bound ∧
    bound.members[0]? = some (.method resolved) ∧ resolved.types = [.void, .parameter "W"] ∧
    ((⟨[], [bagInterface], []⟩ : Surroundings).with
      (boxInterface.withMember 0 (.method (putMethod.rebound fun _ => "V")))).resolve?
        (boxOf "W").toExpr =
      some (bound.withMember 0 (.method (resolved.rebound fun _ => "V"))) := by
  have hfirst : ∀ earlier ∈ (⟨[], [bagInterface], []⟩ : Surroundings).before,
      earlier.openType ≠ boxInterface.openType := by decide +kernel
  have hresolve : ((⟨[], [bagInterface], []⟩ : Surroundings).with boxInterface).resolve?
      (boxOf "W").toExpr = some ⟨boxOf "W", boxInterface.membersOf (boxOf "W")⟩ := by
    decide +kernel
  have hmethod : boxInterface.members[0]? = some (.method putMethod) := rfl
  have hfresh : ∀ own ∈ putMethod.typeParameters, (fun _ => "V") own ∉ boxInterface.names := by
    decide +kernel
  have hfree : ¬ putMethod.Captures
      (.ofArguments boxInterface.typeParameters (boxOf "W").arguments) :=
    MethodDecl.not_captures_of_disjoint (by decide +kernel)
  obtain ⟨resolved, hresolved, hiff⟩ :=
    resolved_rebound_iff_not_captures hfirst hresolve rfl hmethod hfresh
  have htypes : resolved.types = [.void, .parameter "W"] := by
    obtain rfl := MemberDecl.method.inj (Option.some.inj hresolved)
    decide +kernel
  exact ⟨_, resolved, hresolve, hresolved, htypes, hiff.2 hfree⟩

/-- A type argument is captured where the method has a type parameter of its name. With another name
for the type parameter the argument does not become the method's, and so the method does not resolve
to what it resolved to. -/
theorem exists_captured :
    ("V" ∉ boxInterface.names ∧ "V" ∉ (boxOf "U").toExpr.mentioned) ∧
    ∃ resolved again,
      (⟨[], [boxInterface]⟩ : Snapshot).resolve? (boxOf "U").toExpr =
        some ⟨boxOf "U", [.method resolved]⟩ ∧
      (⟨[], [boxInterface.withMember 0 (.method (putMethod.rebound fun _ => "V"))]⟩ :
        Snapshot).resolve? (boxOf "U").toExpr = some ⟨boxOf "U", [.method again]⟩ ∧
      resolved.typeParameters = ["U"] ∧ resolved.types = [.void, .parameter "U"] ∧
      again.typeParameters = ["V"] ∧ again.types = [.void, .parameter "U"] ∧
      again ≠ resolved.rebound fun _ => "V" := by
  have hnames : "V" ∉ boxInterface.names ∧ "V" ∉ (boxOf "U").toExpr.mentioned := by
    decide +kernel
  refine ⟨hnames, putMethod.subst (.ofArguments ["T"] [.parameter "U"]),
    (putMethod.rebound fun _ => "V").subst (.ofArguments ["T"] [.parameter "U"]), ?_⟩
  decide +kernel

end Forwarder
