import Forwarder.Snapshot.Json
import Forwarder.Proofs.Json.Decode

/-!
# Snapshots read back from their JSON form

The reader of each part of a snapshot takes the part back from its JSON form. That takes namespaces
that are written as they are stored, because they are normalised when they are read.
-/

namespace Forwarder

open Json Text

/-! ## Namespaces as they are stored -/

/-- Whether a namespace is written as it is stored: absent, or neither empty nor behind the global
alias. -/
def isStoredScope : Option String → Bool
  | none => true
  | some text => text ≠ "" && !globalAlias.toList.isPrefixOf text.toList

mutual

/-- Whether all namespaces in a reference are written as they are stored. -/
def TypeExpr.isStored : TypeExpr → Bool
  | .named head arguments => isStoredScope head.scope && TypeExpr.allStored arguments
  | .array element _ => element.isStored
  | .pointer pointee => pointee.isStored
  | .nullable underlying => underlying.isStored
  | .void | .parameter _ | .unresolved _ => true

/-- Whether all namespaces in several references are written as they are stored. -/
def TypeExpr.allStored : List TypeExpr → Bool
  | [] => true
  | argument :: rest => argument.isStored && TypeExpr.allStored rest

end

/-- Whether all namespaces in a method are written as they are stored. -/
def MethodDecl.isStored (method : MethodDecl) : Bool :=
  method.returnType.isStored && method.parameters.all (·.type.isStored)

/-- Whether all namespaces in a member are written as they are stored. -/
def MemberDecl.isStored : MemberDecl → Bool
  | .method declared => declared.isStored
  | .property _ type => type.isStored
  | .event _ type => type.isStored

/-- Whether all namespaces in an interface are written as they are stored. -/
def InterfaceDecl.isStored (interface : InterfaceDecl) : Bool :=
  isStoredScope interface.head.scope && interface.members.all (·.isStored)

/-- Whether all namespaces in a candidate type are written as they are stored. -/
def TypeDecl.isStored (type : TypeDecl) : Bool :=
  isStoredScope type.scope && type.interfaces.all (·.isStored) && type.methods.all (·.isStored)

/-- Whether all namespaces in a snapshot are written as they are stored. -/
def Snapshot.isStored (snapshot : Snapshot) : Bool :=
  snapshot.types.all (·.isStored) && snapshot.interfaces.all (·.isStored)

/-- A namespace that is written as it is stored is not changed by normalisation. -/
theorem normalizeScope_eq_self {scope : Option String} (h : isStoredScope scope = true) :
    normalizeScope scope = scope := by
  cases scope with
  | none => rfl
  | some text =>
    rw [isStoredScope, Bool.and_eq_true, decide_eq_true_eq, Bool.not_eq_true'] at h
    have hstrip : stripGlobal text = text := by
      rw [stripGlobal, h.2]
      rfl
    rw [normalizeScope, Option.map_some, hstrip]
    simp [h.1]

theorem readScope_given {scope : Option String} {access : Access} (h : isStoredScope scope = true)
    (hfits : access.Fits (optionalString scope)) :
    readScope (.given (optionalString scope)) access = some scope := by
  rw [readScope, (ReadsAs.optionalString scope).withDefault hfits, Option.map_some,
    normalizeScope_eq_self h]

/-! ## Type expressions -/

namespace TypeExpr

theorem allStored_iff {arguments : List TypeExpr} :
    allStored arguments = true ↔ ∀ argument ∈ arguments, argument.isStored = true := by
  induction arguments with
  | nil => simp [allStored]
  | cons argument rest ih => simp [allStored, ih]

theorem allToJson_eq_map (arguments : List TypeExpr) :
    allToJson arguments = arguments.map (·.toJson) := by
  induction arguments with
  | nil => rfl
  | cons argument rest ih => rw [allToJson, ih, List.map_cons]

theorem readNamed_fields {argument : Reader TypeExpr} {head : TypeName} {arguments : List TypeExpr}
    (hscope : isStoredScope head.scope = true)
    (hread : ∀ type ∈ arguments, ReadsAs argument type.toJson type) :
    ReadsAs (readNamed argument) (ConstructedType.toJson ⟨head, arguments⟩) ⟨head, arguments⟩ := by
  have hwrittenScope := ReadsAs.optionalString head.scope
  have hcontainers := ReadsAs.strings head.containers
  have hname := ReadsAs.string head.name
  have harguments := ReadsAs.list hread
  rw [ConstructedType.toJson, allToJson_eq_map]
  refine .record rfl (by decide) ?_ fun inside hfits => ?_
  · simp only [List.forall_mem_cons]
    exact ⟨hwrittenScope.written, hcontainers.written, hname.written, harguments.written, by simp⟩
  · simp only [List.forall_mem_cons] at hfits
    obtain ⟨hscope', hcontainers', hname', harguments', -⟩ := hfits
    simp only [List.map_cons, List.map_nil, readScope_given hscope hscope',
      hcontainers.withDefault hcontainers', hname.required hname',
      harguments.withDefault harguments']
    rfl

theorem readOnly_field {α : Type} {name : String} {reader : Reader α} {value : Json} {data : α}
    (h : ReadsAs reader value data) :
    readOnly name reader (.object [(name, value)]) = some data := by
  refine ReadsAs.readSlots_object_bind rfl (by simp) trivial fun inside hfits => ?_
  exact h.required (hfits (name, value) List.mem_cons_self)

theorem readArray_fields {element : Reader TypeExpr} {type : TypeExpr} (rank : UInt64)
    (h : ReadsAs element type.toJson type) :
    readArray element (.object [("element", type.toJson), ("rank", nat rank.toNat)]) =
      some (.array type rank) := by
  have hrank := ReadsAs.uint64 rank
  refine ReadsAs.readSlots_object_bind rfl (by decide) trivial fun inside hfits => ?_
  simp only [List.forall_mem_cons] at hfits
  obtain ⟨htype', hrank', -⟩ := hfits
  simp only [List.map_cons, List.map_nil, h.required htype', hrank.withDefault hrank']
  rfl

/-- A reference with a single field beside its kind is read back if the field is. -/
theorem readsAs_single {α : Type} {kind name : String} {reader : Reader α} {value : Json} {data : α}
    {read : Nat × Json → Option TypeExpr} (make : α → TypeExpr) (position : Nat)
    (hposition : positionOf kind kinds = some position) (hname : name ≠ "kind")
    (h : ReadsAs reader value data)
    (hread : ∀ content, read (position, content) = (readOnly name reader content).map make) :
    ReadsAs (fun access value => readTagged "kind" kinds access value >>= read)
      (.object [("kind", .string kind), (name, value)]) (make data) := by
  refine .tagged position hposition ?_ ?_ ?_
  · simpa using hname
  · simpa using h.written
  · rw [hread, readOnly_field h, Option.map_some]

theorem depth_lt_named {head : TypeName} {arguments : List TypeExpr} {argument : TypeExpr}
    (h : argument ∈ arguments) : argument.toJson.depth < (named head arguments).toJson.depth := by
  have hitem : argument.toJson ∈ allToJson arguments := by
    rw [allToJson_eq_map]
    exact List.mem_map_of_mem h
  rw [toJson]
  exact Nat.lt_trans (depth_lt_array hitem) (depth_lt_object "type_arguments" (by simp))

/-- A reference is read back with as many levels as its form is nested deeply. -/
theorem readsAs_readerWithin (type : TypeExpr) (hstored : type.isStored = true) (levels : Nat)
    (hlevels : type.toJson.depth < levels) :
    ReadsAs (readerWithin levels) type.toJson type := by
  induction levels generalizing type with
  | zero => exact absurd hlevels (Nat.not_lt_zero _)
  | succ levels ih =>
    -- a reference inside is nested less deeply, so one level less is enough for it
    have hinside : ∀ inside : TypeExpr, inside.isStored = true →
        inside.toJson.depth < type.toJson.depth →
        ReadsAs (readerWithin levels) inside.toJson inside :=
      fun inside hstored hless => ih inside hstored (by omega)
    rw [readerWithin]
    cases type with
    | void =>
      rw [toJson]
      exact .tagged 0 rfl (by simp) (by simp) rfl
    | named head arguments =>
      rw [isStored, Bool.and_eq_true, allStored_iff] at hstored
      have hnamed := readNamed_fields hstored.1 fun argument hmem =>
        hinside argument (hstored.2 argument hmem) (depth_lt_named hmem)
      rw [toJson]
      refine .tagged 1 rfl (by simp) (exact_object_iff.1 hnamed.written) ?_
      show (readNamed _ .held (ConstructedType.toJson ⟨head, arguments⟩)).map _ = _
      rw [hnamed.read .held trivial]
      rfl
    | parameter name =>
      rw [toJson]
      exact readsAs_single parameter 2 rfl (by decide) (ReadsAs.string name) fun _ => rfl
    | array element rank =>
      have helement := hinside element hstored (depth_lt_object "element" (by simp))
      rw [toJson]
      refine .tagged 3 rfl (by simp) ?_ (readArray_fields rank helement)
      simpa using ⟨helement.written, (ReadsAs.uint64 rank).written⟩
    | pointer pointee =>
      have hpointee := hinside pointee hstored (depth_lt_object "pointee" (by simp))
      rw [toJson]
      exact readsAs_single pointer 4 rfl (by decide) hpointee fun _ => rfl
    | nullable underlying =>
      have hunderlying := hinside underlying hstored (depth_lt_object "underlying" (by simp))
      rw [toJson]
      exact readsAs_single nullable 5 rfl (by decide) hunderlying fun _ => rfl
    | unresolved name =>
      rw [toJson]
      exact readsAs_single unresolved 6 rfl (by decide) (ReadsAs.string name) fun _ => rfl

theorem readsAs {type : TypeExpr} (h : type.isStored = true) :
    ReadsAs reader type.toJson type := by
  have hread := readsAs_readerWithin type h (type.toJson.depth + 1) (Nat.lt_succ_self _)
  exact ⟨hread.written, hread.read⟩

end TypeExpr

/-! ## Locations -/

theorem Location.readsAs (location : Location) :
    ReadsAs Location.reader location.toJson location := by
  have hfile := ReadsAs.string location.file
  have hline := ReadsAs.uint32 location.line
  have hcolumn := ReadsAs.uint32 location.column
  refine .record rfl (by decide) ?_ fun inside hfits => ?_
  · simp only [List.forall_mem_cons]
    exact ⟨hfile.written, hline.written, hcolumn.written, by simp⟩
  · simp only [List.forall_mem_cons] at hfits
    obtain ⟨hfile', hline', hcolumn', -⟩ := hfits
    simp only [List.map_cons, List.map_nil, hfile.required hfile', hline.required hline',
      hcolumn.required hcolumn']
    rfl

/-! ## Methods -/

theorem PassingMode.readsAs_declaredName (passing : PassingMode) :
    ReadsAs (readChoice declaredPassing) (.string passing.declaredName) passing :=
  .choice (by cases passing <;> rfl)

theorem ParameterDecl.readsAs {parameter : ParameterDecl} (h : parameter.type.isStored = true) :
    ReadsAs ParameterDecl.reader parameter.toJson parameter := by
  have hname := ReadsAs.string parameter.name
  have htype := TypeExpr.readsAs h
  have hpassing := parameter.passing.readsAs_declaredName
  have hvariadic := ReadsAs.bool parameter.isVariadic
  refine .record rfl (by decide) ?_ fun inside hfits => ?_
  · simp only [List.forall_mem_cons]
    exact ⟨hname.written, htype.written, hpassing.written, hvariadic.written, by simp⟩
  · simp only [List.forall_mem_cons] at hfits
    obtain ⟨hname', htype', hpassing', hvariadic', -⟩ := hfits
    simp only [List.map_cons, List.map_nil, hname.required hname', htype.required htype',
      hpassing.withDefault hpassing', hvariadic.withDefault hvariadic']
    rfl

theorem MethodDecl.readsAs {method : MethodDecl} (h : method.isStored = true) :
    ReadsAs MethodDecl.reader method.toJson method := by
  rw [isStored, Bool.and_eq_true, List.all_eq_true] at h
  have hname := ReadsAs.string method.name
  have hvariables := ReadsAs.strings method.typeParameters
  have hparameters := ReadsAs.list fun parameter hmem => ParameterDecl.readsAs (h.2 parameter hmem)
  have hreturn := TypeExpr.readsAs h.1
  have himplemented := ReadsAs.bool method.implemented
  refine .record rfl (by decide) ?_ fun inside hfits => ?_
  · simp only [fields, List.forall_mem_cons]
    exact ⟨hname.written, hvariables.written, hparameters.written, hreturn.written,
      himplemented.written, by simp⟩
  · simp only [fields, List.forall_mem_cons] at hfits
    obtain ⟨hname', hvariables', hparameters', hreturn', himplemented', -⟩ := hfits
    simp only [fields, List.map_cons, List.map_nil, hname.required hname',
      hvariables.withDefault hvariables', hparameters.withDefault hparameters',
      hreturn.withDefault hreturn', himplemented.withDefault himplemented']
    rfl

/-! ## Interfaces -/

namespace MemberDecl

theorem readsAs_readTyped (make : String → TypeExpr → MemberDecl) (name : String) {type : TypeExpr}
    (h : type.isStored = true) :
    ReadsAs (fun _ => readTyped make) (.object [("name", .string name), ("type", type.toJson)])
      (make name type) := by
  have hname := ReadsAs.string name
  have htype := TypeExpr.readsAs h
  refine ⟨by simp [htype.written], fun _ _ => ?_⟩
  refine ReadsAs.readSlots_object_bind rfl (by decide) trivial fun inside hfits => ?_
  simp only [List.forall_mem_cons] at hfits
  obtain ⟨hname', htype', -⟩ := hfits
  simp only [List.map_cons, List.map_nil, hname.required hname', htype.required htype']
  rfl

theorem readsAs {member : MemberDecl} (h : member.isStored = true) :
    ReadsAs reader member.toJson member := by
  cases member with
  | method declared =>
    have hdeclared := MethodDecl.readsAs h
    refine .tagged 0 rfl (by simp [MethodDecl.fields]) (exact_object_iff.1 hdeclared.written) ?_
    show (MethodDecl.reader .held declared.toJson).map MemberDecl.method = _
    rw [hdeclared.read .held trivial]
    rfl
  | property name type =>
    have htyped := readsAs_readTyped .property name h
    exact .tagged 1 rfl (by simp) (exact_object_iff.1 htyped.written) (htyped.read .held trivial)
  | event name type =>
    have htyped := readsAs_readTyped .event name h
    exact .tagged 2 rfl (by simp) (exact_object_iff.1 htyped.written) (htyped.read .held trivial)

end MemberDecl

theorem InterfaceDecl.readsAs {interface : InterfaceDecl} (h : interface.isStored = true) :
    ReadsAs InterfaceDecl.reader interface.toJson interface := by
  rw [isStored, Bool.and_eq_true, List.all_eq_true] at h
  have hscope := ReadsAs.optionalString interface.head.scope
  have hcontainers := ReadsAs.strings interface.head.containers
  have hname := ReadsAs.string interface.head.name
  have hvariables := ReadsAs.strings interface.typeParameters
  have hmembers := ReadsAs.list fun member hmem => MemberDecl.readsAs (h.2 member hmem)
  refine .record rfl (by decide) ?_ fun inside hfits => ?_
  · simp only [List.forall_mem_cons]
    exact ⟨hscope.written, hcontainers.written, hname.written, hvariables.written,
      hmembers.written, by simp⟩
  · simp only [List.forall_mem_cons] at hfits
    obtain ⟨hscope', hcontainers', hname', hvariables', hmembers', -⟩ := hfits
    simp only [List.map_cons, List.map_nil, readScope_given h.1 hscope',
      hcontainers.withDefault hcontainers', hname.required hname',
      hvariables.withDefault hvariables', hmembers.withDefault hmembers']
    rfl

/-! ## Candidate types -/

theorem TypeForm.readsAs_name (kind : TypeForm) :
    ReadsAs (readChoice TypeForm.choices) (.string kind.name) kind :=
  .choice (by cases kind <;> rfl)

theorem TypeDecl.readsAs {type : TypeDecl} (h : type.isStored = true) :
    ReadsAs TypeDecl.reader type.toJson type := by
  simp only [isStored, Bool.and_eq_true, List.all_eq_true] at h
  obtain ⟨⟨hstored, hstoredInterfaces⟩, hstoredMethods⟩ := h
  have hscope := ReadsAs.optionalString type.scope
  have hname := ReadsAs.string type.name
  have hkind := type.kind.readsAs_name
  have hattributes := ReadsAs.strings type.attributes
  have hinterfaces := ReadsAs.list fun interface hmem =>
    TypeExpr.readsAs (hstoredInterfaces interface hmem)
  have hmethods := ReadsAs.list fun method hmem =>
    MethodDecl.readsAs (hstoredMethods method hmem)
  have hlocation := type.location.readsAs
  refine .record rfl (by decide) ?_ fun inside hfits => ?_
  · simp only [List.forall_mem_cons]
    exact ⟨hscope.written, hname.written, hkind.written, hattributes.written,
      hinterfaces.written, hmethods.written, hlocation.written, by simp⟩
  · simp only [List.forall_mem_cons] at hfits
    obtain ⟨hscope', hname', hkind', hattributes', hinterfaces', hmethods', hlocation', -⟩ := hfits
    simp only [List.map_cons, List.map_nil, readScope_given hstored hscope', hname.required hname',
      hkind.withDefault hkind', hattributes.withDefault hattributes',
      hinterfaces.withDefault hinterfaces', hmethods.withDefault hmethods',
      hlocation.withDefault hlocation']
    rfl

/-! ## Snapshots -/

theorem Snapshot.readsAs {snapshot : Snapshot} (h : snapshot.isStored = true) :
    ReadsAs Snapshot.reader snapshot.toJson snapshot := by
  simp only [isStored, Bool.and_eq_true, List.all_eq_true] at h
  have htypes := ReadsAs.list fun type hmem => TypeDecl.readsAs (h.1 type hmem)
  have hinterfaces := ReadsAs.list fun interface hmem => InterfaceDecl.readsAs (h.2 interface hmem)
  refine .record rfl (by decide) ?_ fun inside hfits => ?_
  · simp only [List.forall_mem_cons]
    exact ⟨htypes.written, hinterfaces.written, by simp⟩
  · simp only [List.forall_mem_cons] at hfits
    obtain ⟨htypes', hinterfaces', -⟩ := hfits
    simp only [List.map_cons, List.map_nil, htypes.withDefault htypes',
      hinterfaces.withDefault hinterfaces']
    rfl

end Forwarder
