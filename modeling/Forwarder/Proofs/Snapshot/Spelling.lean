import Forwarder.Json.Document
import Forwarder.Snapshot.Json
import Forwarder.Proofs.Json.Text
import Forwarder.Proofs.Json.Variation
import Forwarder.Proofs.Snapshot.Agreement

/-!
# The spelling of the global alias

A namespace or the name of an attribute may be written with the global alias or without it, and
an absent namespace may be left out or written in three ways. Which of these ways a text takes makes
no difference: from texts that differ in nothing else both or no snapshots are read, and nothing
that is done with the snapshots tells them apart.

Types stand in one another, so what may vary in a type is said level by level.
-/

namespace Forwarder

open Json Text List

/-! ## Names and namespaces -/

/-- The same text, but for one global alias. -/
inductive SameName : Json → Json → Prop where
  /-- Nothing differs. -/
  | same (value : Json) : SameName value value
  /-- The other one has the alias. -/
  | aliased {name : String} (h : ¬ globalAlias.toList <+: name.toList) :
      SameName (.string name) (.string (globalAlias ++ name))
  /-- This one has the alias. -/
  | unaliased {name : String} (h : ¬ globalAlias.toList <+: name.toList) :
      SameName (.string (globalAlias ++ name)) (.string name)

/-- The same namespace. -/
inductive SameScope : Json → Json → Prop where
  /-- Its name is the same. -/
  | name {value other : Json} (h : SameName value other) : SameScope value other
  /-- It is absent in both. -/
  | absent {value other : Json} (h : value ∈ absentScopes) (h' : other ∈ absentScopes) :
      SameScope value other

variable {name : String} {value other : Json} {access : Access}

theorem stripGlobal_eq_self (h : ¬ globalAlias.toList <+: name.toList) :
    stripGlobal name = name := by
  have hprefix : ¬ globalAlias.toList.isPrefixOf name.toList = true := by
    rwa [ isPrefixOf_iff_prefix]
  rw [stripGlobal, if_neg hprefix]

theorem SameName.readString_rel :
    ReadsRelated (fun name name' => stripGlobal name' = stripGlobal name) SameName readString := by
  intro value other h access
  cases h with
  | same => exact rel_self (fun name => Eq.refl (stripGlobal name)) _
  | aliased hname =>
    refine .some ?_
    rw [stripGlobal_globalAlias_append, stripGlobal_eq_self hname]
  | unaliased hname =>
    refine .some ?_
    rw [stripGlobal_globalAlias_append, stripGlobal_eq_self hname]

theorem keepsShape_sameName : KeepsShape SameName := by
  intro value other h
  cases h with
  | same => exact .refl value
  | aliased => exact ⟨rfl, rfl⟩
  | unaliased => exact ⟨rfl, rfl⟩

theorem keepsShape_sameScope : KeepsShape SameScope := by
  intro value other h
  cases h with
  | name hname => exact keepsShape_sameName hname
  | absent hvalue hother =>
    obtain ⟨hdepth, hlegible⟩ := shape_of_mem_absentScopes hvalue
    obtain ⟨hdepth', hlegible'⟩ := shape_of_mem_absentScopes hother
    exact ⟨hdepth'.trans hdepth.symm, hlegible'.trans hlegible.symm⟩

theorem readScope_absent (h : value ∈ absentScopes) :
    readScope (.given value) access = some none := by
  have halias : normalizeScope (some globalAlias) = none := by
    have hstrip := stripGlobal_globalAlias_append ""
    rw [String.append_empty] at hstrip
    rw [normalizeScope, Option.map_some, hstrip]
    rfl
  simp only [absentScopes, mem_cons, not_mem_nil, or_false] at h
  rcases h with rfl | rfl | rfl
  · rfl
  · rfl
  · exact congrArg some halias

/-- A namespace is read the same, however it is written. -/
theorem readScope_eq {slot slot' : Slot} (h : SameSlot "namespace" SameScope slot slot') :
    readScope slot' access = readScope slot access := by
  cases h with
  | same => rfl
  | added _ habsent =>
    rw [readScope_absent habsent]
    rfl
  | dropped _ habsent =>
    rw [readScope_absent habsent]
    rfl
  | given hscope =>
    cases hscope with
    | absent h h' => rw [readScope_absent h, readScope_absent h']
    | name hname =>
      have hnormal : ∀ name, ¬ globalAlias.toList <+: name.toList →
          normalizeScope (some (globalAlias ++ name)) = normalizeScope (some name) := by
        intro name hname
        rw [normalizeScope, normalizeScope, Option.map_some, Option.map_some,
          stripGlobal_globalAlias_append, stripGlobal_eq_self hname]
      cases hname with
      | same => rfl
      | aliased hname => exact congrArg some (hnormal _ hname)
      | unaliased hname => exact congrArg some (hnormal _ hname).symm

/-! ## Type expressions -/

namespace TypeExpr

/-- What may vary in a named type, given what may vary in its arguments. -/
def namedSchema (argument : Variation) : Schema :=
  [("namespace", SameScope), ("containing_types", Eq), ("name", Eq),
    ("type_arguments", SameList argument)]

/-- What may vary in each kind of reference, given what may vary in those inside it. -/
def schemas (inner : Variation) : List Schema :=
  [[], namedSchema inner, [("name", Eq)], [("element", inner), ("rank", Eq)], [("pointee", inner)],
    [("underlying", inner)], [("name", Eq)]]

/-- The same reference down to some level, and nothing that differs below. -/
def SameWithin : Nat → Variation
  | 0 => Eq
  | levels + 1 => SameTagged "kind" kinds (schemas (SameWithin levels))

/-- The same reference, but for how namespaces are written. -/
def Same (value other : Json) : Prop := ∃ levels, SameWithin levels value other

theorem keepsShape_schemas {inner : Variation} (h : KeepsShape inner) :
    ∀ schema ∈ schemas inner, schema.KeepsShape := by
  have hlist := SameList.keepsShape h
  simp only [schemas, namedSchema, Schema.KeepsShape, forall_mem_cons]
  simp [keepsShape_eq, keepsShape_sameScope, h, hlist]

theorem keepsShape_sameWithin (levels : Nat) : KeepsShape (SameWithin levels) := by
  induction levels with
  | zero => exact keepsShape_eq
  | succ levels ih => exact SameTagged.keepsShape (keepsShape_schemas ih)

theorem keepsShape_same : KeepsShape Same := fun _ _ ⟨levels, h⟩ => keepsShape_sameWithin levels h

theorem readsSame_readNamed {argument : Reader TypeExpr} {inner : Variation}
    (h : ReadsSame inner argument) :
    ReadsSame (SameRecord (namedSchema inner)) (readNamed argument) := by
  refine .record rfl (by decide) fun inside slots others hslots => ?_
  obtain _ | ⟨hscope, _ | ⟨hcontainers, _ | ⟨hname, _ | ⟨harguments, _ | _⟩⟩⟩⟩ := hslots
  simp only [readScope_eq hscope, hcontainers.withDefault_eq (by decide) (.eq _),
    hname.required_eq (by decide) (.eq _), harguments.withDefault_eq (by decide) h.list]

theorem readOnly_eq {α : Type} {reader : Reader α} {inner : Variation} (hname : name ≠ scopeField)
    (hread : ReadsSame inner reader) (h : SameRecord [(name, inner)] value other) :
    readOnly name reader other = readOnly name reader value := by
  refine h.readSlots_bind_eq rfl (by simp) fun inside slots others hslots => ?_
  obtain _ | ⟨hslot, _ | _⟩ := hslots
  exact hslot.required_eq hname hread

theorem readArray_eq {element : Reader TypeExpr} {inner : Variation}
    (hread : ReadsSame inner element)
    (h : SameRecord [("element", inner), ("rank", Eq)] value other) :
    readArray element other = readArray element value := by
  refine h.readSlots_bind_eq rfl (by decide) fun inside slots others hslots => ?_
  obtain _ | ⟨htype, _ | ⟨hrank, _ | _⟩⟩ := hslots
  simp only [htype.required_eq (by decide) hread, hrank.withDefault_eq (by decide) (.eq _)]

theorem readNoFields_eq (h : SameRecord [] value other) :
    readNoFields other = readNoFields value := by
  cases h with
  | same => rfl
  | object => rfl
  | array hitems => cases hitems <;> rfl

/-- A reference is read the same with however many levels. -/
theorem readsSame_readerWithin (depth levels : Nat) :
    ReadsSame (SameWithin depth) (readerWithin levels) := by
  -- how far two references vary has nothing to do with how far they are read
  induction depth generalizing levels with
  | zero => exact .eq _
  | succ depth ih =>
    cases levels with
    | zero => exact fun _ _ _ _ => rfl
    | succ levels =>
      have hread := ih levels
      rw [readerWithin]
      refine .tagged (by decide) (keepsShape_schemas (keepsShape_sameWithin depth))
        (by simp [schemas, namedSchema, Schema.names])
        fun kind schema content other hschema hcontent => ?_
      match kind, hschema with
      | 0, hschema =>
        cases hschema
        exact congrArg (Option.map fun _ => TypeExpr.void) (readNoFields_eq hcontent)
      | 1, hschema =>
        cases hschema
        have hnamed := readsSame_readNamed hread hcontent .held
        exact congrArg (Option.map ConstructedType.toExpr) hnamed
      | 2, hschema =>
        cases hschema
        have hname := readOnly_eq (by decide) (.eq readString) hcontent
        exact congrArg (Option.map TypeExpr.parameter) hname
      | 3, hschema =>
        cases hschema
        exact readArray_eq hread hcontent
      | 4, hschema =>
        cases hschema
        have hpointee := readOnly_eq (by decide) hread hcontent
        exact congrArg (Option.map TypeExpr.pointer) hpointee
      | 5, hschema =>
        cases hschema
        have hunderlying := readOnly_eq (by decide) hread hcontent
        exact congrArg (Option.map TypeExpr.nullable) hunderlying
      | 6, hschema =>
        cases hschema
        have hname := readOnly_eq (by decide) (.eq readString) hcontent
        exact congrArg (Option.map TypeExpr.unresolved) hname
      | kind + 7, hschema => cases hschema

/-- A reference is read the same, however the namespaces in it are written. -/
theorem readsSame_reader : ReadsSame Same reader := by
  rintro value other ⟨levels, h⟩ access
  rw [reader, reader, (keepsShape_sameWithin levels h).depth_eq]
  exact readsSame_readerWithin levels _ h access

end TypeExpr

/-! ## Methods and members -/

/-- The same parameter, but for how namespaces are written. -/
def ParameterDecl.Same : Variation :=
  SameRecord [("name", Eq), ("type", TypeExpr.Same), ("ref_kind", Eq), ("is_params", Eq)]

theorem ParameterDecl.keepsShape_same : KeepsShape ParameterDecl.Same := by
  refine SameRecord.keepsShape ?_
  simp only [Schema.KeepsShape, forall_mem_cons]
  simp [keepsShape_eq, TypeExpr.keepsShape_same]

theorem ParameterDecl.readsSame_reader : ReadsSame ParameterDecl.Same ParameterDecl.reader := by
  refine .record rfl (by decide) fun inside slots others hslots => ?_
  obtain _ | ⟨hname, _ | ⟨htype, _ | ⟨hpassing, _ | ⟨hvariadic, _ | _⟩⟩⟩⟩ := hslots
  simp only [hname.required_eq (by decide) (.eq _),
    htype.required_eq (by decide) TypeExpr.readsSame_reader,
    hpassing.withDefault_eq (by decide) (.eq _), hvariadic.withDefault_eq (by decide) (.eq _)]

namespace MethodDecl

/-- What may vary in a method. -/
def schema : Schema :=
  [("name", Eq), ("type_parameters", Eq), ("parameters", SameList ParameterDecl.Same),
    ("return_type", TypeExpr.Same), ("has_implementation_part", Eq)]

theorem keepsShape_schema : schema.KeepsShape := by
  have hparameters := SameList.keepsShape ParameterDecl.keepsShape_same
  simp only [schema, Schema.KeepsShape, forall_mem_cons]
  simp [keepsShape_eq, TypeExpr.keepsShape_same, hparameters]

theorem readsSame_reader : ReadsSame (SameRecord schema) reader := by
  refine .record rfl (by decide) fun inside slots others hslots => ?_
  obtain _ | ⟨hname, _ | ⟨hvariables, _ | ⟨hparameters, _ | ⟨hreturn, _ | ⟨himplemented,
    _ | _⟩⟩⟩⟩⟩ := hslots
  simp only [hname.required_eq (by decide) (.eq _), hvariables.withDefault_eq (by decide) (.eq _),
    hparameters.withDefault_eq (by decide) ParameterDecl.readsSame_reader.list,
    hreturn.withDefault_eq (by decide) TypeExpr.readsSame_reader,
    himplemented.withDefault_eq (by decide) (.eq _)]

end MethodDecl

namespace MemberDecl

/-- What may vary in a property or an event. -/
def typedSchema : Schema := [("name", Eq), ("type", TypeExpr.Same)]

/-- The same member, but for how namespaces are written. -/
def Same : Variation :=
  SameTagged "member" kinds [MethodDecl.schema, typedSchema, typedSchema]

theorem keepsShape_schemas : ∀ schema ∈ [MethodDecl.schema, typedSchema, typedSchema],
    schema.KeepsShape := by
  have htyped : typedSchema.KeepsShape := by
    simp only [typedSchema, Schema.KeepsShape, forall_mem_cons]
    simp [keepsShape_eq, TypeExpr.keepsShape_same]
  simp [MethodDecl.keepsShape_schema, htyped]

theorem readTyped_eq (make : String → TypeExpr → MemberDecl)
    (h : SameRecord typedSchema value other) : readTyped make other = readTyped make value := by
  refine h.readSlots_bind_eq rfl (by decide) fun inside slots others hslots => ?_
  obtain _ | ⟨hname, _ | ⟨htype, _ | _⟩⟩ := hslots
  simp only [hname.required_eq (by decide) (.eq _),
    htype.required_eq (by decide) TypeExpr.readsSame_reader]

theorem readsSame_reader : ReadsSame Same reader := by
  refine .tagged (by decide) keepsShape_schemas
    (by simp [MethodDecl.schema, typedSchema, Schema.names])
    fun kind schema content other hschema hcontent => ?_
  match kind, hschema with
  | 0, hschema =>
    cases hschema
    exact congrArg (Option.map MemberDecl.method) (MethodDecl.readsSame_reader hcontent .held)
  | 1, hschema =>
    cases hschema
    exact readTyped_eq .property hcontent
  | 2, hschema =>
    cases hschema
    exact readTyped_eq .event hcontent
  | kind + 3, hschema => cases hschema

end MemberDecl

/-! ## Interfaces and candidate types -/

/-- The same interface, but for how namespaces are written. -/
def InterfaceDecl.Same : Variation :=
  SameRecord [("namespace", SameScope), ("containing_types", Eq), ("name", Eq),
    ("type_parameters", Eq), ("members", SameList MemberDecl.Same)]

theorem InterfaceDecl.readsSame_reader : ReadsSame InterfaceDecl.Same InterfaceDecl.reader := by
  refine .record rfl (by decide) fun inside slots others hslots => ?_
  obtain _ | ⟨hscope, _ | ⟨hcontainers, _ | ⟨hname, _ | ⟨hvariables, _ | ⟨hmembers, _ | _⟩⟩⟩⟩⟩ :=
    hslots
  simp only [readScope_eq hscope, hcontainers.withDefault_eq (by decide) (.eq _),
    hname.required_eq (by decide) (.eq _), hvariables.withDefault_eq (by decide) (.eq _),
    hmembers.withDefault_eq (by decide) MemberDecl.readsSame_reader.list]

/-- The same candidate type, but for how namespaces and attributes are written. -/
def TypeDecl.Same : Variation :=
  SameRecord [("namespace", SameScope), ("name", Eq), ("kind", Eq),
    ("attributes", SameList SameName), ("interfaces", SameList TypeExpr.Same),
    ("methods", SameList (SameRecord MethodDecl.schema)), ("location", Eq)]

/-- Attributes that are the same but for the alias mark a type with the same. -/
theorem TypeDecl.alike_attributes (type : TypeDecl) {attributes : List String}
    (h : Forall₂ (fun name name' => stripGlobal name' = stripGlobal name) type.attributes
      attributes) : type.Alike { type with attributes } where
  eq_with := rfl
  isMarkedWith_eq name := by
    show attributes.any (stripGlobal · = stripGlobal name) = type.attributes.any _
    generalize type.attributes = given at h
    induction h with
    | nil => rfl
    | cons hname _ ih => rw [any_cons, any_cons, ih, hname]

theorem TypeDecl.readsRelated_reader :
    ReadsRelated TypeDecl.Alike TypeDecl.Same TypeDecl.reader := by
  refine .record TypeDecl.Alike.refl rfl (by decide) fun inside slots others hslots => ?_
  obtain _ | ⟨hscope, _ | ⟨hname, _ | ⟨hkind, _ | ⟨hattributes, _ | ⟨hinterfaces, _ | ⟨hmethods,
    _ | ⟨hlocation, _ | _⟩⟩⟩⟩⟩⟩⟩ := hslots
  simp only [readScope_eq hscope, hname.required_eq (by decide) (.eq _),
    hkind.withDefault_eq (by decide) (.eq _),
    hinterfaces.withDefault_eq (by decide) TypeExpr.readsSame_reader.list,
    hmethods.withDefault_eq (by decide) MethodDecl.readsSame_reader.list,
    hlocation.withDefault_eq (by decide) (.eq _)]
  refine rel_bind_self fun scope => rel_bind_self fun name => rel_bind_self fun kind => ?_
  have hnames := SameName.readString_rel.list fun name => Eq.refl (stripGlobal name)
  have hrefl : ∀ names : List String,
      Forall₂ (fun name name' => stripGlobal name' = stripGlobal name) names names :=
    fun names => forall₂_same.2 fun name _ => rfl
  refine rel_bind (hattributes.withDefault_rel hrefl (by decide) hnames)
    fun attributes attributes' halike => ?_
  refine rel_bind_self fun interfaces => rel_bind_self fun methods => ?_
  refine rel_bind_self fun location => ?_
  exact .some (TypeDecl.alike_attributes _ halike)

/-! ## Snapshots -/

namespace Snapshot

/-- The same snapshot, but for how namespaces and attributes are written. -/
def Same : Variation :=
  SameRecord [("types", SameList TypeDecl.Same), ("interfaces", SameList InterfaceDecl.Same)]

/-- Two snapshots differ at most in how the attributes of types are written. -/
structure Alike (snapshot other : Snapshot) : Prop where
  /-- The types differ at most in their attributes. -/
  types : Forall₂ TypeDecl.Alike snapshot.types other.types
  /-- The interfaces are the same. -/
  interfaces_eq : other.interfaces = snapshot.interfaces

theorem Alike.refl (snapshot : Snapshot) : snapshot.Alike snapshot :=
  ⟨forall₂_same.2 fun type _ => .refl type, rfl⟩

theorem readsRelated_reader : ReadsRelated Alike Same reader := by
  refine .record Alike.refl rfl (by decide) fun inside slots others hslots => ?_
  obtain _ | ⟨htypes, _ | ⟨hinterfaces, _ | _⟩⟩ := hslots
  simp only [hinterfaces.withDefault_eq (by decide) InterfaceDecl.readsSame_reader.list]
  have hrefl : ∀ types : List TypeDecl, Forall₂ TypeDecl.Alike types types :=
    fun types => forall₂_same.2 fun type _ => .refl type
  have hlist := TypeDecl.readsRelated_reader.list TypeDecl.Alike.refl
  refine rel_bind (htypes.withDefault_rel hrefl (by decide) hlist) fun types types' halike => ?_
  refine rel_bind_self fun interfaces => ?_
  exact .some ⟨halike, rfl⟩

variable {snapshot other : Snapshot}

theorem Alike.agrees (h : snapshot.Alike other) : snapshot.Agrees other where
  types := h.types
  resolve?_eq reference := by
    simp only [resolve?, declarationOf?, h.interfaces_eq]

theorem validateTypes_eq {types others : List TypeDecl} (h : Forall₂ TypeDecl.Alike types others) :
    validateTypes others = validateTypes types := by
  induction h with
  | nil => rfl
  | cons hhead _ ih =>
    rw [hhead.eq_with, validateTypes, validateTypes, ih]
    rfl

theorem Alike.validate_eq (h : snapshot.Alike other) : other.validate = snapshot.validate := by
  rw [validate, validate, validateTypes_eq h.types, h.interfaces_eq]

/-- Texts that differ only in how namespaces and attributes are written are both refused, or the
snapshots that they are read as pass validation alike and have the same runs, analyses and
inspections. -/
theorem ofDocument_of_same {text text' : String} {value value' : Json}
    (hparse : parse? text = some value) (hparse' : parse? text' = some value')
    (h : Same value value') :
    (∃ failure, ofDocument reader text = .error failure ∧
      ofDocument reader text' = .error failure) ∨
    ∃ snapshot other, ofDocument reader text = .ok snapshot ∧ ofDocument reader text' = .ok other ∧
      other.validate = snapshot.validate ∧
      (∀ (session : Session) (token : Cancellation),
        session.run other token = session.run snapshot token) ∧
      ∀ settings, Analysis.ofSnapshot settings other = Analysis.ofSnapshot settings snapshot ∧
        inspection settings other = inspection settings snapshot := by
  have hread := readsRelated_reader h (.text nestingLimit)
  rw [ofDocument, ofDocument, hparse, hparse', Option.bind_some, Option.bind_some, Reader.run,
    Reader.run]
  generalize reader (.text nestingLimit) value = found at hread ⊢
  generalize reader (.text nestingLimit) value' = found' at hread ⊢
  cases hread with
  | none => exact .inl ⟨_, rfl, rfl⟩
  | @some snapshot other halike =>
    have hagrees := halike.agrees
    exact .inr ⟨snapshot, other, rfl, rfl, halike.validate_eq, hagrees.run_eq,
      fun settings => ⟨hagrees.analysis_eq settings, hagrees.inspection_eq settings⟩⟩

/-- A snapshot of a shop, given how its namespace and the attribute of its decorator are written and
what stands for the absent namespace of another type. -/
def shopJson (scope mark : String) (absent : List (String × Json)) : Json :=
  .object [("types", .array [
    .object [("namespace", .string scope), ("name", .string "StoreDecorator"),
      ("attributes", .array [.string mark]),
      ("interfaces", .array [
        .object [("kind", .string "named"), ("namespace", .string scope),
          ("name", .string "IStore")]])],
    .object (absent ++ [("name", .string "Clock")])])]

theorem same_shopJson {scope scope' mark mark' : String}
    (hscope : SameScope (.string scope) (.string scope'))
    (hmark : SameName (.string mark) (.string mark')) :
    Same (shopJson scope mark []) (shopJson scope' mark' [("namespace", .string "global::")]) := by
  have hreference : TypeExpr.Same
      (.object [("kind", .string "named"), ("namespace", .string scope),
        ("name", .string "IStore")])
      (.object [("kind", .string "named"), ("namespace", .string scope'),
        ("name", .string "IStore")]) := by
    refine ⟨1, .object (mem_cons_of_mem _ mem_cons_self) ?_ (.of_forall₂ ?_)⟩
    · intro name position hself hposition
      obtain rfl : Json.string "named" = name := by simpa using hself
      cases hposition
      rfl
    · exact .cons ⟨rfl, .inl rfl⟩ (.cons ⟨rfl, .inr ⟨SameScope, mem_cons_self, hscope⟩⟩
        (.cons ⟨rfl, .inl rfl⟩ .nil))
  have hdecorator : TypeDecl.Same
      (.object [("namespace", .string scope), ("name", .string "StoreDecorator"),
        ("attributes", .array [.string mark]), ("interfaces", .array [
          .object [("kind", .string "named"), ("namespace", .string scope),
            ("name", .string "IStore")]])])
      (.object [("namespace", .string scope'), ("name", .string "StoreDecorator"),
        ("attributes", .array [.string mark']), ("interfaces", .array [
          .object [("kind", .string "named"), ("namespace", .string scope'),
            ("name", .string "IStore")]])]) := by
    have hmarks : SameList SameName (.array [.string mark]) (.array [.string mark']) :=
      .array (.cons hmark .nil)
    have hinterfaces := SameList.array (.cons hreference .nil)
    refine .object (.of_forall₂ (.cons ⟨rfl, .inr ⟨_, ?_, hscope⟩⟩ (.cons ⟨rfl, .inl rfl⟩
      (.cons ⟨rfl, .inr ⟨_, ?_, hmarks⟩⟩ (.cons ⟨rfl, .inr ⟨_, ?_, hinterfaces⟩⟩ .nil)))))
    · simp
    · simp
    · simp
  have hclock : TypeDecl.Same (.object [("name", .string "Clock")])
      (.object [("namespace", .string "global::"), ("name", .string "Clock")]) :=
    .object ⟨.added (by simp [absentScopes, globalAlias]), .cons ⟨rfl, .inl rfl⟩ .nil⟩
  have htypes := SameList.array (.cons hdecorator (.cons hclock .nil))
  exact .object (.of_forall₂ (.cons ⟨rfl, .inr ⟨_, mem_cons_self, htypes⟩⟩ .nil))

theorem ofDocument_of_same_shop : ∃ snapshot other,
    ofDocument reader (shopJson "Shop" "Decorgen.GenericDecorator" []).compact = .ok snapshot ∧
    ofDocument reader (shopJson "global::Shop" "global::Decorgen.GenericDecorator"
      [("namespace", .string "global::")]).compact = .ok other ∧
    other.validate = snapshot.validate ∧
    ∀ (session : Session) (token : Cancellation),
      session.run other token = session.run snapshot token := by
  have hparse : parse? (shopJson "Shop" "Decorgen.GenericDecorator" []).compact = some _ :=
    (Exact.parse? (by simp [shopJson])).1
  have hparse' : parse? (shopJson "global::Shop" "global::Decorgen.GenericDecorator"
      [("namespace", .string "global::")]).compact = some _ :=
    (Exact.parse? (by simp [shopJson])).1
  have hscope : SameScope (.string "Shop") (.string "global::Shop") :=
    .name (.aliased (by decide))
  have hmark : SameName (.string "Decorgen.GenericDecorator")
      (.string "global::Decorgen.GenericDecorator") := .aliased (by decide)
  obtain ⟨failure, hfailure, -⟩ | ⟨snapshot, other, hread, hread', hvalidate, hrun, -⟩ :=
    ofDocument_of_same hparse hparse' (same_shopJson hscope hmark)
  · rw [ofDocument, hparse] at hfailure
    cases hfailure
  · exact ⟨snapshot, other, hread, hread', hvalidate, hrun⟩

end Snapshot

end Forwarder
