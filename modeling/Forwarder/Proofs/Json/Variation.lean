import Mathlib.Data.List.Forall2
import Mathlib.Data.List.Nodup
import Forwarder.Json.Decode
import Forwarder.Text.GlobalAlias

/-!
# Values that vary in places

Two values have the same form and differ in places only. A *variation* says what may stand for
what in one place; a *schema* lists the fields of a record, in the order of their declaration, with
the variation of each. Lists, records and alternatives vary as their parts do. Apart from that, an
object may have a namespace where another one has none, if the namespace is written as absent.

A variation that keeps the depth of values and their being legible cannot be told by whether a value
can be taken in. What is left is that a reader takes the same from the values that may stand in one
place, and readers for lists, records and alternatives inherit that from the readers of the parts.
-/

namespace Forwarder.Json

open Text List

/-- What may stand in another value where some value stands in this one. -/
abbrev Variation := Json → Json → Prop

/-- The fields of a record in the order of their declaration, with what may vary in each. -/
abbrev Schema := List (String × Variation)

/-- The names of the fields. -/
def Schema.names (schema : Schema) : List String := schema.map (·.1)

/-- The name of the fields that hold namespaces. -/
def scopeField : String := "namespace"

/-- The values that an absent namespace is written as. -/
def absentScopes : List Json := [.null, .string "", .string globalAlias]

/-! ## Lists, records and alternatives -/

/-- Arrays vary in their items. -/
inductive SameList (R : Variation) : Json → Json → Prop where
  /-- Nothing differs. -/
  | same (value : Json) : SameList R value value
  /-- Items at the same place vary. -/
  | array {items others : List Json} (h : Forall₂ R items others) :
      SameList R (.array items) (.array others)

/-- A field of an object varies as the schema has it, and not at all if the schema lacks it. -/
def SameField (schema : Schema) (field other : String × Json) : Prop :=
  other.1 = field.1 ∧
    (other.2 = field.2 ∨ ∃ R, (field.1, R) ∈ schema ∧ R field.2 other.2)

/-- What two objects give as a namespace varies, or one of them has no namespace and the other has
it as absent. -/
inductive SameScopes (schema : Schema) :
    List (String × Json) → List (String × Json) → Prop where
  /-- Both give it. -/
  | given {fields others : List (String × Json)} (h : Forall₂ (SameField schema) fields others) :
      SameScopes schema fields others
  /-- The other one alone gives it. -/
  | added {value : Json} (h : value ∈ absentScopes) : SameScopes schema [] [(scopeField, value)]
  /-- This one alone gives it. -/
  | dropped {value : Json} (h : value ∈ absentScopes) : SameScopes schema [(scopeField, value)] []

/-- Two objects give the same fields in the same order, but for the namespace, and the values
vary. -/
structure SameFields (schema : Schema) (fields others : List (String × Json)) : Prop where
  /-- What is given as a namespace. -/
  scopes : SameScopes schema (fields.filter (·.1 == scopeField)) (others.filter (·.1 == scopeField))
  /-- The fields with other names. -/
  rest : Forall₂ (SameField schema) (fields.filter (·.1 != scopeField))
    (others.filter (·.1 != scopeField))

/-- The items that stand for the fields of a record vary as the fields do. -/
inductive SameItems : Schema → List Json → List Json → Prop where
  /-- The arrays end. -/
  | nil (schema : Schema) : SameItems schema [] []
  /-- An item stands for a field. -/
  | cons {name : String} {R : Variation} {schema : Schema} {item other : Json}
      {items others : List Json} (h : other = item ∨ R item other)
      (rest : SameItems schema items others) :
      SameItems ((name, R) :: schema) (item :: items) (other :: others)
  /-- Items that stand for no field are the same. -/
  | surplus (items : List Json) : SameItems [] items items

/-- Records vary in their fields. -/
inductive SameRecord (schema : Schema) : Json → Json → Prop where
  /-- Nothing differs. -/
  | same (value : Json) : SameRecord schema value value
  /-- The records are written as objects. -/
  | object {fields others : List (String × Json)} (h : SameFields schema fields others) :
      SameRecord schema (.object fields) (.object others)
  /-- The records are written as arrays. -/
  | array {items others : List Json} (h : SameItems schema items others) :
      SameRecord schema (.array items) (.array others)

/-- Alternatives have the same tag, and vary in the fields of the record that it stands for. What
has no tag that stands for a record, and so is not read, may vary as any of the records. -/
inductive SameTagged (tag : String) (names : List String) (schemas : List Schema) :
    Json → Json → Prop where
  /-- Nothing differs. -/
  | same (value : Json) : SameTagged tag names schemas value value
  /-- The alternatives are written as objects. -/
  | object {schema : Schema} {fields others : List (String × Json)} (hmem : schema ∈ schemas)
      (hschema : ∀ name position, fields.filter (·.1 == tag) = [(tag, name)] →
        readTag names .held name = some position → schemas[position]? = some schema)
      (h : SameFields schema fields others) :
      SameTagged tag names schemas (.object fields) (.object others)
  /-- The alternatives are written as arrays. -/
  | array {name : Json} {schema : Schema} {items others : List Json} (hmem : schema ∈ schemas)
      (hschema : ∀ position, readTag names .held name = some position →
        schemas[position]? = some schema)
      (h : SameItems schema items others) :
      SameTagged tag names schemas (.array (name :: items)) (.array (name :: others))

variable {R : Variation} {schema : Schema} {fields others : List (String × Json)}

/-! ## Shapes -/

/-- Two values are nested as deeply, and both or neither are legible. -/
structure SameShape (value other : Json) : Prop where
  /-- They are nested as deeply. -/
  depth_eq : other.depth = value.depth
  /-- Both or neither are legible. -/
  isLegible_eq : other.isLegible = value.isLegible

theorem SameShape.refl (value : Json) : SameShape value value := ⟨rfl, rfl⟩

theorem SameShape.admits_eq {value other : Json} (h : SameShape value other) (access : Access) :
    access.admits other = access.admits value := by
  cases access with
  | held => rfl
  | text room => rw [Access.admits, Access.admits, h.depth_eq, h.isLegible_eq]

/-- A variation does not change the shapes of values. -/
def KeepsShape (R : Variation) : Prop := ∀ ⦃value other⦄, R value other → SameShape value other

/-- No variation of a field changes the shapes of values. -/
def Schema.KeepsShape (schema : Schema) : Prop := ∀ field ∈ schema, Json.KeepsShape field.2

theorem keepsShape_eq : KeepsShape Eq := by
  rintro value _ rfl
  exact .refl value

theorem shape_of_forall₂ {items others : List Json} (hR : KeepsShape R)
    (h : Forall₂ R items others) :
    depthOfItems others = depthOfItems items ∧ itemsLegible others = itemsLegible items := by
  induction h with
  | nil => exact ⟨rfl, rfl⟩
  | cons hitem _ ih =>
    have hshape := hR hitem
    simp only [depthOfItems, itemsLegible, hshape.depth_eq, hshape.isLegible_eq, ih]
    exact ⟨trivial, trivial⟩

theorem SameList.keepsShape (hR : KeepsShape R) : KeepsShape (SameList R) := by
  intro value other h
  cases h with
  | same => exact .refl value
  | array hitems =>
    obtain ⟨hdepth, hlegible⟩ := shape_of_forall₂ hR hitems
    exact ⟨by rw [depth, depth, hdepth], by rw [isLegible, isLegible, hlegible]⟩

theorem filter_rel (p : String → Bool) (h : Forall₂ (SameField schema) fields others) :
    Forall₂ (SameField schema) (fields.filter (p ·.1)) (others.filter (p ·.1)) := by
  refine rel_filter (fun field other hfield => ?_) h
  show p field.1 = true ↔ p other.1 = true
  rw [hfield.1]

/-- Objects whose fields vary one by one. -/
theorem SameFields.of_forall₂ (h : Forall₂ (SameField schema) fields others) :
    SameFields schema fields others where
  scopes := .given (filter_rel (· == scopeField) h)
  rest := filter_rel (· != scopeField) h

theorem SameField.shape {field other : String × Json} (hschema : schema.KeepsShape)
    (h : SameField schema field other) : SameShape field.2 other.2 := by
  obtain ⟨-, heq | ⟨R, hmem, hvaries⟩⟩ := h
  · rw [heq]
    exact .refl _
  · exact hschema _ hmem hvaries

theorem shape_of_sameField (hschema : schema.KeepsShape)
    (h : Forall₂ (SameField schema) fields others) :
    depthOfFields others = depthOfFields fields ∧ fieldsLegible others = fieldsLegible fields := by
  induction h with
  | nil => exact ⟨rfl, rfl⟩
  | cons hfield _ ih =>
    have hshape := hfield.shape hschema
    simp only [depthOfFields, fieldsLegible, hshape.depth_eq, hshape.isLegible_eq, ih]
    exact ⟨trivial, trivial⟩

theorem shape_of_mem_absentScopes {value : Json} (h : value ∈ absentScopes) :
    value.depth = 0 ∧ value.isLegible = true := by
  simp only [absentScopes, mem_cons, not_mem_nil, or_false] at h
  rcases h with rfl | rfl | rfl <;> exact ⟨rfl, rfl⟩

/-- A namespace that is written as absent takes no depth. -/
theorem shape_of_sameScopes (hschema : schema.KeepsShape) (h : SameScopes schema fields others) :
    depthOfFields others = depthOfFields fields ∧ fieldsLegible others = fieldsLegible fields := by
  cases h with
  | given hfields => exact shape_of_sameField hschema hfields
  | added hvalue => simp [depthOfFields, fieldsLegible, shape_of_mem_absentScopes hvalue]
  | dropped hvalue => simp [depthOfFields, fieldsLegible, shape_of_mem_absentScopes hvalue]

theorem depthOfFields_eq_max (p : String × Json → Bool) (fields : List (String × Json)) :
    depthOfFields fields =
      max (depthOfFields (fields.filter p)) (depthOfFields (fields.filter (!p ·))) := by
  induction fields with
  | nil => rfl
  | cons field rest ih =>
    rw [filter_cons, filter_cons, depthOfFields, ih]
    cases p field <;> simp only [depthOfFields, Bool.not_true, Bool.not_false, if_true, if_false,
      Bool.false_eq_true] <;> omega

theorem fieldsLegible_eq_and (p : String × Json → Bool) (fields : List (String × Json)) :
    fieldsLegible fields =
      (fieldsLegible (fields.filter p) && fieldsLegible (fields.filter (!p ·))) := by
  induction fields with
  | nil => rfl
  | cons field rest ih =>
    rw [filter_cons, filter_cons, fieldsLegible, ih]
    cases p field <;> simp [fieldsLegible, Bool.and_assoc, Bool.and_left_comm]

theorem SameFields.shape (hschema : schema.KeepsShape) (h : SameFields schema fields others) :
    SameShape (.object fields) (.object others) := by
  obtain ⟨hdepth, hlegible⟩ := shape_of_sameScopes hschema h.scopes
  obtain ⟨hdepth', hlegible'⟩ := shape_of_sameField hschema h.rest
  constructor
  · rw [depth, depth, depthOfFields_eq_max (·.1 == scopeField) others,
      depthOfFields_eq_max (·.1 == scopeField) fields]
    exact congrArg₂ (max · · + 1) hdepth hdepth'
  · rw [isLegible, isLegible, fieldsLegible_eq_and (·.1 == scopeField) others,
      fieldsLegible_eq_and (·.1 == scopeField) fields]
    exact congrArg₂ (· && ·) hlegible hlegible'

theorem SameItems.shape {items others : List Json} (hschema : schema.KeepsShape)
    (h : SameItems schema items others) :
    depthOfItems others = depthOfItems items ∧ itemsLegible others = itemsLegible items := by
  induction h with
  | nil => exact ⟨rfl, rfl⟩
  | @cons name R schema item other _ _ hitem _ ih =>
    obtain ⟨hdepth, hlegible⟩ := ih fun field hmem => hschema field (mem_cons_of_mem _ hmem)
    have hshape : SameShape item other := by
      rcases hitem with rfl | hvaries
      · exact .refl _
      · exact hschema (name, R) mem_cons_self hvaries
    simp only [depthOfItems, itemsLegible, hshape.depth_eq, hshape.isLegible_eq, hdepth, hlegible]
    exact ⟨trivial, trivial⟩
  | surplus => exact ⟨rfl, rfl⟩

theorem SameItems.array_shape {items others : List Json} (hschema : schema.KeepsShape)
    (h : SameItems schema items others) : SameShape (.array items) (.array others) := by
  obtain ⟨hdepth, hlegible⟩ := h.shape hschema
  exact ⟨by rw [depth, depth, hdepth], by rw [isLegible, isLegible, hlegible]⟩

theorem SameRecord.keepsShape (hschema : schema.KeepsShape) : KeepsShape (SameRecord schema) := by
  intro value other h
  cases h with
  | same => exact .refl value
  | object hfields => exact hfields.shape hschema
  | array hitems => exact hitems.array_shape hschema

theorem SameTagged.keepsShape {tag : String} {names : List String} {schemas : List Schema}
    (hschemas : ∀ schema ∈ schemas, schema.KeepsShape) :
    KeepsShape (SameTagged tag names schemas) := by
  intro value other h
  cases h with
  | same => exact .refl value
  | object hmem _ hfields => exact hfields.shape (hschemas _ hmem)
  | array hmem _ hitems =>
    obtain ⟨hdepth, hlegible⟩ := hitems.shape (hschemas _ hmem)
    exact ⟨by simp only [depth, depthOfItems, hdepth],
      by simp only [isLegible, itemsLegible, hlegible]⟩

/-! ## Slots -/

/-- What two records give for a field varies, or one of them has no namespace and the other has it
as absent. -/
inductive SameSlot (name : String) (R : Variation) : Slot → Slot → Prop where
  /-- Nothing differs. -/
  | same (slot : Slot) : SameSlot name R slot slot
  /-- The value varies. -/
  | given {value other : Json} (h : R value other) : SameSlot name R (.given value) (.given other)
  /-- The other one alone gives a namespace. -/
  | added {value : Json} (hname : name = scopeField) (h : value ∈ absentScopes) :
      SameSlot name R .omitted (.given value)
  /-- This one alone gives a namespace. -/
  | dropped {value : Json} (hname : name = scopeField) (h : value ∈ absentScopes) :
      SameSlot name R (.given value) .omitted

/-- What two records give for their fields varies as the fields do. -/
inductive SameSlots : Schema → List Slot → List Slot → Prop where
  /-- There are no fields. -/
  | nil : SameSlots [] [] []
  /-- There is a field. -/
  | cons {name : String} {R : Variation} {schema : Schema} {slot other : Slot}
      {slots others : List Slot} (h : SameSlot name R slot other)
      (rest : SameSlots schema slots others) :
      SameSlots ((name, R) :: schema) (slot :: slots) (other :: others)

theorem rel_bind {α β γ δ : Type} {P : α → β → Prop} {Q : γ → δ → Prop} {x : Option α}
    {y : Option β} {f : α → Option γ} {g : β → Option δ} (h : Option.Rel P x y)
    (hnext : ∀ a b, P a b → Option.Rel Q (f a) (g b)) : Option.Rel Q (x >>= f) (y >>= g) := by
  cases h with
  | none => exact .none
  | some hab => exact hnext _ _ hab

theorem rel_bind_self {α γ δ : Type} {Q : γ → δ → Prop} {x : Option α} {f : α → Option γ}
    {g : α → Option δ} (hnext : ∀ a, Option.Rel Q (f a) (g a)) :
    Option.Rel Q (x >>= f) (x >>= g) := by
  cases x with
  | none => exact .none
  | some a => exact hnext a

theorem rel_map {α β γ δ : Type} {P : α → β → Prop} {Q : γ → δ → Prop} {x : Option α}
    {y : Option β} {f : α → γ} {g : β → δ} (h : Option.Rel P x y)
    (hnext : ∀ a b, P a b → Q (f a) (g b)) : Option.Rel Q (f <$> x) (g <$> y) := by
  cases h with
  | none => exact .none
  | some hab => exact .some (hnext _ _ hab)

theorem bind_eq_of_rel {α β γ : Type} {P : α → β → Prop} {x : Option α} {y : Option β}
    {f : α → Option γ} {g : β → Option γ} (h : Option.Rel P x y)
    (hnext : ∀ a b, P a b → g b = f a) : (y >>= g) = (x >>= f) := by
  cases h with
  | none => rfl
  | some hab => exact hnext _ _ hab

theorem rel_self {α : Type} {P : α → α → Prop} (hP : ∀ a, P a a) (x : Option α) :
    Option.Rel P x x := by
  cases x with
  | none => exact .none
  | some a => exact .some (hP a)

theorem positionalSlots_nil (schema : Schema) :
    ∃ slots, positionalSlots schema.names [] = some slots ∧ SameSlots schema slots slots := by
  induction schema with
  | nil => exact ⟨[], rfl, .nil⟩
  | cons field rest ih =>
    obtain ⟨slots, hslots, hsame⟩ := ih
    refine ⟨.cutOff :: slots, ?_, .cons (.same _) hsame⟩
    show (Slot.cutOff :: ·) <$> positionalSlots (Schema.names rest) [] = _
    rw [hslots]
    rfl

theorem SameItems.positionalSlots_rel {items others : List Json}
    (h : SameItems schema items others) :
    Option.Rel (SameSlots schema) (positionalSlots schema.names items)
      (positionalSlots schema.names others) := by
  induction h with
  | nil schema =>
    obtain ⟨slots, hslots, hsame⟩ := positionalSlots_nil schema
    rw [hslots]
    exact .some hsame
  | @cons name R schema item other _ _ hitem _ ih =>
    refine rel_map ih fun slots slots' hslots => SameSlots.cons ?_ hslots
    rcases hitem with rfl | hvaries
    · exact .same _
    · exact .given hvaries
  | surplus items =>
    cases items with
    | nil => exact .some .nil
    | cons => exact .none

/-! ## Fields by name -/

theorem filter_rest {name : String} (hname : name ≠ scopeField) (fields : List (String × Json)) :
    (fields.filter (·.1 != scopeField)).filter (·.1 == name) = fields.filter (·.1 == name) := by
  rw [filter_filter]
  refine filter_congr fun field _ => ?_
  by_cases heq : field.1 = name <;> simp [heq, hname]

theorem eq_of_not_mem_names (h : Forall₂ (SameField schema) fields others)
    (hexact : ∀ field ∈ fields, field.1 ∉ schema.names) : others = fields := by
  induction h with
  | nil => rfl
  | @cons field other _ _ hfield _ ih =>
    rw [forall_mem_cons] at hexact
    obtain ⟨hname, heq | ⟨R, hmem, -⟩⟩ := hfield
    · rw [ih hexact.2, Prod.ext hname heq]
    · exact absurd (mem_map_of_mem (f := (·.1)) hmem) hexact.1

/-- The fields with a name that the schema lacks are the same. -/
theorem SameFields.filter_eq {name : String} (h : SameFields schema fields others)
    (hname : name ≠ scopeField) (hexact : name ∉ schema.names) :
    others.filter (·.1 == name) = fields.filter (·.1 == name) := by
  rw [← filter_rest hname fields, ← filter_rest hname others]
  refine eq_of_not_mem_names (filter_rel (· == name) h.rest) fun field hmem => ?_
  rw [eq_of_beq (mem_filter.1 hmem).2]
  exact hexact

theorem slotOf_rel_of_forall₂ {name : String} (hnodup : schema.names.Nodup)
    (hmem : (name, R) ∈ schema) (h : Forall₂ (SameField schema) fields others) :
    Option.Rel (SameSlot name R) (slotOf fields name) (slotOf others name) := by
  have hfilter := filter_rel (· == name) h
  have hnames : ∀ field ∈ fields.filter (·.1 == name), field.1 = name :=
    fun field hfield => eq_of_beq (mem_filter.1 hfield).2
  rw [slotOf, slotOf]
  generalize fields.filter (·.1 == name) = given at hfilter hnames ⊢
  generalize others.filter (·.1 == name) = given' at hfilter ⊢
  cases hfilter with
  | nil => exact .some (.same _)
  | @cons field other _ _ hfield hrest =>
    cases hrest with
    | cons => exact .none
    | nil =>
      obtain ⟨-, heq | ⟨R', hmem', hvaries⟩⟩ := hfield
      · show Option.Rel _ (some (Slot.given field.2)) (some (Slot.given other.2))
        rw [heq]
        exact .some (.same _)
      · rw [hnames field mem_cons_self] at hmem'
        have hR : (name, R') = (name, R) := inj_on_of_nodup_map hnodup hmem' hmem rfl
        cases hR
        exact .some (.given hvaries)

/-- What two objects give for a field varies as the field does. -/
theorem SameFields.slotOf_rel {name : String} (h : SameFields schema fields others)
    (hnodup : schema.names.Nodup) (hmem : (name, R) ∈ schema) :
    Option.Rel (SameSlot name R) (slotOf fields name) (slotOf others name) := by
  -- only what is given as a namespace can be given by one object alone
  by_cases hname : name = scopeField
  · subst hname
    have hfilter : ∀ fields, slotOf (fields.filter (·.1 == scopeField)) scopeField =
        slotOf fields scopeField := by
      intro fields
      simp only [slotOf, filter_filter, Bool.and_self]
    have hscopes := h.scopes
    rw [← hfilter fields, ← hfilter others]
    generalize fields.filter (·.1 == scopeField) = given at hscopes ⊢
    generalize others.filter (·.1 == scopeField) = given' at hscopes ⊢
    cases hscopes with
    | given hfields => exact slotOf_rel_of_forall₂ hnodup hmem hfields
    | added hvalue => exact .some (.added rfl hvalue)
    | dropped hvalue => exact .some (.dropped rfl hvalue)
  · have hfilter : ∀ fields, slotOf (fields.filter (·.1 != scopeField)) name =
        slotOf fields name := by
      intro fields
      simp only [slotOf, filter_rest hname]
    rw [← hfilter fields, ← hfilter others]
    exact slotOf_rel_of_forall₂ hnodup hmem h.rest

theorem SameFields.mapM_slotOf_rel (h : SameFields schema fields others)
    (hnodup : schema.names.Nodup) {part : Schema} (hpart : ∀ field ∈ part, field ∈ schema) :
    Option.Rel (SameSlots part) (part.names.mapM (slotOf fields))
      (part.names.mapM (slotOf others)) := by
  induction part with
  | nil => exact .some .nil
  | cons field rest ih =>
    obtain ⟨name, R⟩ := field
    rw [forall_mem_cons] at hpart
    show Option.Rel _ ((name :: Schema.names rest).mapM _) ((name :: Schema.names rest).mapM _)
    rw [mapM_cons, mapM_cons]
    refine rel_bind (h.slotOf_rel hnodup hpart.1) fun slot slot' hslot => ?_
    refine rel_bind (ih hpart.2) fun slots slots' hslots => ?_
    exact .some (.cons hslot hslots)

/-- What two records give for their fields is the same, or varies as the fields do. -/
theorem SameRecord.readSlots_rel {value other : Json} (h : SameRecord schema value other)
    (hnodup : schema.names.Nodup) (access : Access) :
    Option.Rel (fun found found' => found' = found ∨
        found'.1 = found.1 ∧ SameSlots schema found.2 found'.2)
      (readSlots schema.names access value) (readSlots schema.names access other) := by
  cases h with
  | same => exact rel_self (fun _ => .inl rfl) _
  | object hfields =>
    refine rel_bind_self fun inside => ?_
    refine rel_bind (hfields.mapM_slotOf_rel hnodup fun _ => id) fun slots slots' hslots => ?_
    exact .some (.inr ⟨rfl, hslots⟩)
  | array hitems =>
    refine rel_bind_self fun inside => ?_
    refine rel_bind hitems.positionalSlots_rel fun slots slots' hslots => ?_
    exact .some (.inr ⟨rfl, hslots⟩)

/-! ## Alternatives -/

theorem SameFields.filter_tag {tag : String} (h : SameFields schema fields others)
    (htag : tag ≠ scopeField) :
    SameFields schema (fields.filter (·.1 != tag)) (others.filter (·.1 != tag)) := by
  have hscopes : ∀ fields : List (String × Json),
      (fields.filter (·.1 != tag)).filter (·.1 == scopeField) =
        fields.filter (·.1 == scopeField) := by
    intro fields
    rw [filter_filter]
    refine filter_congr fun field _ => ?_
    by_cases heq : field.1 = scopeField <;> simp [heq, htag.symm]
  constructor
  · rw [hscopes, hscopes]
    exact h.scopes
  · rw [filter_comm, filter_comm (l := others)]
    exact filter_rel (· != tag) h.rest

/-- What a tag is read as, it is read as in a value that is held. -/
theorem readTag_held {names : List String} {access : Access} {name : Json} {position : Nat}
    (h : readTag names access name = some position) : readTag names .held name = some position := by
  cases access with
  | held => exact h
  | text room =>
    cases name with
    | string name => exact h
    | _ => simp [readTag] at h

/-- Of two alternatives the same is read as the tag, and the rest varies as the record does that the
tag stands for. -/
theorem SameTagged.readTagged_rel {tag : String} {names : List String} {schemas : List Schema}
    {value other : Json} (h : SameTagged tag names schemas value other) (htag : tag ≠ scopeField)
    (hkeeps : ∀ schema ∈ schemas, schema.KeepsShape)
    (hexact : ∀ schema ∈ schemas, tag ∉ schema.names) (access : Access) :
    Option.Rel (fun found found' => found' = found ∨ found'.1 = found.1 ∧
        ∃ schema, schemas[found.1]? = some schema ∧ SameRecord schema found.2 found'.2)
      (readTagged tag names access value) (readTagged tag names access other) := by
  -- an alternative is taken in whole first, and that the shapes decide
  have hadmits := (SameTagged.keepsShape hkeeps h).admits_eq access
  cases h with
  | same => exact rel_self (fun _ => .inl rfl) _
  | @object schema fields others hmem hschema hfields =>
    have hself := hfields.filter_eq htag (hexact schema hmem)
    have htags : ∀ field ∈ fields.filter (·.1 == tag), field.1 = tag :=
      fun field hfield => eq_of_beq (mem_filter.1 hfield).2
    rw [readTagged, readTagged, hadmits]
    split
    · simp only [hself]
      generalize fields.filter (·.1 == tag) = self at hschema htags ⊢
      rcases self with _ | ⟨⟨tag', name⟩, _ | _⟩
      · exact .none
      · show Option.Rel _ (readTag names access name >>= _) (readTag names access name >>= _)
        cases hread : readTag names access name with
        | none => exact .none
        | some position =>
          have htag' : tag' = tag := htags (tag', name) mem_cons_self
          have hposition := hschema name position (by rw [htag']) (readTag_held hread)
          exact .some (.inr ⟨rfl, schema, hposition, .object (hfields.filter_tag htag)⟩)
      · exact .none
    · exact .none
  | @array name schema items others hmem hschema hitems =>
    rw [readTagged, readTagged, hadmits]
    split
    · show Option.Rel _ (readTag names access name >>= _) (readTag names access name >>= _)
      cases hread : readTag names access name with
      | none => exact .none
      | some position =>
        have hposition := hschema position (readTag_held hread)
        exact .some (.inr ⟨rfl, schema, hposition, .array hitems⟩)
    · exact .none

/-! ## Readers -/

variable {α : Type} {reader : Reader α} {value other : Json} {access : Access}

/-- A reader takes the same from values that may stand in one place. -/
def ReadsSame (R : Variation) (reader : Reader α) : Prop :=
  ∀ ⦃value other⦄, R value other → ∀ access, reader access other = reader access value

/-- What a reader takes from values that may stand in one place is related. -/
def ReadsRelated (P : α → α → Prop) (R : Variation) (reader : Reader α) : Prop :=
  ∀ ⦃value other⦄, R value other →
    ∀ access, Option.Rel P (reader access value) (reader access other)

theorem ReadsSame.eq (reader : Reader α) : ReadsSame Eq reader := by
  rintro value _ rfl access
  rfl

theorem ReadsSame.list (h : ReadsSame R reader) : ReadsSame (SameList R) (readList reader) := by
  intro value other hvaries access
  cases hvaries with
  | same => rfl
  | @array items others hitems =>
    have hmapM : ∀ inside, others.mapM (reader inside) = items.mapM (reader inside) := by
      intro inside
      induction hitems with
      | nil => rfl
      | cons hitem _ ih => rw [mapM_cons, mapM_cons, h hitem inside, ih]
    simp only [readList, hmapM]

theorem ReadsRelated.list {P : α → α → Prop} (hP : ∀ data, P data data)
    (h : ReadsRelated P R reader) :
    ReadsRelated (Forall₂ P) (SameList R) (readList reader) := by
  intro value other hvaries access
  cases hvaries with
  | same => exact rel_self (fun data => forall₂_same.2 fun item _ => hP item) _
  | array hitems =>
    refine rel_bind_self fun inside => ?_
    induction hitems with
    | nil => exact .some .nil
    | cons hitem _ ih =>
      rw [mapM_cons, mapM_cons]
      refine rel_bind (h hitem inside) fun data data' hdata => ?_
      refine rel_bind ih fun rest rest' hrest => ?_
      exact .some (.cons hdata hrest)

theorem SameRecord.readSlots_bind_eq {names : List String} {read : Access × List Slot → Option α}
    (h : SameRecord schema value other) (hnames : schema.names = names) (hnodup : names.Nodup)
    (hread : ∀ inside slots others, SameSlots schema slots others →
      read (inside, others) = read (inside, slots)) :
    (readSlots names access other >>= read) = (readSlots names access value >>= read) := by
  subst hnames
  refine bind_eq_of_rel (h.readSlots_rel hnodup access) ?_
  rintro ⟨inside, slots⟩ ⟨inside', others⟩ (heq | ⟨rfl, hsame⟩)
  · rw [heq]
  · exact hread inside' slots others hsame

/-- A record is read the same if it is read the same from fields that vary. -/
theorem ReadsSame.record {names : List String} {read : Access × List Slot → Option α}
    (hnames : schema.names = names) (hnodup : names.Nodup)
    (hread : ∀ inside slots others, SameSlots schema slots others →
      read (inside, others) = read (inside, slots)) :
    ReadsSame (SameRecord schema) (fun access value => readSlots names access value >>= read) :=
  fun _ _ h _ => h.readSlots_bind_eq hnames hnodup hread

/-- What is read from a record is related if what is read from fields that vary is. -/
theorem ReadsRelated.record {P : α → α → Prop} (hP : ∀ data, P data data) {names : List String}
    {read : Access × List Slot → Option α} (hnames : schema.names = names) (hnodup : names.Nodup)
    (hread : ∀ inside slots others, SameSlots schema slots others →
      Option.Rel P (read (inside, slots)) (read (inside, others))) :
    ReadsRelated P (SameRecord schema)
      (fun access value => readSlots names access value >>= read) := by
  subst hnames
  intro value other hvaries access
  refine rel_bind (hvaries.readSlots_rel hnodup access) ?_
  rintro ⟨inside, slots⟩ ⟨inside', others⟩ (heq | ⟨rfl, hsame⟩)
  · rw [heq]
    exact rel_self hP _
  · exact hread inside' slots others hsame

/-- An alternative is read the same if it is read the same from records that vary. -/
theorem ReadsSame.tagged {tag : String} {names : List String} {schemas : List Schema}
    {read : Nat × Json → Option α} (htag : tag ≠ scopeField)
    (hkeeps : ∀ schema ∈ schemas, schema.KeepsShape)
    (hexact : ∀ schema ∈ schemas, tag ∉ schema.names)
    (hread : ∀ position schema content content', schemas[position]? = some schema →
      SameRecord schema content content' → read (position, content') = read (position, content)) :
    ReadsSame (SameTagged tag names schemas)
      (fun access value => readTagged tag names access value >>= read) := by
  intro value other hvaries access
  refine bind_eq_of_rel (hvaries.readTagged_rel htag hkeeps hexact access) ?_
  rintro ⟨position, content⟩ ⟨position', content'⟩ (heq | ⟨rfl, schema, hschema, hcontent⟩)
  · rw [heq]
  · exact hread position' schema content content' hschema hcontent

variable {name : String} {slot slot' : Slot}

theorem SameSlot.required_eq (h : SameSlot name R slot slot') (hname : name ≠ scopeField)
    (hread : ReadsSame R reader) : slot'.required reader access = slot.required reader access := by
  cases h with
  | same => rfl
  | given hvaries => exact hread hvaries access
  | added heq => exact absurd heq hname
  | dropped heq => exact absurd heq hname

theorem SameSlot.withDefault_eq {fallback : α} (h : SameSlot name R slot slot')
    (hname : name ≠ scopeField) (hread : ReadsSame R reader) :
    slot'.withDefault reader fallback access = slot.withDefault reader fallback access := by
  cases h with
  | same => rfl
  | given hvaries => exact hread hvaries access
  | added heq => exact absurd heq hname
  | dropped heq => exact absurd heq hname

theorem SameSlot.withDefault_rel {P : α → α → Prop} (hP : ∀ data, P data data) {fallback : α}
    (h : SameSlot name R slot slot') (hname : name ≠ scopeField) (hread : ReadsRelated P R reader) :
    Option.Rel P (slot.withDefault reader fallback access)
      (slot'.withDefault reader fallback access) := by
  cases h with
  | same => exact rel_self hP _
  | given hvaries => exact hread hvaries access
  | added heq => exact absurd heq hname
  | dropped heq => exact absurd heq hname

end Forwarder.Json
