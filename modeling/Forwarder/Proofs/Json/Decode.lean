import Forwarder.Json.Document
import Forwarder.Proofs.Json.Text

/-!
# Reading back what is written

A reader takes data back from the value that the data is written as, wherever that value is at hand
and not nested too deeply. That holds for plain data, and for lists, records and alternatives as far
as it holds for their parts. As every value that data is written as has a text, the data can be read
back from that text, too.
-/

namespace Forwarder.Json

variable {α : Type} {reader : Reader α} {value : Json} {data : α} {access : Access}

/-- A value is not nested too deeply for the way it is at hand. -/
def Access.Fits : Access → Json → Prop
  | .text room, value => value.depth ≤ room
  | .held, _ => True

/-- A reader takes data from a value that has a text, wherever the value fits. -/
structure ReadsAs (reader : Reader α) (value : Json) (data : α) : Prop where
  /-- The value has a text. -/
  written : value.Exact
  /-- The reader takes the data. -/
  read : ∀ access : Access, access.Fits value → reader access value = some data

/-! ## Depth -/

theorem depth_le_of_mem_items {items : List Json} {item : Json} (h : item ∈ items) :
    item.depth ≤ depthOfItems items := by
  induction items with
  | nil => cases h
  | cons first rest ih =>
    rw [depthOfItems]
    rcases List.mem_cons.1 h with rfl | hrest
    · exact Nat.le_max_left _ _
    · exact Nat.le_trans (ih hrest) (Nat.le_max_right _ _)

theorem depth_le_of_mem_fields {fields : List (String × Json)} {field : String × Json}
    (h : field ∈ fields) : field.2.depth ≤ depthOfFields fields := by
  induction fields with
  | nil => cases h
  | cons first rest ih =>
    rw [depthOfFields]
    rcases List.mem_cons.1 h with rfl | hrest
    · exact Nat.le_max_left _ _
    · exact Nat.le_trans (ih hrest) (Nat.le_max_right _ _)

theorem depth_lt_array {items : List Json} {item : Json} (h : item ∈ items) :
    item.depth < (array items).depth := by
  rw [depth]
  exact Nat.lt_succ_of_le (depth_le_of_mem_items h)

theorem depth_lt_object {fields : List (String × Json)} (name : String)
    (h : (name, value) ∈ fields) : value.depth < (object fields).depth := by
  rw [depth]
  exact Nat.lt_succ_of_le (depth_le_of_mem_fields h)

theorem depth_map_le {write : α → Json} {bound : Nat} (h : ∀ data, (write data).depth ≤ bound)
    (all : List α) : (array (all.map write)).depth ≤ bound + 1 := by
  rw [depth]
  refine Nat.succ_le_succ ?_
  induction all with
  | nil => exact Nat.zero_le bound
  | cons data rest ih =>
    rw [List.map_cons, depthOfItems]
    exact Nat.max_le.2 ⟨h data, ih⟩

theorem depth_optionalString (text : Option String) : (optionalString text).depth = 0 := by
  cases text <;> rfl

/-- An array that fits can be entered, and its items fit. -/
theorem Access.Fits.enter_array {items : List Json} (h : access.Fits (.array items)) :
    ∃ inside, access.enter = some inside ∧ ∀ item ∈ items, inside.Fits item := by
  cases access with
  | held => exact ⟨.held, rfl, fun _ _ => trivial⟩
  | text room =>
    have hroom : (array items).depth ≤ room := h
    have hpos : 0 < (array items).depth := by
      rw [depth]
      exact Nat.succ_pos _
    obtain ⟨room, rfl⟩ : ∃ less, room = less + 1 := ⟨room - 1, by omega⟩
    refine ⟨.text room, rfl, fun item hitem => ?_⟩
    have hitem := depth_lt_array hitem
    show item.depth ≤ room
    omega

/-- An object that fits can be entered, and the values in it fit. -/
theorem Access.Fits.enter_object {fields : List (String × Json)}
    (h : access.Fits (.object fields)) :
    ∃ inside, access.enter = some inside ∧ ∀ field ∈ fields, inside.Fits field.2 := by
  cases access with
  | held => exact ⟨.held, rfl, fun _ _ => trivial⟩
  | text room =>
    have hroom : (object fields).depth ≤ room := h
    have hpos : 0 < (object fields).depth := by
      rw [depth]
      exact Nat.succ_pos _
    obtain ⟨room, rfl⟩ : ∃ less, room = less + 1 := ⟨room - 1, by omega⟩
    refine ⟨.text room, rfl, fun field hfield => ?_⟩
    have hfield := depth_lt_object field.1 hfield
    show field.2.depth ≤ room
    omega

theorem itemsLegible_iff {items : List Json} :
    itemsLegible items = true ↔ ∀ item ∈ items, item.isLegible = true := by
  induction items with
  | nil => simp [itemsLegible]
  | cons item rest ih => simp [itemsLegible, ih]

theorem fieldsLegible_iff {fields : List (String × Json)} :
    fieldsLegible fields = true ↔ ∀ field ∈ fields, field.2.isLegible = true := by
  induction fields with
  | nil => simp [fieldsLegible]
  | cons field rest ih => simp [fieldsLegible, ih]

theorem Exact.isLegible (h : Exact value) : value.isLegible = true := by
  induction h with
  | array _ ih =>
    rw [Json.isLegible]
    exact itemsLegible_iff.2 ih
  | object _ ih =>
    rw [Json.isLegible]
    exact fieldsLegible_iff.2 ih
  | _ => rfl

/-! ## Plain data -/

theorem mapM_eq_some {β γ : Type} {f : β → Option γ} {g : β → γ} {xs : List β}
    (h : ∀ x ∈ xs, f x = some (g x)) : xs.mapM f = some (xs.map g) := by
  induction xs with
  | nil => rfl
  | cons x rest ih =>
    have hrest := ih fun y hy => h y (List.mem_cons_of_mem _ hy)
    rw [List.mapM_cons, h x List.mem_cons_self, hrest]
    rfl

namespace ReadsAs

theorem string (text : String) : ReadsAs readString (.string text) text :=
  ⟨.string text, fun _ _ => rfl⟩

theorem bool (value : Bool) : ReadsAs readBool (.bool value) value :=
  ⟨.bool value, fun _ _ => rfl⟩

theorem natBelow {n bound : Nat} (h : n < bound) (hbound : bound ≤ UInt64.size) :
    ReadsAs (readNatBelow bound) (.nat n) n := by
  refine ⟨.nat (Nat.lt_of_lt_of_le h hbound), fun access _ => ?_⟩
  rw [Json.nat, readNatBelow, if_pos ⟨Int.natCast_nonneg n, Int.ofNat_lt.2 h⟩, Int.toNat_natCast]

theorem uint32 (n : UInt32) : ReadsAs readUInt32 (.nat n.toNat) n := by
  obtain ⟨hwritten, hread⟩ := natBelow n.toNat_lt_size (by decide : UInt32.size ≤ UInt64.size)
  refine ⟨hwritten, fun access hfits => ?_⟩
  rw [readUInt32, hread access hfits, Option.map_some, Nat.toUInt32_eq, UInt32.ofNat_toNat]

theorem uint64 (n : UInt64) : ReadsAs readUInt64 (.nat n.toNat) n := by
  obtain ⟨hwritten, hread⟩ := natBelow n.toNat_lt_size (Nat.le_refl UInt64.size)
  refine ⟨hwritten, fun access hfits => ?_⟩
  rw [readUInt64, hread access hfits, Option.map_some, Nat.toUInt64_eq, UInt64.ofNat_toNat]

theorem choice {choices : List (String × α)} {name : String} (h : choices.lookup name = some data) :
    ReadsAs (readChoice choices) (.string name) data :=
  ⟨.string name, fun _ _ => h⟩

/-- Data that may be absent is written as `null` when it is, and only then. -/
theorem optional {write : α → Json} (h : ∀ data, ReadsAs reader (write data) data)
    (hnull : ∀ data, write data ≠ .null) (data : Option α) :
    ReadsAs (readOptional reader) (data.elim .null write) data := by
  cases data with
  | none => exact ⟨.null, fun _ _ => rfl⟩
  | some data =>
    refine ⟨(h data).written, fun access hfits => ?_⟩
    have hread := (h data).read access hfits
    show readOptional reader access (write data) = _
    unfold readOptional
    split
    · rename_i heq
      exact absurd heq (hnull data)
    · rw [hread]
      rfl

theorem optionalString (text : Option String) :
    ReadsAs (readOptional readString) (Json.optionalString text) text := by
  have hoptional := optional string (by simp) text
  cases text <;> exact hoptional

theorem list {write : α → Json} {all : List α}
    (h : ∀ data ∈ all, ReadsAs reader (write data) data) :
    ReadsAs (readList reader) (.array (all.map write)) all := by
  constructor
  · refine .array fun item hitem => ?_
    obtain ⟨data, hdata, rfl⟩ := List.mem_map.1 hitem
    exact (h data hdata).written
  · intro access hfits
    obtain ⟨inside, henter, hitems⟩ := hfits.enter_array
    rw [readList, henter, Option.bind_eq_bind, Option.bind_some, List.mapM_map]
    refine (mapM_eq_some (g := id) fun data hdata => ?_).trans (by rw [List.map_id])
    exact (h data hdata).read inside (hitems _ (List.mem_map_of_mem hdata))

theorem strings (texts : List String) : ReadsAs (readList readString) (Json.strings texts) texts :=
  list fun text _ => string text

/-! ## Records -/

theorem required (h : ReadsAs reader value data) (hfits : access.Fits value) :
    (Slot.given value).required reader access = some data := h.read access hfits

theorem withDefault (h : ReadsAs reader value data) (hfits : access.Fits value) (fallback : α) :
    (Slot.given value).withDefault reader fallback access = some data := h.read access hfits

theorem optionalField {found : Option α} (h : ReadsAs (readOptional reader) value found)
    (hfits : access.Fits value) :
    (Slot.given value).optional reader access = some found := h.read access hfits

theorem filter_eq_singleton {fields : List (String × Json)} (hnodup : (fields.map (·.1)).Nodup)
    {field : String × Json} (h : field ∈ fields) : fields.filter (·.1 == field.1) = [field] := by
  induction fields with
  | nil => cases h
  | cons first rest ih =>
    obtain ⟨hfresh, hrest⟩ := List.nodup_cons.1 hnodup
    rcases List.mem_cons.1 h with rfl | hlater
    · have hnone : rest.filter (·.1 == field.1) = [] := by
        rw [List.filter_eq_nil_iff]
        intro other hother heq
        exact hfresh (List.mem_map.2 ⟨other, hother, eq_of_beq heq⟩)
      rw [List.filter_cons_of_pos (by simp), hnone]
    · have hne : first.1 ≠ field.1 := by
        intro heq
        exact hfresh (List.mem_map.2 ⟨field, hlater, heq.symm⟩)
      rw [List.filter_cons_of_neg (by simpa using hne), ih hrest hlater]

/-- The slots of a record are read from the object of its fields. -/
theorem mapM_slotOf {fields : List (String × Json)} (hnodup : (fields.map (·.1)).Nodup) :
    (fields.map (·.1)).mapM (slotOf fields) = some (fields.map fun field => .given field.2) := by
  rw [List.mapM_map]
  refine mapM_eq_some fun field hfield => ?_
  rw [Function.comp_apply, slotOf, filter_eq_singleton hnodup hfield]

/-- What is read from the values of the fields is read from the object of the fields. -/
theorem readSlots_object_bind {names : List String} {fields : List (String × Json)}
    {read : Access × List Slot → Option α} (hnames : fields.map (·.1) = names)
    (hnodup : names.Nodup) (hfits : access.Fits (.object fields))
    (hread : ∀ inside : Access, (∀ field ∈ fields, inside.Fits field.2) →
      read (inside, fields.map fun field => .given field.2) = some data) :
    (readSlots names access (.object fields) >>= read) = some data := by
  subst hnames
  obtain ⟨inside, henter, hvalues⟩ := hfits.enter_object
  simp only [readSlots, henter, Option.bind_eq_bind, Option.bind_some, mapM_slotOf hnodup]
  exact hread inside hvalues

/-- A record is read from the object of its fields if it is read from their values. -/
theorem record {names : List String} {fields : List (String × Json)}
    {read : Access × List Slot → Option α} (hnames : fields.map (·.1) = names)
    (hnodup : names.Nodup) (hwritten : ∀ field ∈ fields, field.2.Exact)
    (hread : ∀ inside : Access, (∀ field ∈ fields, inside.Fits field.2) →
      read (inside, fields.map fun field => .given field.2) = some data) :
    ReadsAs (fun access value => readSlots names access value >>= read) (.object fields) data where
  written := .object hwritten
  read _ hfits := readSlots_object_bind hnames hnodup hfits hread

end ReadsAs

/-! ## Alternatives -/

/-- An alternative is taken in whole from the object of its tag and its fields. -/
theorem readTagged_object {tag name : String} {names : List String} {position : Nat}
    {fields : List (String × Json)} (hposition : positionOf name names = some position)
    (htag : ∀ field ∈ fields, field.1 ≠ tag)
    (hwritten : (object ((tag, .string name) :: fields)).Exact)
    (hfits : access.Fits (.object ((tag, .string name) :: fields))) :
    readTagged tag names access (.object ((tag, .string name) :: fields)) =
      some (position, .object fields) := by
  have hadmits : access.admits (.object ((tag, .string name) :: fields)) = true := by
    cases access with
    | held => rfl
    | text room =>
      rw [Access.admits, hwritten.isLegible, Bool.true_and, decide_eq_true_eq]
      exact hfits
  have hself : ((tag, .string name) :: fields).filter (·.1 == tag) = [(tag, .string name)] := by
    rw [List.filter_cons_of_pos (by simp), List.filter_eq_nil_iff.2 (by simpa using htag)]
  have hothers : ((tag, .string name) :: fields).filter (·.1 != tag) = fields := by
    rw [List.filter_cons_of_neg (by simp), List.filter_eq_self.2 (by simpa using htag)]
  have hread : readTag names access (.string name) = some position := by
    cases access <;> exact hposition
  rw [readTagged, if_pos hadmits]
  simp only [hself, hothers, hread]
  rfl

/-- An alternative is read from the object of its tag and its fields if it is read from the object
of its fields. -/
theorem ReadsAs.tagged {tag name : String} {names : List String} {fields : List (String × Json)}
    {read : Nat × Json → Option α} (position : Nat)
    (hposition : positionOf name names = some position) (htag : ∀ field ∈ fields, field.1 ≠ tag)
    (hwritten : ∀ field ∈ fields, field.2.Exact)
    (hread : read (position, .object fields) = some data) :
    ReadsAs (fun access value => readTagged tag names access value >>= read)
      (.object ((tag, .string name) :: fields)) data := by
  have hobject : (object ((tag, .string name) :: fields)).Exact :=
    .object (List.forall_mem_cons.2 ⟨.string name, hwritten⟩)
  refine ⟨hobject, fun access hfits => ?_⟩
  simp only [readTagged_object hposition htag hobject hfits]
  exact hread

/-! ## Documents -/

/-- Data is read back from the texts that it is written as. -/
def ReadsBack (reader : Reader α) (write : α → Json) (data : α) : Prop :=
  ofDocument reader (write data).compact = .ok data ∧
    ofDocument reader (write data).indented = .ok data

theorem ReadsAs.readsBack {write : α → Json} (h : ReadsAs reader (write data) data)
    (hdepth : (write data).depth ≤ nestingLimit) : ReadsBack reader write data := by
  have hread : reader.run (write data) = some data := h.read (.text nestingLimit) hdepth
  obtain ⟨hcompact, hindented⟩ := h.written.parse?
  constructor
  · rw [ofDocument, hcompact, Option.bind_some, hread]
  · rw [ofDocument, hindented, Option.bind_some, hread]

end Forwarder.Json
