import Forwarder.Proofs.Accessor.Policy
import Forwarder.Proofs.Analysis.Requirements

/-!
# Renamed accessors and their reports

The diagnostics of a type point out the accessor names that had to be told apart. An interface in a
collision goes by a qualified name, and its collision is reported. An interface in no collision
keeps its simple name, with one exception: an interface before it may be qualified to just this name.
Then the later one is numbered, though its simple name met no other, and no diagnostic is about it.
-/

namespace Forwarder

open Accessor Analysis Text

/-- Whether the simple name at a position met another one. -/
def AccessorChoice.Collides (resolved : AccessorChoice) (position : Nat) : Prop :=
  ∃ group ∈ resolved.collisions, position ∈ group

namespace Accessor

variable {stem : String} {interfaces : List InterfaceDisplays} {position : Nat}
  {displays : InterfaceDisplays}

theorem collides_resolve_iff (h : interfaces[position]? = some displays) :
    (resolve stem interfaces).Collides position ↔
      1 < (positionsOf (simpleNames stem interfaces) (nameFor stem displays.minimal)).length :=
  exists_mem_collisionsOf_iff (getElem?_simpleNames h)

theorem ownName_of_collides (h : interfaces[position]? = some displays)
    (hcollides : (resolve stem interfaces).Collides position) :
    ownName stem interfaces displays = nameFor stem (stripGlobal displays.full) :=
  if_pos ((collides_resolve_iff h).1 hcollides)

theorem ownName_of_not_collides (h : interfaces[position]? = some displays)
    (hfree : ¬ (resolve stem interfaces).Collides position) :
    ownName stem interfaces displays = nameFor stem displays.minimal :=
  if_neg (mt (collides_resolve_iff h).2 hfree)

theorem collides_of_nameFor_eq {earlier : Nat} {displays' : InterfaceDisplays}
    (h' : interfaces[earlier]? = some displays') (h : interfaces[position]? = some displays)
    (hlt : earlier < position)
    (heq : nameFor stem displays'.minimal = nameFor stem displays.minimal) :
    (resolve stem interfaces).Collides position := by
  have hearlier : (simpleNames stem interfaces)[earlier]? = some (nameFor stem displays.minimal) := by
    rw [← heq]
    exact getElem?_simpleNames h'
  rw [collides_resolve_iff h]
  exact one_lt_length_positionsOf hearlier (getElem?_simpleNames h) hlt

/-! ## Interfaces in no collision -/

/-- Whether an interface before a position collides and is qualified to a name. -/
def QualifiedBefore (stem : String) (interfaces : List InterfaceDisplays) (position : Nat)
    (name : String) : Prop :=
  ∃ earlier displays, earlier < position ∧ interfaces[earlier]? = some displays ∧
    (resolve stem interfaces).Collides earlier ∧ nameFor stem (stripGlobal displays.full) = name

theorem mem_take_ownNames_iff {name : String} : name ∈ (ownNames stem interfaces).take position ↔
    ∃ earlier displays, earlier < position ∧ interfaces[earlier]? = some displays ∧
      ownName stem interfaces displays = name := by
  rw [List.mem_iff_getElem?]
  refine exists_congr fun earlier => ?_
  rw [ownNames, List.getElem?_take]
  by_cases hlt : earlier < position
  · simp [hlt]
  · simp [hlt]

/-- The simple name of an interface in no collision is owned before as a qualified name only. -/
theorem nameFor_mem_take_ownNames_iff (h : interfaces[position]? = some displays)
    (hfree : ¬ (resolve stem interfaces).Collides position) :
    nameFor stem displays.minimal ∈ (ownNames stem interfaces).take position ↔
      QualifiedBefore stem interfaces position (nameFor stem displays.minimal) := by
  rw [mem_take_ownNames_iff]
  constructor
  · rintro ⟨earlier, displays', hlt, h', hown⟩
    by_cases hcollides : (resolve stem interfaces).Collides earlier
    · rw [ownName_of_collides h' hcollides] at hown
      exact ⟨earlier, displays', hlt, h', hcollides, hown⟩
    · rw [ownName_of_not_collides h' hcollides] at hown
      exact absurd (collides_of_nameFor_eq h' h hlt hown) hfree
  · rintro ⟨earlier, displays', hlt, h', hcollides, hown⟩
    exact ⟨earlier, displays', hlt, h', (ownName_of_collides h' hcollides).trans hown⟩

/-- An interface in no collision goes by its simple name unless one before it is qualified to it. -/
theorem getElem?_names_iff (h : interfaces[position]? = some displays)
    (hfree : ¬ (resolve stem interfaces).Collides position) :
    (resolve stem interfaces).names[position]? = some (nameFor stem displays.minimal) ↔
      ¬ QualifiedBefore stem interfaces position (nameFor stem displays.minimal) := by
  have hown : (ownNames stem interfaces)[position]? = some (nameFor stem displays.minimal) := by
    rw [ownNames, List.getElem?_map, h, Option.map_some, ownName_of_not_collides h hfree]
  obtain ⟨choice, hchoice, hpolicy⟩ := isChoice_distinguish hown
  rw [names_resolve, hchoice, Option.some_inj, hpolicy.eq_iff,
    nameFor_mem_take_ownNames_iff h hfree]

end Accessor

/-! ## Reports -/

variable {settings : Settings} {snapshot : Snapshot} {type : TypeDecl} {position : Nat}

/-- The diagnostic for interfaces whose accessor names met. -/
def collisionReport (type : TypeDecl) (accessors : AccessorChoice) (group : List Nat) :
    Diagnostic :=
  let displays := type.interfaces.map (·.display .dotted)
  Rule.sharedAccessorName.report type.location
    [commaList (group.filterMap (displays[·]?)), commaList (group.filterMap (accessors.names[·]?))]

theorem mem_diagnose_of_mem_collisions (hkind : type.kind ≠ .unresolved)
    (hinterfaces : type.interfaces ≠ []) {group : List Nat}
    (hgroup : group ∈ (type.accessors settings).collisions) :
    collisionReport type (type.accessors settings) group ∈ diagnose settings snapshot type := by
  have hreport : collisionReport type (type.accessors settings) group ∈
      collisionReports type (type.accessors settings) := List.mem_map_of_mem hgroup
  rw [diagnose_eq settings snapshot hkind hinterfaces, List.append_assoc, List.append_assoc]
  exact List.mem_append_left _ hreport

theorem TypeDecl.getElem?_requirements {reference : TypeExpr} {name : String}
    (h : (type.requirements settings)[position]? = some (.accessor reference name)) :
    type.interfaces[position]? = some reference ∧
      (type.accessors settings).names[position]? = some name := by
  rw [requirements, List.getElem?_append] at h
  split at h
  · rw [List.getElem?_map, Option.map_eq_some_iff] at h
    obtain ⟨entry, hentry, heq⟩ := h
    obtain ⟨rfl, rfl⟩ := Requirement.accessor.inj heq
    exact List.getElem?_zip_eq_some.1 hentry
  · -- behind the accessors there are hooks only
    rw [List.getElem?_map, Option.map_eq_some_iff] at h
    obtain ⟨which, -, heq⟩ := h
    cases heq

/-- An interface in no collision goes by its simple name, unless an interface before it is in a
collision and is qualified to this name. So of the accessors that a type is required to have, each
one is among those that some diagnostic is about, or it is renamed just if it is overtaken by one
that is. -/
theorem renamed_reported_or_overtaken (settings : Settings) (snapshot : Snapshot)
    (hkind : type.kind ≠ .unresolved) :
    (∀ (stem : String) (interfaces : List InterfaceDisplays) (position : Nat)
      (displays : InterfaceDisplays), interfaces[position]? = some displays →
      ¬ (resolve stem interfaces).Collides position →
      ((resolve stem interfaces).names[position]? = some (nameFor stem displays.minimal) ↔
        ¬ QualifiedBefore stem interfaces position (nameFor stem displays.minimal))) ∧
    ∀ (position : Nat) (reference : TypeExpr) (name : String),
      (type.requirements settings)[position]? = some (.accessor reference name) →
      (∃ group ∈ (type.accessors settings).collisions, position ∈ group ∧
        collisionReport type (type.accessors settings) group ∈ diagnose settings snapshot type) ∨
      ¬ (type.accessors settings).Collides position ∧
        (name ≠ nameFor settings.accessorStem (reference.display .minimal) ↔
          QualifiedBefore settings.accessorStem (type.interfaces.map displaysOf) position
            (nameFor settings.accessorStem (reference.display .minimal))) := by
  refine ⟨fun stem interfaces position displays => getElem?_names_iff, ?_⟩
  intro position reference name hrequired
  obtain ⟨hreference, hname⟩ := TypeDecl.getElem?_requirements hrequired
  have hinterfaces : type.interfaces ≠ [] := List.ne_nil_of_mem (List.mem_of_getElem? hreference)
  by_cases hcollides : (type.accessors settings).Collides position
  · obtain ⟨group, hgroup, hposition⟩ := hcollides
    exact .inl ⟨group, hgroup, hposition,
      mem_diagnose_of_mem_collisions hkind hinterfaces hgroup⟩
  · have hdisplays : (type.interfaces.map displaysOf)[position]? = some (displaysOf reference) := by
      rw [List.getElem?_map, hreference, Option.map_some]
    have hkept := getElem?_names_iff hdisplays hcollides
    have hgiven : (resolve settings.accessorStem (type.interfaces.map displaysOf)).names[position]? =
        some name := hname
    rw [hgiven, Option.some_inj] at hkept
    exact .inr ⟨hcollides, not_iff_comm.1 hkept.symm⟩

/-- A type with two interfaces of the same simple name and a third one that is called what the first
of them is qualified to. -/
def facadeType : TypeDecl :=
  { TypeDecl.ofClass none "Facade" with
    interfaces := [.plain (some "A") "IX", .plain (some "B") "IX", .plain none "A_IX"] }

/-- The third interface of `facadeType` is in no collision. It is numbered all the same, and the only
diagnostic about shared names is about the first two. -/
theorem exists_unreported_rename :
    facadeType.accessors .default =
      ⟨["GetInnerA_IX", "GetInnerB_IX", "GetInnerA_IX_2"], [[0, 1]]⟩ ∧
    ¬ (facadeType.accessors .default).Collides 2 ∧
    facadeType.interfaces[2]? = some (.plain none "A_IX") ∧
    nameFor Settings.default.accessorStem ((TypeExpr.plain none "A_IX").display .minimal) =
      "GetInnerA_IX" ∧
    (diagnose .default ⟨[], []⟩ facadeType).filter (·.id = Rule.sharedAccessorName.id) =
      [Rule.sharedAccessorName.report facadeType.location
        ["A.IX, B.IX", "GetInnerA_IX, GetInnerB_IX"]] := by
  have haccessors : facadeType.accessors .default =
      ⟨["GetInnerA_IX", "GetInnerB_IX", "GetInnerA_IX_2"], [[0, 1]]⟩ := by decide +kernel
  refine ⟨haccessors, ?_, rfl, by decide +kernel, by decide +kernel⟩
  rw [haccessors]
  rintro ⟨group, hgroup, hposition⟩
  obtain rfl := List.mem_singleton.1 hgroup
  exact absurd hposition (by decide)

/-- The first interface of `facadeType` is renamed and reported, the last one is renamed because the
first one has overtaken it. -/
theorem renamed_reported_or_overtaken_facade : facadeType.kind ≠ .unresolved ∧
    (facadeType.requirements .default)[0]? =
      some (.accessor (.plain (some "A") "IX") "GetInnerA_IX") ∧
    (facadeType.requirements .default)[2]? =
      some (.accessor (.plain none "A_IX") "GetInnerA_IX_2") ∧
    (∃ group ∈ (facadeType.accessors .default).collisions, 0 ∈ group ∧
      collisionReport facadeType (facadeType.accessors .default) group ∈
        diagnose .default ⟨[], []⟩ facadeType) ∧
    QualifiedBefore "GetInner" (facadeType.interfaces.map displaysOf) 2 "GetInnerA_IX" := by
  have hkind : facadeType.kind ≠ .unresolved := by decide
  obtain ⟨-, hreported⟩ := renamed_reported_or_overtaken .default ⟨[], []⟩ hkind
  have hcollisions : (facadeType.accessors .default).collisions = [[0, 1]] := by decide +kernel
  have hfirst : (facadeType.requirements .default)[0]? =
      some (.accessor (.plain (some "A") "IX") "GetInnerA_IX") := by decide +kernel
  have hlast : (facadeType.requirements .default)[2]? =
      some (.accessor (.plain none "A_IX") "GetInnerA_IX_2") := by decide +kernel
  refine ⟨hkind, hfirst, hlast, ?_, ?_⟩
  · rcases hreported 0 _ _ hfirst with hgroup | ⟨hfree, -⟩
    · exact hgroup
    · have hgroup : [0, 1] ∈ (facadeType.accessors .default).collisions := by
        rw [hcollisions]
        exact List.mem_singleton_self _
      exact absurd ⟨_, hgroup, List.mem_cons_self⟩ hfree
  · have hsimple : nameFor Settings.default.accessorStem
        ((TypeExpr.plain none "A_IX").display .minimal) = "GetInnerA_IX" := by decide +kernel
    rcases hreported 2 _ _ hlast with hgroup | ⟨-, hrenamed⟩
    · obtain ⟨group, hgroup, hposition, -⟩ := hgroup
      rw [hcollisions] at hgroup
      obtain rfl := List.mem_singleton.1 hgroup
      exact absurd hposition (by decide)
    · rw [hsimple] at hrenamed
      exact hrenamed.1 (by decide)

end Forwarder
