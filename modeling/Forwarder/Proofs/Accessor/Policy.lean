import Mathlib.Data.List.Induction
import Mathlib.Data.List.Lex
import Mathlib.Data.List.Sort
import Forwarder.Proofs.Accessor

/-!
# The policy for names that meet

Interfaces are grouped by their simple names, in one pass that extends the groups found so far. What
comes of it does not depend on how the groups are kept: there is one for each name, with all the
positions at which the name stands, and in ascending order the groups are sorted by their first
positions. So a grouping that yields the groups in some other order comes to the same collisions.

The names are then told apart in a second pass, which looks at what the interfaces own and at what
has been given already. An owned name is given to the first interface that owns it and never as a
numbered name, so what is given at a position can be said without the pass.
-/

namespace Forwarder

namespace Accessor

open Text

/-! ## Positions of a name -/

/-- The positions at which a name stands, in ascending order. -/
def positionsOf (names : List String) (name : String) : List Nat :=
  (List.range names.length).filter fun position => names[position]? = some name

theorem mem_positionsOf {names : List String} {name : String} {position : Nat} :
    position ∈ positionsOf names name ↔ names[position]? = some name := by
  unfold positionsOf
  rw [List.mem_filter, List.mem_range, decide_eq_true_eq]
  constructor
  · exact fun h => h.2
  · intro h
    exact ⟨(List.getElem?_eq_some_iff.1 h).1, h⟩

theorem positionsOf_eq_nil_iff {names : List String} {name : String} :
    positionsOf names name = [] ↔ name ∉ names := by
  rw [List.eq_nil_iff_forall_not_mem, List.mem_iff_getElem?, not_exists]
  simp only [mem_positionsOf]

theorem one_lt_length_positionsOf {names : List String} {name : String} {earlier later : Nat}
    (hearlier : names[earlier]? = some name) (hlater : names[later]? = some name)
    (hlt : earlier < later) : 1 < (positionsOf names name).length := by
  have hpair : [earlier, later] ⊆ positionsOf names name := by
    simp [mem_positionsOf, hearlier, hlater]
  have hnodup : [earlier, later].Nodup := by simp [Nat.ne_of_lt hlt]
  exact (hnodup.subperm hpair).length_le

theorem pairwise_positionsOf (names : List String) (name : String) :
    (positionsOf names name).Pairwise (· < ·) :=
  List.pairwise_lt_range.filter _

/-- One more name behind the others adds its position to its own group only. -/
theorem positionsOf_concat (names : List String) (last name : String) :
    positionsOf (names ++ [last]) name =
      positionsOf names name ++ if last = name then [names.length] else [] := by
  have hearlier : (List.range names.length).filter
      (fun position => (names ++ [last])[position]? = some name) = positionsOf names name := by
    refine List.filter_congr fun position hposition => ?_
    rw [List.getElem?_append_left (List.mem_range.1 hposition)]
  unfold positionsOf at hearlier ⊢
  rw [List.length_append, List.length_singleton, List.range_succ, List.filter_append, hearlier]
  by_cases hlast : last = name
  · simp [hlast]
  · simp [hlast]

theorem head?_positionsOf {names : List String} {name : String} (h : name ∈ names) :
    (positionsOf names name).head? = some (names.idxOf name) := by
  induction names using List.reverseRecOn with
  | nil => cases h
  | append_singleton names last ih =>
    rw [positionsOf_concat, List.head?_append]
    by_cases hmem : name ∈ names
    · rw [ih hmem, List.idxOf_append_of_mem hmem]
      rfl
    · obtain rfl : name = last := by simpa [hmem] using h
      rw [positionsOf_eq_nil_iff.2 hmem, List.idxOf_append_of_notMem hmem]
      simp

/-! ## Groups -/

/-- The names of a list without repetition, each with its positions. -/
def groupsOf (names : List String) : List (String × List Nat) :=
  names.eraseDups.map fun name => (name, positionsOf names name)

theorem eraseDups_concat (names : List String) (last : String) :
    (names ++ [last]).eraseDups = names.eraseDups ++ if last ∈ names then [] else [last] := by
  rw [List.eraseDups_append]
  by_cases hlast : last ∈ names
  · simp [List.removeAll, hlast]
  · simp [List.removeAll, hlast, List.eraseDups_cons]

/-- Names without repetition stand in the order in which they first occur. -/
theorem pairwise_eraseDups (names : List String) :
    names.eraseDups.Pairwise fun a b => names.idxOf a < names.idxOf b := by
  induction names using List.reverseRecOn with
  | nil => exact List.Pairwise.nil
  | append_singleton names last ih =>
    have hold : ∀ name ∈ names.eraseDups, (names ++ [last]).idxOf name = names.idxOf name :=
      fun name hmem => List.idxOf_append_of_mem (List.mem_eraseDups.1 hmem)
    have hsame : names.eraseDups.Pairwise
        fun a b => (names ++ [last]).idxOf a < (names ++ [last]).idxOf b := by
      refine ih.imp_of_mem fun ha hb hlt => ?_
      rw [hold _ ha, hold _ hb]
      exact hlt
    rw [eraseDups_concat]
    by_cases hlast : last ∈ names
    · rw [if_pos hlast, List.append_nil]
      exact hsame
    · rw [if_neg hlast]
      refine List.pairwise_append.2 ⟨hsame, List.pairwise_singleton _ _, ?_⟩
      intro name hname other hother
      obtain rfl := List.mem_singleton.1 hother
      rw [hold _ hname, List.idxOf_append_of_notMem hlast]
      exact Nat.lt_add_right _ (List.idxOf_lt_length_of_mem (List.mem_eraseDups.1 hname))

theorem nodup_eraseDups (names : List String) : names.eraseDups.Nodup := by
  refine (pairwise_eraseDups names).imp fun {a b} hlt => ?_
  rintro rfl
  exact Nat.lt_irrefl _ hlt

theorem addToGroup_of_not_mem {name : String} {keys : List String} (h : name ∉ keys)
    (position : Nat) (positions : String → List Nat) :
    addToGroup name position (keys.map fun key => (key, positions key)) =
      (keys.map fun key => (key, positions key)) ++ [(name, [position])] := by
  induction keys with
  | nil => rfl
  | cons key rest ih =>
    obtain ⟨hkey, hrest⟩ := not_or.1 (mt List.mem_cons.2 h)
    rw [List.map_cons, addToGroup, if_neg (Ne.symm hkey), ih hrest]
    rfl

theorem addToGroup_of_mem {name : String} {keys : List String} (h : name ∈ keys)
    (hnodup : keys.Nodup) (position : Nat) (positions : String → List Nat) :
    addToGroup name position (keys.map fun key => (key, positions key)) =
      keys.map fun key => (key, positions key ++ if name = key then [position] else []) := by
  induction keys with
  | nil => cases h
  | cons key rest ih =>
    obtain ⟨hkey, hrest⟩ := List.nodup_cons.1 hnodup
    rw [List.map_cons, List.map_cons, addToGroup]
    by_cases heq : key = name
    · subst heq
      have hothers : ∀ other ∈ rest, (other, positions other) =
          (other, positions other ++ if key = other then [position] else []) := by
        intro other hother
        have hne : key ≠ other := fun h => hkey (h ▸ hother)
        rw [if_neg hne, List.append_nil]
      rw [if_pos rfl, if_pos rfl, List.map_congr_left hothers]
    · have hlater : name ∈ rest := (List.mem_cons.1 h).resolve_left (Ne.symm heq)
      rw [if_neg heq, if_neg (Ne.symm heq), List.append_nil, ih hlater hrest]

/-- Adding the position of the next name keeps the groups what they are. -/
theorem addToGroup_groupsOf (names : List String) (next : String) :
    addToGroup next names.length (groupsOf names) = groupsOf (names ++ [next]) := by
  unfold groupsOf
  rw [eraseDups_concat]
  simp only [positionsOf_concat]
  by_cases hnext : next ∈ names
  · rw [if_pos hnext, List.append_nil]
    exact addToGroup_of_mem (List.mem_eraseDups.2 hnext) (nodup_eraseDups names) _ _
  · have hothers : ∀ name ∈ names.eraseDups, (name, positionsOf names name) =
        (name, positionsOf names name ++ if next = name then [names.length] else []) := by
      intro name hname
      have hne : next ≠ name := fun h => hnext (List.mem_eraseDups.1 (h ▸ hname))
      rw [if_neg hne, List.append_nil]
    rw [addToGroup_of_not_mem (mt List.mem_eraseDups.1 hnext), if_neg hnext, List.map_append,
      List.map_congr_left hothers]
    simp [positionsOf_eq_nil_iff.2 hnext]

theorem groupFrom_groupsOf (names more : List String) :
    groupFrom (groupsOf names) names.length more = groupsOf (names ++ more) := by
  induction more generalizing names with
  | nil => rw [groupFrom, List.append_nil]
  | cons next rest ih =>
    have hlength : names.length + 1 = (names ++ [next]).length := by simp
    rw [groupFrom, addToGroup_groupsOf, hlength, ih, List.append_assoc, List.singleton_append]

/-! ## Collisions -/

theorem collisionsOf_eq (names : List String) :
    collisionsOf names =
      (names.eraseDups.map (positionsOf names)).filter (1 < ·.length) := by
  have hgroups : groupFrom [] 0 names = groupsOf names := groupFrom_groupsOf [] names
  unfold collisionsOf
  rw [hgroups, groupsOf, List.map_map]
  rfl

theorem mem_collisionsOf {names : List String} {group : List Nat} :
    group ∈ collisionsOf names ↔ 1 < group.length ∧ ∃ name, positionsOf names name = group := by
  rw [collisionsOf_eq, List.mem_filter, List.mem_map, decide_eq_true_eq, and_comm]
  refine and_congr_right fun hlength => exists_congr fun name => and_iff_right_of_imp ?_
  rintro rfl
  by_contra habsent
  rw [positionsOf_eq_nil_iff.2 (mt List.mem_eraseDups.2 habsent)] at hlength
  exact absurd hlength (Nat.not_lt_zero 1)

/-- A position is in some collision exactly if its name has several positions. -/
theorem exists_mem_collisionsOf_iff {names : List String} {position : Nat} {name : String}
    (h : names[position]? = some name) :
    (∃ group ∈ collisionsOf names, position ∈ group) ↔ 1 < (positionsOf names name).length := by
  constructor
  · rintro ⟨group, hgroup, hposition⟩
    obtain ⟨hlength, other, rfl⟩ := mem_collisionsOf.1 hgroup
    obtain rfl : name = other := Option.some.inj (h.symm.trans (mem_positionsOf.1 hposition))
    exact hlength
  · intro hlength
    exact ⟨_, mem_collisionsOf.2 ⟨hlength, name, rfl⟩, mem_positionsOf.2 h⟩

/-- One list of positions begins before another one. -/
def BeginsBefore (a b : List Nat) : Prop := ∃ i ∈ a.head?, ∃ j ∈ b.head?, i < j

theorem BeginsBefore.le {a b : List Nat} (h : BeginsBefore a b) : a ≤ b := by
  obtain ⟨i, hi, j, hj, hlt⟩ := h
  obtain ⟨as, rfl⟩ := List.head?_eq_some_iff.1 hi
  obtain ⟨bs, rfl⟩ := List.head?_eq_some_iff.1 hj
  have hfirst : i :: as < j :: bs := List.Lex.rel hlt
  exact le_of_lt hfirst

theorem pairwise_groups (names : List String) :
    (names.eraseDups.map (positionsOf names)).Pairwise BeginsBefore := by
  refine List.pairwise_map.2 ((pairwise_eraseDups names).imp_of_mem fun ha hb hlt => ?_)
  exact ⟨_, head?_positionsOf (List.mem_eraseDups.1 ha), _,
    head?_positionsOf (List.mem_eraseDups.1 hb), hlt⟩

theorem pairwise_collisionsOf (names : List String) :
    (collisionsOf names).Pairwise BeginsBefore := by
  rw [collisionsOf_eq]
  exact (pairwise_groups names).filter _

/-- In whatever order the groups of names are found, sorting those of several positions gives the
collisions. -/
theorem mergeSort_groups {names : List String} {groups : List (String × List Nat)}
    (h : groups.Perm (groupFrom [] 0 names)) :
    ((groups.map (·.2)).filter (1 < ·.length)).mergeSort (· ≤ ·) = collisionsOf names := by
  have hsorted : (((groups.map (·.2)).filter (1 < ·.length)).mergeSort (· ≤ ·)).Pairwise (· ≤ ·) :=
    List.pairwise_mergeSort' (· ≤ ·) _
  have hcollisions : (collisionsOf names).Pairwise (· ≤ ·) :=
    (pairwise_collisionsOf names).imp BeginsBefore.le
  have hperm : (((groups.map (·.2)).filter (1 < ·.length)).mergeSort (· ≤ ·)).Perm
      (collisionsOf names) :=
    (List.mergeSort_perm _ _).trans ((h.map _).filter _)
  exact hperm.eq_of_pairwise (fun _ _ _ _ => le_antisymm) hsorted hcollisions

/-! ## Names by position -/

/-- Names behind others are told apart from what the others came to. -/
theorem distinguish_append (owned taken names more : List String) :
    distinguish owned taken (names ++ more) = distinguish owned taken names ++
      distinguish owned ((distinguish owned taken names).reverse ++ taken) more := by
  induction names generalizing taken with
  | nil => rfl
  | cons name rest ih =>
    rw [List.cons_append, distinguish_cons, distinguish_cons, ih, List.cons_append,
      List.reverse_cons, List.append_assoc, List.singleton_append]

theorem length_distinguish_take {owned names : List String} {position : Nat}
    (h : position ≤ names.length) :
    (distinguish owned [] (names.take position)).length = position := by
  rw [length_distinguish, List.length_take, Nat.min_eq_left h]

theorem take_distinguish (owned names : List String) (position : Nat) :
    (distinguish owned [] names).take position = distinguish owned [] (names.take position) := by
  by_cases hposition : position ≤ names.length
  · conv_lhs => rw [← List.take_append_drop position names, distinguish_append]
    exact List.take_left' (length_distinguish_take hposition)
  · have hall : names.length ≤ position := by omega
    have hgiven : (distinguish owned [] names).length ≤ position := by
      rw [length_distinguish]
      exact hall
    rw [List.take_of_length_le hall, List.take_of_length_le hgiven]

/-- The name given at a position is chosen by what has been given before. -/
theorem getElem?_distinguish {owned names : List String} {position : Nat} {name : String}
    (h : names[position]? = some name) : (distinguish owned [] names)[position]? =
      some (chosen owned ((distinguish owned [] names).take position).reverse name) := by
  obtain ⟨hlt, hname⟩ := List.getElem?_eq_some_iff.1 h
  have hsplit : names = names.take position ++ name :: names.drop (position + 1) := by
    rw [← hname, ← List.drop_eq_getElem_cons, List.take_append_drop]
  have hlength : (distinguish owned [] (names.take position)).length = position :=
    length_distinguish_take (Nat.le_of_lt hlt)
  rw [take_distinguish]
  conv_lhs => rw [hsplit, distinguish_append, distinguish_cons]
  rw [List.getElem?_append_right (Nat.le_of_eq hlength), hlength, Nat.sub_self, List.append_nil]
  rfl

theorem mem_chosen_cons_iff {owned taken : List String} {name : String} (howned : name ∈ owned)
    (next : String) : name ∈ chosen owned taken next :: taken ↔ name ∈ next :: taken := by
  unfold chosen
  by_cases hnext : next ∈ taken
  · have hne : name ≠ fresh next (owned ++ taken) := by
      rintro rfl
      exact fresh_not_mem next _ (List.mem_append_left taken howned)
    have hold : name = next → name ∈ taken := fun h => h ▸ hnext
    rw [if_pos hnext, List.mem_cons, List.mem_cons]
    exact ⟨fun h => .inr (h.resolve_left hne), fun h => .inr (h.elim hold id)⟩
  · rw [if_neg hnext]

/-- Of the owned names, those are given that are asked for: none is given as a numbered name. -/
theorem mem_distinguish_iff {owned taken names : List String} {name : String}
    (howned : name ∈ owned) : name ∈ distinguish owned taken names ∨ name ∈ taken ↔
      name ∈ names ∨ name ∈ taken := by
  induction names generalizing taken with
  | nil => rfl
  | cons next rest ih =>
    calc name ∈ distinguish owned taken (next :: rest) ∨ name ∈ taken
      _ ↔ name ∈ distinguish owned (chosen owned taken next :: taken) rest ∨
          name ∈ chosen owned taken next :: taken := by
        rw [distinguish_cons, List.mem_cons, List.mem_cons, or_assoc, or_left_comm]
      _ ↔ name ∈ rest ∨ name ∈ chosen owned taken next :: taken := ih
      _ ↔ name ∈ rest ∨ name ∈ next :: taken := by rw [mem_chosen_cons_iff howned]
      _ ↔ name ∈ next :: rest ∨ name ∈ taken := by
        rw [List.mem_cons, List.mem_cons, or_assoc, or_left_comm]

/-- What stands for an owned name at a position, when names have been given to the positions
before. -/
inductive IsChoice (owned given : List String) (position : Nat) (name : String) : String → Prop
  /-- A name that no position before owns is given as it is. -/
  | kept (hfirst : name ∉ owned.take position) : IsChoice owned given position name name
  /-- Otherwise it gets the least number that makes a name which is neither owned nor given. -/
  | renamed {ordinal : Nat} (hlater : name ∈ owned.take position)
      (hleast : IsLeast (freeOrdinals name (owned ++ given.take position)) ordinal) :
      IsChoice owned given position name (numbered name ordinal)

/-- A number makes another name. -/
theorem numbered_ne (name : String) (ordinal : Nat) : numbered name ordinal ≠ name := by
  intro heq
  have hlength := congrArg String.length heq
  have hseparator : "_".length = 1 := rfl
  rw [numbered, String.length_append, String.length_append, hseparator] at hlength
  omega

theorem IsChoice.eq_iff {owned given : List String} {position : Nat} {name choice : String}
    (h : IsChoice owned given position name choice) :
    choice = name ↔ name ∉ owned.take position := by
  cases h with
  | kept hfirst => exact iff_of_true rfl hfirst
  | renamed hlater hleast => exact iff_of_false (numbered_ne name _) (not_not_intro hlater)

theorem isChoice_distinguish {owned : List String} {position : Nat} {name : String}
    (h : owned[position]? = some name) : ∃ choice,
      (distinguish owned [] owned)[position]? = some choice ∧
      IsChoice owned (distinguish owned [] owned) position name choice := by
  refine ⟨_, getElem?_distinguish h, ?_⟩
  have hgiven : name ∈ ((distinguish owned [] owned).take position).reverse ↔
      name ∈ owned.take position := by
    have hmem : name ∈ distinguish owned [] (owned.take position) ∨ name ∈ [] ↔
        name ∈ owned.take position ∨ name ∈ [] := mem_distinguish_iff (List.mem_of_getElem? h)
    rw [List.mem_reverse, take_distinguish]
    simpa using hmem
  unfold chosen
  by_cases hearlier : name ∈ owned.take position
  · obtain ⟨ordinal, hleast, -, hfresh⟩ := exists_isLeast_fresh name
      (owned ++ ((distinguish owned [] owned).take position).reverse)
    rw [if_pos (hgiven.2 hearlier), hfresh]
    refine .renamed hearlier ?_
    -- the order of the names in use does not matter
    simpa [freeOrdinals] using hleast
  · rw [if_neg (mt hgiven.1 hearlier)]
    exact .kept hearlier

/-! ## The policy -/

/-- The simple accessor names of interfaces. -/
def simpleNames (stem : String) (interfaces : List InterfaceDisplays) : List String :=
  interfaces.map (nameFor stem ·.minimal)

/-- The accessor name that one of some interfaces owns: the qualified name if its simple name
stands at several positions, otherwise the simple name. -/
def ownName (stem : String) (interfaces : List InterfaceDisplays) (displays : InterfaceDisplays) :
    String :=
  if 1 < (positionsOf (simpleNames stem interfaces) (nameFor stem displays.minimal)).length then
    nameFor stem (stripGlobal displays.full)
  else nameFor stem displays.minimal

/-- The accessor names that interfaces own. -/
def ownNames (stem : String) (interfaces : List InterfaceDisplays) : List String :=
  interfaces.map (ownName stem interfaces)

theorem getElem?_simpleNames {stem : String} {interfaces : List InterfaceDisplays} {position : Nat}
    {displays : InterfaceDisplays} (h : interfaces[position]? = some displays) :
    (simpleNames stem interfaces)[position]? = some (nameFor stem displays.minimal) := by
  rw [simpleNames, List.getElem?_map, h, Option.map_some]

theorem baseNames_eq_ownNames (stem : String) (interfaces : List InterfaceDisplays) :
    baseNames stem interfaces (collisionsOf (simpleNames stem interfaces)).flatten =
      ownNames stem interfaces := by
  refine List.ext_getElem? fun position => ?_
  rw [baseNames, ownNames, List.getElem?_mapIdx, List.getElem?_map]
  cases hdisplays : interfaces[position]? with
  | none => rfl
  | some displays =>
    have hsimple : (simpleNames stem interfaces)[position]? =
        some (nameFor stem displays.minimal) := getElem?_simpleNames hdisplays
    have hcolliding := exists_mem_collisionsOf_iff hsimple
    rw [Option.map_some, Option.map_some, ownName]
    exact congrArg some (if_congr (List.mem_flatten.trans hcolliding) rfl rfl)

theorem collisions_resolve (stem : String) (interfaces : List InterfaceDisplays) :
    (resolve stem interfaces).collisions = collisionsOf (simpleNames stem interfaces) :=
  rfl

theorem names_resolve (stem : String) (interfaces : List InterfaceDisplays) :
    (resolve stem interfaces).names =
      distinguish (ownNames stem interfaces) [] (ownNames stem interfaces) := by
  rw [← baseNames_eq_ownNames]
  rfl

/-- The policy for accessor names. Each collision has all the positions of one simple name that stands
at several, in ascending order, and the collisions are sorted by their first positions; they come to
this in whatever order the groups of names are kept. An interface owns its qualified name if its
position is in a collision and its simple name if not. It goes by the name it owns, unless an earlier
one owns this too; then it goes by the first numbered name, from two on, that no interface owns and
no earlier one goes by. -/
theorem resolve_follows_policy (stem : String) (interfaces : List InterfaceDisplays) :
    (∀ groups : List (String × List Nat),
      groups.Perm (groupFrom [] 0 (simpleNames stem interfaces)) →
      ((groups.map (·.2)).filter (1 < ·.length)).mergeSort (· ≤ ·) =
        (resolve stem interfaces).collisions) ∧
    (∀ group : List Nat, group ∈ (resolve stem interfaces).collisions ↔ 1 < group.length ∧
      ∃ name, positionsOf (simpleNames stem interfaces) name = group) ∧
    (∀ group ∈ (resolve stem interfaces).collisions, group.Pairwise (· < ·)) ∧
    (resolve stem interfaces).collisions.Pairwise BeginsBefore ∧
    (resolve stem interfaces).names.length = interfaces.length ∧
    ∀ (position : Nat) (displays : InterfaceDisplays), interfaces[position]? = some displays →
      ∃ name, (resolve stem interfaces).names[position]? = some name ∧
        IsChoice (ownNames stem interfaces) (resolve stem interfaces).names position
          (ownName stem interfaces displays) name := by
  rw [collisions_resolve]
  refine ⟨fun groups => mergeSort_groups, fun group => mem_collisionsOf, ?_,
    pairwise_collisionsOf _, length_names_resolve stem interfaces, ?_⟩
  · intro group hgroup
    obtain ⟨-, name, rfl⟩ := mem_collisionsOf.1 hgroup
    exact pairwise_positionsOf _ name
  · intro position displays hdisplays
    have hown : (ownNames stem interfaces)[position]? =
        some (ownName stem interfaces displays) := by
      rw [ownNames, List.getElem?_map, hdisplays, Option.map_some]
    rw [names_resolve]
    exact isChoice_distinguish hown

/-- Contested interfaces between two others that share a simple name. -/
def surrounded : List InterfaceDisplays :=
  ⟨"IY", "global::A.IY"⟩ :: contested ++ [⟨"IY", "global::B.IY"⟩]

/-- Groups that are found in the opposite order come to the same two collisions, and the numbered
name of the third interface is the one that the policy asks for. -/
theorem resolve_follows_policy_surrounded :
    ((((groupFrom [] 0 (simpleNames "GetInner" surrounded)).reverse.map (·.2)).filter
      (1 < ·.length)).mergeSort (· ≤ ·)) = [[0, 4], [1, 2]] ∧
    surrounded[2]? = some ⟨"IX", "global::A_B.C.IX"⟩ ∧
    IsChoice (ownNames "GetInner" surrounded) (resolve "GetInner" surrounded).names 2
      "GetInnerA_B_C_IX" "GetInnerA_B_C_IX_3" := by
  obtain ⟨hgroups, -, -, -, -, hnames⟩ := resolve_follows_policy "GetInner" surrounded
  have hcollisions : (resolve "GetInner" surrounded).collisions = [[0, 4], [1, 2]] := by
    decide +kernel
  have hname : (resolve "GetInner" surrounded).names[2]? = some "GetInnerA_B_C_IX_3" := by
    decide +kernel
  have hown : ownName "GetInner" surrounded ⟨"IX", "global::A_B.C.IX"⟩ = "GetInnerA_B_C_IX" := by
    decide +kernel
  have hdisplays : surrounded[2]? = some ⟨"IX", "global::A_B.C.IX"⟩ := by decide
  obtain ⟨name, hgiven, hchoice⟩ := hnames 2 _ hdisplays
  obtain rfl : name = "GetInnerA_B_C_IX_3" := Option.some.inj (hgiven.symm.trans hname)
  rw [hown] at hchoice
  exact ⟨(hgroups _ (List.reverse_perm _)).trans hcollisions, hdisplays, hchoice⟩

end Accessor

end Forwarder
