import Forwarder.Text.GlobalAlias
import Forwarder.Text.Identifier

/-!
# Accessor names

Every decorated interface gets an accessor for the inner instance, named by a stem and the folded
minimal display of the interface. Interfaces that would get the same name switch, all of them, to
their folded qualified display. Folding can make even these meet; then the first keeps the name
and every later one gets the least number from two on that makes a name which no interface owns.
-/

namespace Forwarder

open Text

/-- The two displays of an interface that its accessor can be named after. -/
structure InterfaceDisplays where
  /-- The minimally qualified display. -/
  minimal : String
  /-- The fully qualified display. -/
  full : String
  deriving DecidableEq, Repr

/-- The accessor names of the interfaces of one decorator. -/
structure AccessorChoice where
  /-- One name for every interface, in their order. -/
  names : List String
  /-- The groups of positions whose simple names met. -/
  collisions : List (List Nat)
  deriving DecidableEq, Repr

/-- Whether any interfaces had to be told apart. -/
def AccessorChoice.isContested (resolved : AccessorChoice) : Bool := !resolved.collisions.isEmpty

namespace Accessor

/-- The accessor name after a display, whatever other accessors are called. -/
def nameFor (stem display : String) : String := stem ++ joinWords display

/-- Adds a position to the group of a name; a new group goes to the end. -/
def addToGroup (name : String) (position : Nat) :
    List (String × List Nat) → List (String × List Nat)
  | [] => [(name, [position])]
  | (other, positions) :: rest =>
    if other = name then (other, positions ++ [position]) :: rest
    else (other, positions) :: addToGroup name position rest

/-- Adds the positions of names to groups, the first name standing at a given position. -/
def groupFrom (groups : List (String × List Nat)) (position : Nat) :
    List String → List (String × List Nat)
  | [] => groups
  | name :: rest => groupFrom (addToGroup name position groups) (position + 1) rest

/-- The groups of at least two positions with the same name, in the order of their first
positions. -/
def collisionsOf (names : List String) : List (List Nat) :=
  ((groupFrom [] 0 names).map (·.2)).filter (1 < ·.length)

/-- A name with an ordinal. -/
def numbered (name : String) (ordinal : Nat) : String := name ++ "_" ++ toString ordinal

/-- The first numbered name, from an ordinal on, that is not in use. -/
def freshFrom (name : String) (used : List String) (ordinal : Nat) : Nat → String
  | 0 => ""
  | tries + 1 =>
    if numbered name ordinal ∈ used then freshFrom name used (ordinal + 1) tries
    else numbered name ordinal

/-- The numbered name with the least ordinal from two on that is not in use. Names with different
ordinals are different, so one more try than there are used names finds it. -/
def fresh (name : String) (used : List String) : String :=
  freshFrom name used 2 (used.length + 1)

/-- Numbers the names that have been taken before. No numbered name is one that an interface
owns. -/
def distinguish (owned taken : List String) : List String → List String
  | [] => []
  | name :: rest =>
    if name ∈ taken then
      let chosen := fresh name (owned ++ taken)
      chosen :: distinguish owned (chosen :: taken) rest
    else name :: distinguish owned (name :: taken) rest

/-- The names after simple collisions are resolved: a colliding interface goes by its qualified
display, any other by its simple name. -/
def baseNames (stem : String) (interfaces : List InterfaceDisplays) (colliding : List Nat) :
    List String :=
  interfaces.mapIdx fun position names =>
    if position ∈ colliding then nameFor stem (stripGlobal names.full)
    else nameFor stem names.minimal

/-- The accessor names of the interfaces of one decorator. -/
def resolve (stem : String) (interfaces : List InterfaceDisplays) : AccessorChoice :=
  let collisions := collisionsOf (interfaces.map (nameFor stem ·.minimal))
  let owned := baseNames stem interfaces collisions.flatten
  { names := distinguish owned [] owned, collisions }

end Accessor

end Forwarder
