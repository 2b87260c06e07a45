/-!
# The global alias

A qualified name may be written from the global namespace on, as `global::A.B`. Names are compared
and stored without that alias; exactly one leading alias is taken off.
-/

namespace Forwarder.Text

/-- The alias that begins a name written from the global namespace on. -/
def globalAlias : String := "global::"

/-- Takes one leading global alias off a name. -/
def stripGlobal (name : String) : String :=
  if globalAlias.toList.isPrefixOf name.toList then
    String.ofList (name.toList.drop globalAlias.length)
  else name

/-- A namespace as the library stores it: without the alias, and absent when nothing is left. -/
def normalizeScope (scope : Option String) : Option String :=
  (scope.map stripGlobal).filter (· ≠ "")

/-- The alias comes off the name it was put before. -/
@[simp] theorem stripGlobal_globalAlias_append (name : String) :
    stripGlobal (globalAlias ++ name) = name := by
  have h : globalAlias.toList.isPrefixOf (globalAlias ++ name).toList = true := by
    rw [String.toList_append, List.isPrefixOf_iff_prefix]
    exact List.prefix_append _ _
  rw [stripGlobal, if_pos h, String.toList_append, ← String.length_toList, List.drop_left]
  simp

end Forwarder.Text
