import Mathlib.Data.List.Basic
import Forwarder.TypeExpr.Printer

/-!
# The text of arrays of arrays

An array is written as its element with a rank specifier behind it, so an array of arrays has its
specifiers from the innermost array to the outermost one. Source text reads them the other way
round: the first specifier behind the element belongs to the outermost array. A row of specifiers
can be taken apart again, so the two orders have the same text only where the ranks read the same
from both ends. For ranks that are all equal that is so.
-/

namespace Forwarder.TypeExpr

/-- An array of arrays over an element, given by the ranks from the outermost array to the innermost
one. -/
def arrays (element : TypeExpr) : List UInt64 → TypeExpr
  | [] => element
  | rank :: inner => .array (element.arrays inner) rank

/-- Rank specifiers in a row. A specifier is a pair of brackets with one comma less than the rank
between them. -/
def specifiers (ranks : List UInt64) : String :=
  String.join (ranks.map fun rank =>
    "[" ++ String.ofList (List.replicate (rank.toNat - 1) ',') ++ "]")

theorem specifiers_append (ranks others : List UInt64) :
    specifiers (ranks ++ others) = specifiers ranks ++ specifiers others := by
  rw [specifiers, List.map_append, String.join_append]
  rfl

theorem specifiers_singleton (rank : UInt64) : specifiers [rank] = rankText rank := by
  rw [specifiers, List.map_singleton, String.join_cons, String.join_nil, String.append_empty,
    rankText]

/-- Specifiers stand behind the element from the innermost array to the outermost one. -/
theorem display_arrays (style : Qualification) (element : TypeExpr) (ranks : List UInt64) :
    (element.arrays ranks).display style =
      element.display style ++ specifiers ranks.reverse := by
  induction ranks with
  | nil => exact String.append_empty.symm
  | cons rank inner ih =>
    rw [arrays, display, ih, List.reverse_cons, specifiers_append, specifiers_singleton,
      String.append_assoc]

/-! ## Taking specifiers apart -/

theorem toList_specifiers_cons (rank : UInt64) (rest : List UInt64) :
    (specifiers (rank :: rest)).toList =
      '[' :: (List.replicate (rank.toNat - 1) ',' ++ ']' :: (specifiers rest).toList) := by
  rw [specifiers, List.map_cons, String.join_cons, ← specifiers]
  simp only [String.toList_append, String.toList_ofList, List.append_assoc]
  rfl

/-- The commas of a specifier end where its closing bracket stands. -/
theorem eq_of_commas_eq {m n : Nat} {behind other : List Char}
    (h : List.replicate m ',' ++ ']' :: behind = List.replicate n ',' ++ ']' :: other) :
    m = n ∧ behind = other := by
  induction m generalizing n with
  | zero =>
    cases n with
    | zero => exact ⟨rfl, (List.cons.inj h).2⟩
    | succ n => exact absurd (List.cons.inj h).1 (by decide)
  | succ m ih =>
    cases n with
    | zero => exact absurd (List.cons.inj h).1 (by decide)
    | succ n =>
      obtain ⟨hcommas, hbehind⟩ := ih (List.cons.inj h).2
      exact ⟨congrArg Nat.succ hcommas, hbehind⟩

/-- A row of specifiers says which ranks it is made of, as no rank is zero. -/
theorem eq_of_specifiers_eq {ranks others : List UInt64} (hranks : ∀ rank ∈ ranks, 1 ≤ rank)
    (hothers : ∀ rank ∈ others, 1 ≤ rank) (h : specifiers ranks = specifiers others) :
    ranks = others := by
  induction ranks generalizing others with
  | nil =>
    cases others with
    | nil => rfl
    | cons rank rest =>
      have hlist := congrArg String.toList h
      rw [toList_specifiers_cons] at hlist
      exact absurd hlist (List.cons_ne_nil _ _).symm
  | cons rank rest ih =>
    have hlist := congrArg String.toList h
    cases others with
    | nil =>
      rw [toList_specifiers_cons] at hlist
      exact absurd hlist (List.cons_ne_nil _ _)
    | cons other rest' =>
      rw [toList_specifiers_cons, toList_specifiers_cons] at hlist
      obtain ⟨hcommas, hbehind⟩ := eq_of_commas_eq (List.cons.inj hlist).2
      have hrank : 1 ≤ rank.toNat := UInt64.le_iff_toNat_le.1 (hranks rank List.mem_cons_self)
      have hother : 1 ≤ other.toNat := UInt64.le_iff_toNat_le.1 (hothers other List.mem_cons_self)
      have hsame : rank = other := UInt64.toNat_inj.1 (by omega)
      rw [hsame, ih (fun rank hmem => hranks rank (List.mem_cons_of_mem _ hmem))
        (fun rank hmem => hothers rank (List.mem_cons_of_mem _ hmem))
        (String.toList_injective hbehind)]

/-- An array of arrays is written with its specifiers from the innermost array to the outermost one.
This is what source text has to say, with the outermost array first, exactly if the ranks are the
same read from either end. -/
theorem display_arrays_eq_iff (style : Qualification) (element : TypeExpr) {ranks : List UInt64}
    (hranks : ∀ rank ∈ ranks, 1 ≤ rank) :
    (element.arrays ranks).display style = element.display style ++ specifiers ranks.reverse ∧
      ((element.arrays ranks).display style = element.display style ++ specifiers ranks ↔
        ranks.reverse = ranks) := by
  refine ⟨display_arrays style element ranks, ?_⟩
  rw [display_arrays, String.append_right_inj]
  constructor
  · intro h
    exact eq_of_specifiers_eq (fun rank hmem => hranks rank (List.mem_reverse.1 hmem)) hranks h
  · intro h
    rw [h]

/-- Around a flat array of planes of flat arrays the order makes no difference. -/
theorem display_arrays_eq_iff_palindrome : (∀ rank ∈ [(1 : UInt64), 2, 1], 1 ≤ rank) ∧
    (Framework.int.arrays [1, 2, 1]).display .full =
      Framework.int.display .full ++ specifiers [1, 2, 1] := by
  have hranks : ∀ rank ∈ [(1 : UInt64), 2, 1], 1 ≤ rank := by simp
  exact ⟨hranks, (display_arrays_eq_iff .full Framework.int hranks).2.2 rfl⟩

/-- A flat array of planes is written as a plane of flat arrays has to be. -/
theorem exists_specifiers_reversed :
    (Framework.int.arrays [1, 2]).display .full = "int[,][]" ∧
      Framework.int.display .full ++ specifiers [1, 2] = "int[][,]" ∧
      (Framework.int.arrays [1, 2]).display .full ≠
        Framework.int.display .full ++ specifiers [1, 2] := by
  refine ⟨?_, ?_, ?_⟩ <;> decide +kernel

end Forwarder.TypeExpr
