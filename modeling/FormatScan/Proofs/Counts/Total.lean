import FormatScan.Proofs.Counts.Lookup
import Mathlib.Algebra.GroupWithZero.Nat

/-!
# What counts come to

The total of counts is the sum of the numbers of their names. A sum of counts comes to the sum of
the totals, and entries of zero may be left out.
-/

namespace FormatScan.Counts

/-! ### Entries that satisfy a test -/

theorem get?_filter (c : Counts) (test : String → Nat → Bool) (name : String) :
    (c.filter test).get? name = (c.get? name).filter (test name) := by
  apply Option.ext
  intro n
  rw [Option.filter_eq_some_iff, get?_eq_some_iff, get?_eq_some_iff, filter, List.mem_filter]

theorem pairwise_names (c : Counts) : c.names.Pairwise (· < ·) := List.pairwise_map.2 c.sorted

/-! ### Totals -/

theorem total_eq_sum (c : Counts) : c.total = (c.entries.map (·.2)).sum := by
  rw [total, List.sum_eq_foldr, List.foldr_map]

/-- The total is the sum over the names. -/
theorem sum_count_names (c : Counts) : (c.names.map c.count).sum = c.total := by
  rw [total_eq_sum, names, List.map_map]
  refine congrArg List.sum (List.map_congr_left fun e he => ?_)
  rw [Function.comp_apply, count, get?_eq_some_iff.2 he, Option.getD_some]

theorem sum_addEntry (name : String) (n : Nat) (entries : List (String × Nat)) :
    ((addEntry name n entries).map (·.2)).sum = (entries.map (·.2)).sum + n := by
  fun_induction addEntry name n entries with
  | case1 => simp
  | case2 =>
      simp only [List.map_cons, List.sum_cons]
      omega
  | case3 =>
      simp only [List.map_cons, List.sum_cons]
      omega
  | case4 other m rest hlt hne ih =>
      simp only [List.map_cons, List.sum_cons, ih]
      omega

theorem total_add (c : Counts) (name : String) (n : Nat) : (c.add name n).total = c.total + n := by
  rw [total_eq_sum, total_eq_sum, add, sum_addEntry]

/-- The total of a sum is the sum of the totals. -/
theorem total_merge (a b : Counts) : (a.merge b).total = a.total + b.total := by
  rw [merge, total_eq_sum b]
  induction b.entries generalizing a with
  | nil => rfl
  | cons e rest ih =>
      rw [List.foldl_cons, ih, total_add, List.map_cons, List.sum_cons, Nat.add_assoc]

end FormatScan.Counts
