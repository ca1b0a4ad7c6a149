import FormatScan.Proofs.Counts.Lookup

/-!
# Sums of counts

The entry of a name in a sum is the sum of the two entries, and the only one where there is only
one. So a sum neither makes nor loses an entry, not even one of zero, and sums may be taken in any
order and grouping.
-/

namespace FormatScan.Counts

theorem get?_foldl_add {entries : List (String × Nat)}
    (hsorted : entries.Pairwise fun a b => a.1 < b.1) (c : Counts) (name : String) :
    (entries.foldl (fun c e => c.add e.1 e.2) c).get? name =
      Option.merge (· + ·) (c.get? name) ((entries.find? (·.1 = name)).map (·.2)) := by
  induction entries generalizing c with
  | nil => simp
  | cons e rest ih =>
      rw [List.foldl_cons, ih hsorted.of_cons, get?_add]
      by_cases heq : e.1 = name
      · have hbehind : ∀ x ∈ rest, name < x.1 := by
          intro x hx
          rw [← heq]
          exact List.rel_of_pairwise_cons hsorted hx
        rw [find?_eq_none_of_lt hbehind, count]
        cases c.get? name <;> simp [heq]
      · simp [heq]

/-- A name has an entry in the sum if it has one in either part. -/
theorem get?_merge (a b : Counts) (name : String) :
    (a.merge b).get? name = Option.merge (· + ·) (a.get? name) (b.get? name) :=
  get?_foldl_add b.sorted a name

theorem count_merge (a b : Counts) (name : String) :
    (a.merge b).count name = a.count name + b.count name := by
  rw [count, get?_merge, count, count]
  cases a.get? name <;> cases b.get? name <;> simp

@[simp]
theorem merge_empty (a : Counts) : a.merge ∅ = a := rfl

@[simp]
theorem empty_merge (a : Counts) : Counts.merge ∅ a = a :=
  ext_get? fun name => by rw [get?_merge, get?_empty, Option.merge_none_left]

theorem merge_comm (a b : Counts) : a.merge b = b.merge a :=
  ext_get? fun name => by
    rw [get?_merge, get?_merge]
    exact Std.Commutative.comm _ _

theorem merge_assoc (a b c : Counts) : (a.merge b).merge c = a.merge (b.merge c) :=
  ext_get? fun name => by
    simp only [get?_merge]
    exact Std.Associative.assoc _ _ _

theorem merge_right_comm (a b c : Counts) : (a.merge b).merge c = (a.merge c).merge b := by
  rw [merge_assoc, merge_comm b c, ← merge_assoc]

/-- What is added to a part of a sum is added to the sum. -/
theorem merge_add (a b : Counts) (name : String) (n : Nat) :
    a.merge (b.add name n) = (a.merge b).add name n := by
  apply ext_get?
  intro other
  rw [get?_merge, get?_add, get?_add, get?_merge, count_merge]
  by_cases heq : name = other
  · rw [if_pos heq, if_pos heq]
    cases ha : a.get? other <;> simp [count, ha, Nat.add_assoc]
  · rw [if_neg heq, if_neg heq]

end FormatScan.Counts
