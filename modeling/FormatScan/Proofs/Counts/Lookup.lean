import FormatScan.Counts
import FormatScan.Proofs.Entries
import Mathlib.Data.List.Nodup
import Mathlib.Data.List.Perm.Basic

/-!
# What an entry becomes

Counts are told apart by their entries alone: two that give every name the same entry are equal.
So each operation is described by what it does to the entry of a name, and no later proof opens the
list of entries.
-/

namespace FormatScan.Counts

variable {name other : String} {n : Nat} {a b c : Counts}

theorem nodup_names (c : Counts) : c.names.Nodup := by
  have hlt : c.names.Pairwise (· < ·) := List.pairwise_map.2 c.sorted
  refine hlt.imp ?_
  intro x y hxy heq
  rw [heq] at hxy
  exact String.lt_irrefl y hxy

/-- There is one entry for each name, and it can be looked up. -/
theorem get?_eq_some_iff : c.get? name = some n ↔ (name, n) ∈ c.entries :=
  find?_map_eq_some_iff_of_nodup c.nodup_names

theorem mem_names_iff : name ∈ c.names ↔ c.get? name ≠ none := by
  rw [Option.ne_none_iff_exists', names, List.mem_map]
  constructor
  · rintro ⟨e, he, rfl⟩
    exact ⟨e.2, get?_eq_some_iff.2 he⟩
  · rintro ⟨n, hentry⟩
    exact ⟨(name, n), get?_eq_some_iff.1 hentry, rfl⟩

/-- Counts with the same entries are equal, because the names are in order. -/
theorem ext_get? (h : ∀ name, a.get? name = b.get? name) : a = b := by
  have hmem : ∀ e, e ∈ a.entries ↔ e ∈ b.entries := by
    intro e
    rw [← get?_eq_some_iff (c := a), ← get?_eq_some_iff (c := b), h]
  have hperm : a.entries.Perm b.entries :=
    (List.perm_ext_iff_of_nodup (List.Nodup.of_map _ a.nodup_names)
      (List.Nodup.of_map _ b.nodup_names)).2 hmem
  have heq : a.entries = b.entries :=
    hperm.eq_of_pairwise (fun x y _ _ hxy hyx => absurd hxy (String.lt_asymm hyx)) a.sorted b.sorted
  cases a
  cases b
  cases heq
  rfl

@[simp]
theorem get?_empty : (∅ : Counts).get? name = none := rfl

@[simp]
theorem count_empty : (∅ : Counts).count name = 0 := rfl

/-! ### Adding to an entry -/

theorem find?_eq_none_of_lt {entries : List (String × Nat)} (hlt : ∀ e ∈ entries, name < e.1) :
    entries.find? (·.1 = name) = none := by
  rw [List.find?_eq_none]
  intro e he heq
  have hname : e.1 = name := by simpa using heq
  have hself := hlt e he
  rw [hname] at hself
  exact String.lt_irrefl name hself

theorem find?_addEntry_self {entries : List (String × Nat)}
    (hsorted : entries.Pairwise fun a b => a.1 < b.1) :
    (addEntry name n entries).find? (·.1 = name) =
      some (name, ((entries.find? (·.1 = name)).map (·.2)).getD 0 + n) := by
  fun_induction addEntry name n entries with
  | case1 => simp
  | case2 other m rest hlt =>
      have hbehind : ∀ e ∈ (other, m) :: rest, name < e.1 := by
        intro e he
        rcases List.mem_cons.1 he with rfl | he
        · exact hlt
        · exact String.lt_trans hlt (List.rel_of_pairwise_cons hsorted he)
      simp [find?_eq_none_of_lt hbehind]
  | case3 => simp
  | case4 other m rest hlt hne ih =>
      have hne' : ¬other = name := fun heq => hne heq.symm
      simpa [hne'] using ih hsorted.of_cons

theorem find?_addEntry_of_ne {entries : List (String × Nat)} (hne : other ≠ name) :
    (addEntry other n entries).find? (·.1 = name) = entries.find? (·.1 = name) := by
  fun_induction addEntry other n entries with
  | case1 => simp [hne]
  | case2 => simp [hne]
  | case3 => simp [hne]
  | case4 third m rest hlt hne' ih =>
      by_cases heq : third = name
      · simp [heq]
      · simpa [heq] using ih

/-- Adding makes an entry, if with a zero only. -/
theorem get?_add (c : Counts) (other : String) (n : Nat) (name : String) :
    (c.add other n).get? name = if other = name then some (c.count name + n) else c.get? name := by
  by_cases heq : other = name
  · rw [if_pos heq, heq, get?, add, find?_addEntry_self c.sorted]
    rfl
  · rw [if_neg heq, get?, add, find?_addEntry_of_ne heq]
    rfl

theorem count_add (c : Counts) (other : String) (n : Nat) (name : String) :
    (c.add other n).count name = c.count name + if other = name then n else 0 := by
  rw [count, get?_add]
  by_cases heq : other = name <;> simp [heq, count]

/-! ### Taking away from an entry, and dropping one -/

theorem get?_erase (c : Counts) (other name : String) :
    (c.erase other).get? name = if other = name then none else c.get? name := by
  have hfind : (c.erase other).entries.find? (·.1 = name) =
      c.entries.find? fun e => decide (e.1 ≠ other ∧ e.1 = name) := by
    simp [erase, List.find?_filter]
  rw [get?, hfind]
  by_cases heq : other = name
  · rw [if_pos heq, Option.map_eq_none_iff, List.find?_eq_none]
    intro e _
    simp [heq]
  · have hsame : (fun e : String × Nat => decide (e.1 ≠ other ∧ e.1 = name)) =
        fun e => decide (e.1 = name) := by
      funext e
      by_cases hname : e.1 = name
      · simp [hname, Ne.symm heq]
      · simp [hname]
    rw [if_neg heq, hsame, get?]

theorem mem_names_erase (c : Counts) (other name : String) :
    name ∈ (c.erase other).names ↔ name ≠ other ∧ name ∈ c.names := by
  simp only [names, erase, List.mem_map, List.mem_filter, decide_eq_true_iff]
  constructor
  · rintro ⟨e, ⟨he, hne⟩, rfl⟩
    exact ⟨hne, e, he, rfl⟩
  · rintro ⟨hne, e, he, rfl⟩
    exact ⟨e, ⟨he, hne⟩, rfl⟩

theorem count_erase (c : Counts) (other name : String) :
    (c.erase other).count name = if other = name then 0 else c.count name := by
  rw [count, get?_erase]
  by_cases heq : other = name <;> simp [heq, count]

/-- Taking away makes no entry. -/
theorem get?_subtract (c : Counts) (other : String) (n : Nat) (name : String) :
    (c.subtract other n).get? name =
      if other = name then (c.get? name).map (· - n) else c.get? name := by
  have hname : ((fun e : String × Nat => decide (e.1 = name)) ∘
      fun e => if e.1 = other then (e.1, e.2 - n) else e) = fun e => decide (e.1 = name) := by
    funext e
    by_cases heq : e.1 = other <;> simp [heq]
  rw [get?, subtract, List.find?_map, hname, get?]
  cases he : c.entries.find? (·.1 = name) with
  | none => simp
  | some e =>
      have hname : e.1 = name := by simpa using List.find?_some he
      by_cases heq : other = name
      · simp [heq, hname]
      · simp [heq, hname, Ne.symm heq]

theorem names_subtract (c : Counts) (other : String) (n : Nat) :
    (c.subtract other n).names = c.names := by
  simp only [names, subtract, List.map_map]
  apply List.map_congr_left
  intro e _
  simp only [Function.comp_apply]
  split <;> rfl

/-- There is nothing below zero. -/
theorem count_subtract (c : Counts) (other : String) (n : Nat) (name : String) :
    (c.subtract other n).count name = c.count name - if other = name then n else 0 := by
  rw [count, get?_subtract, count]
  by_cases heq : other = name
  · cases c.get? name <;> simp [heq]
  · simp [heq]

end FormatScan.Counts
