/-!
Numbers by names, in the order of the names. There is one list of entries for each assignment of
numbers to names; an entry of zero differs from none.

A number is kept in 64 bits. Sums are formed without a bound here, and `Fits` says that the outcome
can be kept.
-/

namespace FormatScan

structure Counts where
  entries : List (String × Nat)
  sorted : entries.Pairwise fun a b => a.1 < b.1

namespace Counts

instance : DecidableEq Counts := fun a b =>
  if h : a.entries = b.entries then
    isTrue (by cases a; cases b; cases h; rfl)
  else isFalse fun e => h (by rw [e])

/-- The numbers that can be kept are those below. -/
def limit : Nat := UInt64.size

def Fits (c : Counts) : Prop := ∀ e ∈ c.entries, e.2 < limit

instance : DecidablePred Fits := fun c => inferInstanceAs (Decidable (∀ e ∈ c.entries, e.2 < limit))

def empty : Counts := ⟨[], .nil⟩

instance : EmptyCollection Counts := ⟨empty⟩

def get? (c : Counts) (name : String) : Option Nat :=
  (c.entries.find? (·.1 = name)).map (·.2)

def count (c : Counts) (name : String) : Nat := (c.get? name).getD 0

def names (c : Counts) : List String := c.entries.map (·.1)

def total (c : Counts) : Nat := c.entries.foldr (fun e n => e.2 + n) 0

def addEntry (name : String) (n : Nat) : List (String × Nat) → List (String × Nat)
  | [] => [(name, n)]
  | (other, m) :: rest =>
    if name < other then (name, n) :: (other, m) :: rest
    else if name = other then (other, m + n) :: rest
    else (other, m) :: addEntry name n rest

theorem mem_names_of_mem_addEntry {name : String} {n : Nat} {entries : List (String × Nat)}
    {e : String × Nat} (h : e ∈ addEntry name n entries) :
    e.1 = name ∨ e.1 ∈ entries.map (·.1) := by
  fun_induction addEntry name n entries with
  | case1 => simp_all
  | case2 => grind
  | case3 => grind
  | case4 => grind

theorem pairwise_addEntry {name : String} {n : Nat} {entries : List (String × Nat)}
    (h : entries.Pairwise fun a b => a.1 < b.1) :
    (addEntry name n entries).Pairwise fun a b => a.1 < b.1 := by
  fun_induction addEntry name n entries with
  | case1 => simp
  | case2 other m rest hlt =>
    refine List.pairwise_cons.2 ⟨fun e he => ?_, h⟩
    rcases List.mem_cons.1 he with rfl | he
    · exact hlt
    · exact String.lt_trans hlt (List.rel_of_pairwise_cons h he)
  | case3 =>
    exact List.pairwise_cons.2 ⟨fun e he => List.rel_of_pairwise_cons h he, h.of_cons⟩
  | case4 other m rest hlt hne ih =>
    refine List.pairwise_cons.2 ⟨fun e he => ?_, ih h.of_cons⟩
    rcases mem_names_of_mem_addEntry he with he | he
    · rw [he]
      have hle : other ≤ name := String.not_lt.1 hlt
      exact Decidable.byContradiction fun hnot =>
        hne (String.le_antisymm (String.not_lt.1 hnot) hle)
    · obtain ⟨e', he', hname⟩ := List.mem_map.1 he
      rw [← hname]
      exact List.rel_of_pairwise_cons h he'

def add (c : Counts) (name : String) (n : Nat) : Counts :=
  ⟨addEntry name n c.entries, pairwise_addEntry c.sorted⟩

def erase (c : Counts) (name : String) : Counts :=
  ⟨c.entries.filter (·.1 ≠ name), c.sorted.filter _⟩

def filter (c : Counts) (test : String → Nat → Bool) : Counts :=
  ⟨c.entries.filter fun e => test e.1 e.2, c.sorted.filter _⟩

/-- Takes from the entry of a name, if there is one, down to zero. -/
def subtract (c : Counts) (name : String) (n : Nat) : Counts where
  entries := c.entries.map fun e => if e.1 = name then (e.1, e.2 - n) else e
  sorted := List.pairwise_map.2 (c.sorted.imp fun {a b} h => by
    simp only [apply_ite Prod.fst, ite_self]; exact h)

def merge (a b : Counts) : Counts := b.entries.foldl (fun c e => c.add e.1 e.2) a

def ofList (entries : List (String × Nat)) : Counts :=
  entries.foldl (fun c e => c.add e.1 e.2) empty

end Counts

end FormatScan
