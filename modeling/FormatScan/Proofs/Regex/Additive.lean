import FormatScan.Proofs.Regex.Matching
import Mathlib.Logic.Function.Iterate

/-!
# Matches from more places

Every place leads where it leads on its own, whatever other places there are: from two sets of
places together an expression leads to the places that it leads to from one of them or the other. So
a match that begins at one of some places is still there when more places are allowed.
-/

namespace FormatScan.Regex

variable {step step' : Nat → Nat} {s t count frontier reached : Nat}

/-- The step leads from two sets of places together to where it leads from each of them. -/
def Distributes (step : Nat → Nat) : Prop := ∀ s t, step (s ||| t) = step s ||| step t

namespace Distributes

theorem comp (hstep : Distributes step) (hstep' : Distributes step') :
    Distributes fun s => step (step' s) := by
  intro s t
  calc step (step' (s ||| t)) = step (step' s ||| step' t) := by rw [hstep']
    _ = step (step' s) ||| step (step' t) := hstep _ _

theorem or (hstep : Distributes step) (hstep' : Distributes step') :
    Distributes fun s => step s ||| step' s := by
  intro s t
  calc step (s ||| t) ||| step' (s ||| t) = (step s ||| step t) ||| (step' s ||| step' t) := by
        rw [hstep, hstep']
    _ = (step s ||| step' s) ||| (step t ||| step' t) := by ac_rfl

theorem and (mask : Nat) : Distributes (· &&& mask) := fun _ _ => Nat.and_or_distrib_right ..

theorem shiftLeft (length : Nat) : Distributes (· <<< length) := fun _ _ => Nat.shiftLeft_or_distrib

theorem iterate (hstep : Distributes step) (count : Nat) : Distributes step^[count] := by
  induction count with
  | zero => exact fun _ _ => rfl
  | succ count ih => exact ih.comp hstep

end Distributes

/-! ### Repetitions -/

theorem iterate_eq (step : Nat → Nat) (count s : Nat) : iterate step count s = step^[count] s := by
  induction count generalizing s with
  | zero => rfl
  | succ count ih =>
      rw [iterate, Function.iterate_succ_apply]
      by_cases hfixed : step s = s
      · rw [if_pos hfixed, hfixed, Function.iterate_fixed hfixed]
      · rw [if_neg hfixed, ih]

theorem or_xor_and (reached next : Nat) :
    reached ||| (next ^^^ (next &&& reached)) = reached ||| next := by
  apply Nat.eq_of_testBit_eq
  intro i
  simp only [Nat.testBit_or, Nat.testBit_xor, Nat.testBit_and]
  cases reached.testBit i <;> cases next.testBit i <;> rfl

/-- Only the places that are new are gone on from, which comes to the same as to go on from all of
them every time. -/
theorem reach_eq (hstep : Distributes step)
    (hfrontier : reached ||| step frontier = reached ||| step reached) :
    reach step count frontier reached = (fun s => s ||| step s)^[count] reached := by
  induction count generalizing frontier reached with
  | zero => rfl
  | succ count ih =>
      rw [reach]
      have hnext := or_xor_and reached (step frontier)
      generalize step frontier ^^^ (step frontier &&& reached) = fresh at hnext
      have hall : reached ||| fresh = reached ||| step reached := hnext.trans hfrontier
      by_cases hnone : fresh = 0
      · rw [hnone, Nat.or_zero] at hall
        rw [if_pos hnone, Function.iterate_fixed hall.symm]
      · rw [if_neg hnone, Function.iterate_succ_apply, ← hall]
        apply ih
        calc reached ||| fresh ||| step fresh
            = reached ||| (step reached ||| step reached) ||| step fresh := by
              rw [hall, Nat.or_self]
          _ = reached ||| step reached ||| (step reached ||| step fresh) := by ac_rfl
          _ = reached ||| fresh ||| step (reached ||| fresh) := by rw [hstep, hall]

theorem distributes_reach (hstep : Distributes step) (count : Nat) :
    Distributes fun s => reach step count s s := by
  have hgrow : Distributes fun s => s ||| step s := Distributes.or (fun _ _ => rfl) hstep
  intro s t
  simp only [reach_eq hstep rfl]
  exact hgrow.iterate count s t

theorem distributes_spread (rounds length mask : Nat) :
    Distributes (spread rounds length mask) := by
  induction rounds generalizing length mask with
  | zero => exact fun _ _ => rfl
  | succ rounds ih =>
      have hdouble : Distributes fun s => s ||| ((s &&& mask) <<< length) :=
        Distributes.or (fun _ _ => rfl) ((Distributes.shiftLeft length).comp (.and mask))
      exact (ih _ _).comp hdouble

/-! ### Bytes and conditions -/

theorem filterPlaces_succ (test : Nat → Bool) (depth start s : Nat) :
    filterPlaces test (depth + 1) start s =
      filterPlaces test depth start (s % 2 ^ 2 ^ depth) |||
        (filterPlaces test depth (start + 2 ^ depth) (s >>> 2 ^ depth) <<< 2 ^ depth) := by
  rw [filterPlaces]
  simp only [Nat.one_shiftLeft]
  split
  · rename_i hnone
    rw [hnone, Nat.zero_mod, Nat.zero_shiftRight, filterPlaces_zero, filterPlaces_zero,
      Nat.zero_shiftLeft, Nat.or_zero]
  · rfl

/-- A test looks at each place on its own. -/
theorem distributes_filterPlaces (test : Nat → Bool) (depth start : Nat) :
    Distributes (filterPlaces test depth start) := by
  induction depth generalizing start with
  | zero =>
      intro s t
      simp only [filterPlaces]
      split
      · rfl
      · rfl
  | succ depth ih =>
      have hlow : Distributes (· % 2 ^ 2 ^ depth) := fun _ _ => Nat.or_mod_two_pow
      have hhigh : Distributes (· >>> 2 ^ depth) := fun _ _ => Nat.shiftRight_or_distrib
      have hfilter : Distributes fun s => filterPlaces test depth start (s % 2 ^ 2 ^ depth) |||
          (filterPlaces test depth (start + 2 ^ depth) (s >>> 2 ^ depth) <<< 2 ^ depth) :=
        ((ih start).comp hlow).or ((Distributes.shiftLeft _).comp ((ih _).comp hhigh))
      intro s t
      simp only [filterPlaces_succ]
      exact hfilter s t

namespace Haystack

theorem distributes_xor_and (plane : Nat) : Distributes fun s => s ^^^ (s &&& plane) := by
  intro s t
  apply Nat.eq_of_testBit_eq
  intro i
  simp only [Nat.testBit_or, Nat.testBit_xor, Nat.testBit_and]
  cases s.testBit i <;> cases t.testBit i <;> cases plane.testBit i <;> rfl

theorem distributes_selectBy (planes : List Nat) (set : Nat) :
    Distributes (selectBy planes set) := by
  induction planes generalizing set with
  | nil =>
      intro s t
      simp only [selectBy]
      split
      · rfl
      · rfl
  | cons plane planes ih =>
      have hcons (s : Nat) : selectBy (plane :: planes) set s =
          let off := set % (1 <<< (1 <<< planes.length))
          let on := set >>> (1 <<< planes.length)
          if off = on then selectBy planes off s
          else selectBy planes off (s ^^^ (s &&& plane)) ||| selectBy planes on (s &&& plane) := by
        rw [selectBy]
        split
        · rename_i hnone
          simp only [hnone, Nat.zero_and, Nat.xor_zero, selectBy_zero, Nat.or_self, ite_self]
        · rfl
      intro s t
      simp only [hcons]
      split
      · exact ih _ s t
      · exact ((ih _).comp (distributes_xor_and plane)).or ((ih _).comp (.and plane)) s t

theorem distributes_select (h : Haystack) (set : ByteSet) : Distributes (h.select set) :=
  (distributes_selectBy h.planes set.bits).comp (.and h.inner)

theorem distributes_filter (h : Haystack) (test : Nat → Bool) : Distributes (h.filter test) :=
  distributes_filterPlaces test _ 0

theorem distributes_stepScalar (h : Haystack) (set : Unicode.Ranges) :
    Distributes (h.stepScalar set) := by
  have hlength (test : Nat → Bool) (length : Nat) :
      Distributes fun s => h.filter test s <<< length :=
    (Distributes.shiftLeft length).comp (h.distributes_filter test)
  exact (((hlength _ 1).or (hlength _ 2)).or (hlength _ 3)).or (hlength _ 4)

theorem distributes_lookAt (h : Haystack) (condition : Look) :
    Distributes (h.lookAt condition) := by
  cases condition with
  | textStart => exact .and 1
  | textEnd => exact .and _
  | _ => exact h.distributes_filter _

/-! ### Expressions -/

/-- Where a match may end depends on each of its beginnings alone. -/
theorem distributes_ends (h : Haystack) (e : Expr) : Distributes (h.ends e) := by
  induction e with
  | empty => exact fun _ _ => rfl
  | byte set => exact (Distributes.shiftLeft 1).comp (h.distributes_select set)
  | scalar set => exact h.distributes_stepScalar set
  | look condition => exact h.distributes_lookAt condition
  | seq first second ihFirst ihSecond =>
      intro s t
      simp only [ends_seq]
      exact ihSecond.comp ihFirst s t
  | alt left right ihLeft ihRight => exact ihLeft.or ihRight
  | repeated min max greedy body ih =>
      have hstart : Distributes (iterate (h.ends body) min) := by
        intro s t
        simp only [iterate_eq]
        exact ih.iterate min s t
      intro s t
      simp only [ends]
      split
      · exact ((distributes_spread _ _ _).comp hstart) s t
      · exact ((distributes_reach ih _).comp hstart) s t
      · exact ((distributes_reach ih _).comp hstart) s t
  | group capture body ih => exact ih

/-- A match that begins at one of some places is there if it may begin at others, too. -/
theorem ends_ne_zero_of_and {h : Haystack} {e : Expr} (hmatch : h.ends e (s &&& t) ≠ 0) :
    h.ends e s ≠ 0 := by
  have hmore : s &&& t ||| s = s := by
    apply Nat.eq_of_testBit_eq
    intro i
    rw [Nat.testBit_or, Nat.testBit_and]
    cases s.testBit i <;> cases t.testBit i <;> rfl
  intro hnone
  rw [← hmore, h.distributes_ends, Nat.or_eq_zero_iff] at hnone
  exact hmatch hnone.1

end Haystack

end FormatScan.Regex
