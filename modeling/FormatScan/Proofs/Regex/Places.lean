import FormatScan.Regex.Haystack
import Mathlib.Algebra.Group.Nat.Defs

/-!
# Sets of places

A set of places is a number, and a place is in the set if its bit is on. Here the bits of the sets
that a haystack is made of are computed, and of those that are sorted out by bytes.
-/

namespace FormatScan.Regex

/-! ### Planes -/

theorem testBit_placesWhere (stop : Nat) (test : Nat → Bool) (depth start i : Nat) :
    (placesWhere stop test depth start).testBit i =
      (decide (i < 2 ^ depth) && (decide (start + i < stop) && test (start + i))) := by
  induction depth generalizing start i with
  | zero =>
      cases i with
      | zero =>
          rw [placesWhere]
          cases decide (start < stop) && test start <;> simp
      | succ i =>
          have hout : ¬i + 1 < 2 ^ 0 := by omega
          rw [placesWhere, decide_eq_false hout, Bool.false_and]
          split <;> simp [Nat.testBit_succ]
  | succ depth ih =>
      rw [placesWhere]
      by_cases hstop : stop ≤ start
      · have hout : ¬start + i < stop := by omega
        simp [hstop, hout]
      · rw [if_neg hstop, Nat.testBit_or, Nat.testBit_shiftLeft, ih, ih, Nat.one_shiftLeft]
        have hpow : 2 ^ (depth + 1) = 2 ^ depth + 2 ^ depth := by omega
        by_cases hlow : i < 2 ^ depth
        · have hwide : i < 2 ^ (depth + 1) := by omega
          have hnot : ¬2 ^ depth ≤ i := by omega
          simp [hlow, hwide, hnot]
        · have hge : 2 ^ depth ≤ i := by omega
          have hsum : start + 2 ^ depth + (i - 2 ^ depth) = start + i := by omega
          have hiff : i - 2 ^ depth < 2 ^ depth ↔ i < 2 ^ (depth + 1) := by omega
          simp only [hlow, hge, hsum, hiff, decide_false, decide_true, Bool.false_and,
            Bool.false_or, Bool.true_and]

theorem lt_two_pow_depthOf (n : Nat) : n < 2 ^ depthOf n := Nat.lt_log2_self

theorem testBit_planeOf (bytes : ByteArray) (bit i : Nat) :
    (planeOf bytes bit).testBit i =
      (decide (i < bytes.size) && (byteAt bytes i).testBit bit) := by
  rw [planeOf, testBit_placesWhere, Nat.zero_add]
  by_cases hi : i < bytes.size
  · have hdepth : i < 2 ^ depthOf bytes.size := Nat.lt_trans hi (lt_two_pow_depthOf _)
    simp [hi, hdepth]
  · simp [hi]

namespace Haystack

def codeAt (i : Nat) : List Nat → Nat
  | [] => 0
  | plane :: planes => 2 ^ planes.length * (plane.testBit i).toNat + codeAt i planes

theorem codeAt_lt (i : Nat) (planes : List Nat) : codeAt i planes < 2 ^ planes.length := by
  induction planes with
  | nil => exact Nat.one_pos
  | cons plane planes ih =>
      rw [codeAt, List.length_cons, Nat.pow_succ]
      cases plane.testBit i with
      | false =>
          rw [Bool.toNat_false]
          omega
      | true =>
          rw [Bool.toNat_true]
          omega

/-- The planes together hold the bytes. -/
theorem codeAt_planes {bytes : ByteArray} {i : Nat} (hi : i < bytes.size) (n : Nat) :
    codeAt i ((List.range n).reverse.map (planeOf bytes)) = byteAt bytes i % 2 ^ n := by
  induction n with
  | zero => simp [codeAt, Nat.mod_one]
  | succ n ih =>
      have hbit : (planeOf bytes n).testBit i = (byteAt bytes i).testBit n := by
        rw [testBit_planeOf, decide_eq_true hi, Bool.true_and]
      rw [List.range_succ, List.reverse_append, List.reverse_singleton, List.singleton_append,
        List.map_cons, codeAt, ih, hbit, List.length_map, List.length_reverse, List.length_range,
        Nat.toNat_testBit, Nat.mod_pow_succ, Nat.add_comm]

/-- Places are sorted out by what the planes say there. -/
theorem testBit_selectBy (planes : List Nat) {set : Nat} (hset : set < 2 ^ 2 ^ planes.length)
    (s i : Nat) :
    (selectBy planes set s).testBit i = (s.testBit i && set.testBit (codeAt i planes)) := by
  induction planes generalizing set s with
  | nil =>
      have hle : set < 2 := hset
      rw [selectBy, codeAt]
      by_cases hzero : set = 0
      · simp [hzero]
      · have hone : set = 1 := by omega
        simp [hone]
  | cons plane planes ih =>
      rw [selectBy]
      by_cases hs : s = 0
      · simp [hs]
      · have hpow : 2 ^ 2 ^ (plane :: planes).length =
            2 ^ 2 ^ planes.length * 2 ^ 2 ^ planes.length := by
          rw [List.length_cons, Nat.pow_succ, Nat.mul_two, Nat.pow_add]
        have hoff : set % 2 ^ 2 ^ planes.length < 2 ^ 2 ^ planes.length :=
          Nat.mod_lt _ (Nat.two_pow_pos _)
        have hon : set >>> 2 ^ planes.length < 2 ^ 2 ^ planes.length := by
          rw [Nat.shiftRight_eq_div_pow]
          exact Nat.div_lt_of_lt_mul (hpow ▸ hset)
        have hcode := codeAt_lt i planes
        have hoffBit : (set % 2 ^ 2 ^ planes.length).testBit (codeAt i planes) =
            set.testBit (codeAt i planes) := by
          rw [Nat.testBit_mod_two_pow, decide_eq_true hcode, Bool.true_and]
        have honBit : (set >>> 2 ^ planes.length).testBit (codeAt i planes) =
            set.testBit (2 ^ planes.length + codeAt i planes) := Nat.testBit_shiftRight _
        simp only [hs, if_false, Nat.one_shiftLeft, codeAt]
        -- Where the two halves of the set are the same the plane is not asked.
        by_cases hsame : set % 2 ^ 2 ^ planes.length = set >>> 2 ^ planes.length
        · rw [if_pos hsame, ih hoff]
          cases plane.testBit i with
          | false => simp only [Bool.toNat_false, Nat.mul_zero, Nat.zero_add, hoffBit]
          | true => simp only [Bool.toNat_true, Nat.mul_one, ← honBit, hsame]
        · rw [if_neg hsame, Nat.testBit_or, ih hoff, ih hon, Nat.testBit_xor, Nat.testBit_and,
            hoffBit, honBit]
          cases hplane : plane.testBit i <;> cases s.testBit i <;> simp

variable {h : Haystack}

theorem testBit_inner (h : Haystack) (i : Nat) : h.inner.testBit i = decide (i < h.size) := by
  rw [inner, Nat.one_shiftLeft, Nat.testBit_two_pow_sub_one]

theorem testBit_places (h : Haystack) (i : Nat) : h.places.testBit i = decide (i ≤ h.size) := by
  rw [places, Nat.one_shiftLeft, Nat.testBit_two_pow_sub_one, decide_eq_decide, Nat.lt_succ_iff]

theorem byteAt_lt (bytes : ByteArray) (i : Nat) : byteAt bytes i < 2 ^ 8 := by
  rw [byteAt]
  split
  · exact UInt8.toNat_lt _
  · decide

theorem codeAt_haystack {i : Nat} (hi : i < h.size) : codeAt i h.planes = byteAt h.bytes i := by
  have hrange : [7, 6, 5, 4, 3, 2, 1, 0] = (List.range 8).reverse := rfl
  rw [h.planes_eq, hrange, codeAt_planes hi, Nat.mod_eq_of_lt (byteAt_lt h.bytes i)]

/-- The places that a set of bytes selects are those in front of a byte of the set. -/
theorem testBit_select (h : Haystack) {set : ByteSet} (hset : set.bits < 2 ^ 256) (s i : Nat) :
    (h.select set s).testBit i =
      (s.testBit i && (decide (i < h.size) && set.bits.testBit (byteAt h.bytes i))) := by
  have hlength : h.planes.length = 8 := by rw [h.planes_eq, List.length_map]; rfl
  have hbound : set.bits < 2 ^ 2 ^ h.planes.length := by rw [hlength]; exact hset
  rw [select, testBit_selectBy _ hbound, Nat.testBit_and, testBit_inner, Bool.and_assoc]
  by_cases hi : i < h.size
  · rw [codeAt_haystack hi]
  · simp [hi]

end Haystack

end FormatScan.Regex
