import FormatScan.Proofs.Regex.Matching
import Mathlib.Tactic.Ring

/-!
# Any number of bytes

A gap leads from a place to all places behind it. It is gone through by steps that double in length,
so that a few rounds are enough for every distance within the bytes.
-/

namespace FormatScan.Regex

variable {n : Nat}

/-- Of the steps of one length those stay within `n` places that begin far enough in front. -/
theorem testBit_and_shiftRight {length mask : Nat}
    (hmask : ∀ i, mask.testBit i = decide (i + length ≤ n)) (i : Nat) :
    (mask &&& (mask >>> length)).testBit i = decide (i + length * 2 ≤ n) := by
  rw [Nat.testBit_and, Nat.testBit_shiftRight, hmask, hmask, ← Bool.decide_and, decide_eq_decide]
  omega

theorem testBit_or_shiftLeft {length mask : Nat}
    (hmask : ∀ i, mask.testBit i = decide (i + length ≤ n)) (s i : Nat) :
    (s ||| ((s &&& mask) <<< length)).testBit i = true ↔
      s.testBit i = true ∨ ∃ k, s.testBit k = true ∧ i = k + length ∧ i ≤ n := by
  rw [Nat.testBit_or, Bool.or_eq_true, Nat.testBit_shiftLeft, Nat.testBit_and, hmask]
  simp only [Bool.and_eq_true, decide_eq_true_eq]
  refine or_congr_right ?_
  constructor
  · rintro ⟨hle, hbit, hbound⟩
    exact ⟨i - length, hbit, by omega, by omega⟩
  · rintro ⟨k, hbit, rfl, hbound⟩
    rw [Nat.add_sub_cancel]
    exact ⟨Nat.le_add_left _ _, hbit, hbound⟩

/-- The places at multiples of the first length from a place, as far as the rounds lead and within
`n` places. -/
theorem testBit_spread {rounds length mask : Nat}
    (hmask : ∀ i, mask.testBit i = decide (i + length ≤ n)) (s j : Nat) :
    (spread rounds length mask s).testBit j = true ↔
      ∃ i k, s.testBit i = true ∧ k < 2 ^ rounds ∧ j = i + k * length ∧ (k = 0 ∨ j ≤ n) := by
  induction rounds generalizing length mask s with
  | zero =>
      constructor
      · intro hbit
        exact ⟨j, 0, hbit, Nat.one_pos, by omega, .inl rfl⟩
      · rintro ⟨i, k, hbit, hk, rfl, -⟩
        have hzero : k = 0 := by omega
        rw [hzero, Nat.zero_mul, Nat.add_zero]
        exact hbit
  | succ rounds ih =>
      rw [spread, ih (testBit_and_shiftRight hmask)]
      simp only [testBit_or_shiftLeft hmask]
      have hpow : 2 ^ (rounds + 1) = 2 * 2 ^ rounds := by rw [Nat.pow_succ, Nat.mul_comm]
      constructor
      -- steps of the double length, with or without one of the single length in front
      · rintro ⟨i, k, hbit | ⟨i, hbit, rfl, hbound⟩, hk, rfl, hwithin⟩
        · exact ⟨i, 2 * k, hbit, by omega, by ring, by omega⟩
        · refine ⟨i, 2 * k + 1, hbit, by omega, by ring, .inr ?_⟩
          rcases hwithin with rfl | hwithin
          · omega
          · exact hwithin
      · rintro ⟨i, k, hbit, hk, rfl, hwithin⟩
        obtain ⟨half, rfl | rfl⟩ := Nat.even_or_odd' k
        · exact ⟨i, half, .inl hbit, by omega, by ring, hwithin.imp (by omega) id⟩
        · have hbound : i + (2 * half + 1) * length ≤ n := hwithin.resolve_left (by omega)
          have hlength : length ≤ (2 * half + 1) * length :=
            Nat.le_mul_of_pos_left length (Nat.succ_pos _)
          exact ⟨i + length, half, .inr ⟨i, hbit, rfl, by omega⟩, by omega, by ring, .inr hbound⟩

namespace Haystack

variable {h : Haystack}

theorem testBit_select_full (h : Haystack) (i : Nat) :
    (h.select .full h.inner).testBit i = decide (i + 1 ≤ h.size) := by
  have hset : ByteSet.full.bits < 2 ^ 256 := by decide +kernel
  have hfull : ByteSet.full.bits.testBit (byteAt h.bytes i) = true := by
    have hlt := byteAt_lt h.bytes i
    rw [ByteSet.full, Nat.one_shiftLeft, Nat.testBit_two_pow_sub_one, decide_eq_true_iff]
    omega
  rw [h.testBit_select hset, h.testBit_inner, hfull, Bool.and_true, Bool.and_self]
  rfl

/-- As many bytes as needed are any number of bytes. -/
theorem ends_gap (h : Haystack) (greedy : Bool) (s : Nat) :
    h.ends (.repeated 0 none greedy (.byte .full)) s = h.spreadByte .full s := rfl

/-- A gap leads on to the same place and to all places behind it. -/
theorem testBit_ends_gap (h : Haystack) (greedy : Bool) (s j : Nat) :
    (h.ends (.repeated 0 none greedy (.byte .full)) s).testBit j = true ↔
      ∃ i, s.testBit i = true ∧ i ≤ j ∧ (j = i ∨ j ≤ h.size) := by
  rw [ends_gap, spreadByte, testBit_spread h.testBit_select_full]
  constructor
  · rintro ⟨i, k, hbit, -, rfl, hwithin⟩
    exact ⟨i, hbit, by omega, hwithin.imp (by omega) id⟩
  · rintro ⟨i, hbit, hle, hwithin⟩
    have hrounds := lt_two_pow_depthOf h.size
    have hpos : 0 < 2 ^ depthOf h.size := Nat.two_pow_pos _
    exact ⟨i, j - i, hbit, by omega, by omega, hwithin.imp (by omega) id⟩

/-- Bytes behind a gap stand at some place from the beginning of the gap on. -/
theorem ends_gap_bytes_ne_zero_iff {text : List UInt8} (hne : text ≠ []) (greedy : Bool) (s : Nat) :
    h.ends (.seqs (.repeated 0 none greedy (.byte .full) ::
        text.map fun b => .byte (.single b.toNat))) s ≠ 0 ↔
      ∃ i j, s.testBit i = true ∧ i ≤ j ∧ text <+: h.bytesFrom j := by
  rw [ends_seqs_cons]
  constructor
  · intro hmatch
    obtain ⟨j, hj, htext⟩ := exists_prefix_of_ends_bytes hmatch
    obtain ⟨i, hi, hle, -⟩ := (h.testBit_ends_gap greedy s j).1 hj
    exact ⟨i, j, hi, hle, htext⟩
  · rintro ⟨i, j, hi, hle, htext⟩
    have hinside : j < h.size := by
      by_contra hout
      rw [bytesFrom_eq_nil (Nat.le_of_not_lt hout)] at htext
      exact hne (List.prefix_nil.1 htext)
    exact ends_bytes_ne_zero
      ((h.testBit_ends_gap greedy s j).2 ⟨i, hi, hle, .inr (Nat.le_of_lt hinside)⟩) htext

end Haystack

end FormatScan.Regex
