import FormatScan.Proofs.Regex.Places
import FormatScan.Regex.Ends

/-!
# Where matches end

An expression leads from the places where a match may begin to those where it may end. No place
leads nowhere, so that what follows an expression has a match only if the expression has one. Exact
bytes lead from the places in front of them to the places behind them.
-/

namespace FormatScan.Regex

/-! ### From no place to no place -/

theorem iterate_zero_of_eq_zero {step : Nat → Nat} (hstep : step 0 = 0) (count : Nat) :
    iterate step count 0 = 0 := by
  cases count with
  | zero => rfl
  | succ count => rw [iterate, hstep, if_pos rfl]

theorem reach_zero_of_eq_zero {step : Nat → Nat} (hstep : step 0 = 0) (count : Nat) :
    reach step count 0 0 = 0 := by
  cases count with
  | zero => rfl
  | succ count => simp [reach, hstep]

theorem spread_zero (rounds length mask : Nat) : spread rounds length mask 0 = 0 := by
  induction rounds generalizing length mask with
  | zero => rfl
  | succ rounds ih => rw [spread, Nat.zero_and, Nat.zero_shiftLeft, Nat.zero_or, ih]

theorem filterPlaces_zero (test : Nat → Bool) (depth start : Nat) :
    filterPlaces test depth start 0 = 0 := by
  cases depth with
  | zero => exact ite_self _
  | succ depth => rw [filterPlaces, if_pos rfl]

namespace Haystack

variable {h : Haystack}

theorem selectBy_zero (planes : List Nat) (set : Nat) : selectBy planes set 0 = 0 := by
  cases planes with
  | nil => exact ite_self _
  | cons plane planes => rw [selectBy, if_pos rfl]

theorem select_zero (h : Haystack) (set : ByteSet) : h.select set 0 = 0 := by
  rw [select, Nat.zero_and, selectBy_zero]

theorem filter_zero (h : Haystack) (test : Nat → Bool) : h.filter test 0 = 0 :=
  filterPlaces_zero test _ 0

theorem stepByte_zero (h : Haystack) (set : ByteSet) : h.stepByte set 0 = 0 := by
  rw [stepByte, select_zero, Nat.zero_shiftLeft]

theorem stepScalar_zero (h : Haystack) (set : Unicode.Ranges) : h.stepScalar set 0 = 0 := by
  simp only [stepScalar, filter_zero, Nat.zero_shiftLeft, Nat.or_self]

theorem lookAt_zero (h : Haystack) (condition : Look) : h.lookAt condition 0 = 0 := by
  cases condition <;> simp only [lookAt, Nat.zero_and, filter_zero]

/-- No match ends anywhere if none begins. -/
theorem ends_zero (h : Haystack) (e : Expr) : h.ends e 0 = 0 := by
  induction e with
  | empty => rfl
  | byte set => exact h.stepByte_zero set
  | scalar set => exact h.stepScalar_zero set
  | look condition => exact h.lookAt_zero condition
  | seq first second ihFirst ihSecond =>
      rw [ends, ihFirst, if_pos rfl]
  | alt left right ihLeft ihRight =>
      rw [ends, ihLeft, ihRight, Nat.or_self]
  | repeated min max greedy body ih =>
      have hstart : iterate (h.ends body) min 0 = 0 := iterate_zero_of_eq_zero ih min
      simp only [ends, hstart]
      split
      · exact spread_zero ..
      · exact reach_zero_of_eq_zero ih _
      · exact reach_zero_of_eq_zero ih _
  | group capture body ih => exact ih

/-! ### One expression after another -/

theorem ends_seq (h : Haystack) (first second : Expr) (s : Nat) :
    h.ends (.seq first second) s = h.ends second (h.ends first s) := by
  rw [ends]
  by_cases hnone : h.ends first s = 0
  · rw [if_pos hnone, hnone, ends_zero]
  · rw [if_neg hnone]

theorem ends_seqs_cons (h : Haystack) (e : Expr) (es : List Expr) (s : Nat) :
    h.ends (.seqs (e :: es)) s = h.ends (.seqs es) (h.ends e s) := by
  cases es with
  | nil => rfl
  | cons e' es' => exact h.ends_seq e (.seqs (e' :: es')) s

theorem ends_seqs_append (h : Haystack) (es es' : List Expr) (s : Nat) :
    h.ends (.seqs (es ++ es')) s = h.ends (.seqs es') (h.ends (.seqs es) s) := by
  induction es generalizing s with
  | nil => rfl
  | cons e es ih => rw [List.cons_append, ends_seqs_cons, ih, ends_seqs_cons]

/-- Whatever comes behind, there is a match only where the expressions in front have one. -/
theorem ends_seqs_ne_zero_of_append {es es' : List Expr} {s : Nat}
    (hmatch : h.ends (.seqs (es ++ es')) s ≠ 0) : h.ends (.seqs es) s ≠ 0 := by
  intro hnone
  apply hmatch
  rw [ends_seqs_append, hnone, ends_zero]

/-- A match is one that ends somewhere. -/
theorem isMatch_iff {e : Expr} : h.isMatch e = true ↔ h.ends e h.places ≠ 0 := bne_iff_ne

theorem isMatch_alt (h : Haystack) (left right : Expr) :
    h.isMatch (.alt left right) = (h.isMatch left || h.isMatch right) := by
  rw [Bool.eq_iff_iff, Bool.or_eq_true, isMatch_iff, isMatch_iff, isMatch_iff, ends, Ne,
    Nat.or_eq_zero_iff]
  omega

/-! ### Exact bytes -/

def bytesFrom (h : Haystack) (i : Nat) : List UInt8 := h.bytes.data.toList.drop i

theorem bytesFrom_eq_cons {i : Nat} (hi : i < h.size) :
    h.bytesFrom i = h.bytes[i] :: h.bytesFrom (i + 1) :=
  List.drop_eq_getElem_cons hi

theorem bytesFrom_eq_nil {i : Nat} (hi : h.size ≤ i) : h.bytesFrom i = [] :=
  List.drop_eq_nil_of_le hi

/-- A text stands at a place if its first byte does and the rest stands behind it. -/
theorem cons_prefix_bytesFrom {b : UInt8} {text : List UInt8} {i : Nat} :
    b :: text <+: h.bytesFrom i ↔ [b] <+: h.bytesFrom i ∧ text <+: h.bytesFrom (i + 1) := by
  by_cases hi : i < h.size
  · rw [bytesFrom_eq_cons hi, List.cons_prefix_cons, List.cons_prefix_cons]
    simp
  · rw [bytesFrom_eq_nil (Nat.le_of_not_lt hi)]
    simp

theorem testBit_stepByte_single (h : Haystack) (b : UInt8) (s i : Nat) :
    (h.stepByte (.single b.toNat) s).testBit (i + 1) = true ↔
      s.testBit i = true ∧ [b] <+: h.bytesFrom i := by
  have hset : (ByteSet.single b.toNat).bits < 2 ^ 256 := by
    rw [ByteSet.single, Nat.one_shiftLeft]
    exact Nat.pow_lt_pow_right (by decide) (UInt8.toNat_lt b)
  rw [stepByte, Nat.testBit_shiftLeft, Nat.add_sub_cancel, h.testBit_select hset]
  by_cases hi : i < h.size
  · have hbyte : byteAt h.bytes i = h.bytes[i].toNat := dif_pos hi
    have hsame : b.toNat = h.bytes[i].toNat ↔ b = h.bytes[i] := UInt8.toNat_inj
    rw [bytesFrom_eq_cons hi, List.cons_prefix_cons, hbyte]
    simp [ByteSet.single, Nat.one_shiftLeft, Nat.testBit_two_pow, hi, hsame]
  · rw [bytesFrom_eq_nil (Nat.le_of_not_lt hi)]
    simp [hi]

/-- Exact bytes lead behind themselves. -/
theorem testBit_ends_bytes (h : Haystack) (text : List UInt8) (s j : Nat) :
    (h.ends (.bytes text) s).testBit j = true ↔
      ∃ i, s.testBit i = true ∧ text <+: h.bytesFrom i ∧ j = i + text.length := by
  induction text generalizing s with
  | nil => simp [Expr.bytes, Expr.seqs, ends]
  | cons b text ih =>
      have hstep : h.ends (.bytes (b :: text)) s =
          h.ends (.bytes text) (h.stepByte (.single b.toNat) s) :=
        h.ends_seqs_cons _ _ s
      rw [hstep, ih]
      constructor
      · rintro ⟨k, hk, htext, rfl⟩
        cases k with
        | zero => simp [stepByte] at hk
        | succ i =>
            obtain ⟨hi, hb⟩ := (h.testBit_stepByte_single b s i).1 hk
            refine ⟨i, hi, cons_prefix_bytesFrom.2 ⟨hb, htext⟩, ?_⟩
            rw [List.length_cons]
            omega
      · rintro ⟨i, hi, htext, rfl⟩
        obtain ⟨hb, hrest⟩ := cons_prefix_bytesFrom.1 htext
        refine ⟨i + 1, (h.testBit_stepByte_single b s i).2 ⟨hi, hb⟩, hrest, ?_⟩
        rw [List.length_cons]
        omega

theorem exists_prefix_of_ends_bytes {text : List UInt8} {s : Nat}
    (hmatch : h.ends (.bytes text) s ≠ 0) : ∃ i, s.testBit i = true ∧ text <+: h.bytesFrom i := by
  obtain ⟨j, hj⟩ := Nat.exists_testBit_of_ne_zero hmatch
  obtain ⟨i, hi, htext, -⟩ := (h.testBit_ends_bytes text s j).1 hj
  exact ⟨i, hi, htext⟩

theorem ends_bytes_ne_zero {text : List UInt8} {s i : Nat} (hi : s.testBit i = true)
    (htext : text <+: h.bytesFrom i) : h.ends (.bytes text) s ≠ 0 := by
  intro hnone
  have hbit := (h.testBit_ends_bytes text s (i + text.length)).2 ⟨i, hi, htext, rfl⟩
  rw [hnone, Nat.zero_testBit] at hbit
  cases hbit

end Haystack

end FormatScan.Regex
