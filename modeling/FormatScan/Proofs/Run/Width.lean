import FormatScan.Proofs.Run.Accounting

/-!
# Runs whose numbers can be kept

An item adds at most one to the detections of a name and to the number of files. So no number of a
run is greater than the number of its items, and a run of not too many of them never forms a sum
that cannot be kept: it comes to what it would come to with checks.
-/

namespace FormatScan

variable {α : Type} {visit : Visit α} {warning? : Nat → α → Option Event} {refuses : Event → Bool}

/-- Numbers below a bound add up to no more than the bound as many times. -/
theorem sum_map_le_length_mul {items : List α} {f : α → Nat} {n : Nat} (hle : ∀ item, f item ≤ n) :
    (items.map f).sum ≤ items.length * n := by
  have hall : ∀ k ∈ items.map f, k ≤ n := List.forall_mem_map.2 fun item _ => hle item
  simpa using List.sum_le_card_nsmul _ n hall

namespace Stats

variable {s : Stats} {n : Nat} {signatures : List Signature} {policy : ContainerPolicy}

structure AtMost (n : Nat) (s : Stats) : Prop where
  detections (name : String) : s.detections name ≤ n
  filesProcessed : s.filesProcessed ≤ n

/-- Numbers up to a bound that can be kept can all be kept. -/
theorem AtMost.fits (hle : s.AtMost n) (hlimit : n < Counts.limit) : s.Fits := by
  rw [fits_iff]
  refine ⟨fun name => ?_, fun name => ?_, Nat.lt_of_le_of_lt hle.filesProcessed hlimit⟩
  · have hcount : s.count name ≤ s.detections name := Nat.le_add_right _ _
    exact Nat.lt_of_le_of_lt (hcount.trans (hle.detections name)) hlimit
  · have hembedded : s.embeddedCount name ≤ s.detections name := Nat.le_add_left _ _
    exact Nat.lt_of_le_of_lt (hembedded.trans (hle.detections name)) hlimit

theorem AtMost.of_lowers {moved : String → Prop} {after : Stats} (hle : s.AtMost n)
    (hlowers : Lowers moved s after) : after.AtMost n :=
  ⟨fun name => (hlowers.detections_le name).trans (hle.detections name),
    hlowers.filesProcessed.trans_le hle.filesProcessed⟩

/-- The sum over the derived formats is no more than the bound for each of them. -/
theorem AtMost.derivedCount_le (hle : s.AtMost n) (policy : ContainerPolicy) :
    derivedCount policy s ≤ policy.derived.length * n := by
  rw [derivedCount_eq_sum]
  exact sum_map_le_length_mul fun name => (Nat.le_add_right _ _).trans (hle.detections name)

/-- There is room for the sum over the derived formats, each of which has `n` files at most. -/
theorem AtMost.correct?_eq (hle : s.AtMost n)
    (hroom : (policy.derived.length + 1) * n < Counts.limit) :
    correct? signatures policy s = some (correct signatures policy s) := by
  rw [Nat.succ_mul] at hroom
  rw [correct?_eq_some_iff signatures policy (hle.fits (by omega))]
  refine ⟨?_, fun name _ => ?_, rfl⟩
  · have hderived := (hle.of_lowers (lowers_deduct (fun _ => False) signatures s)).derivedCount_le
      policy
    omega
  · have hdetections := (hle.of_lowers
      (lowers_deducted (fun _ => False) signatures policy s)).detections name
    omega

end Stats

/-- Each item adds one at most to each number. -/
theorem Visit.Settles.atMost_mergeAll (hsettles : visit.Settles warning?) (engine : Engine)
    (items : List α) :
    (Stats.mergeAll (items.map (share visit engine))).AtMost items.length := by
  have hfiles (item : α) : (share visit engine item).filesProcessed ≤ 1 := by
    rw [hsettles.filesProcessed_share 0 item]
    split <;> omega
  constructor
  · intro name
    rw [Stats.detections_mergeAll, List.map_map, ← Nat.mul_one items.length]
    exact sum_map_le_length_mul fun item => (hsettles.bounded engine item name).trans (hfiles item)
  · rw [Stats.filesProcessed_mergeAll, List.map_map, ← Nat.mul_one items.length]
    exact sum_map_le_length_mul hfiles

/-- While a run adds up its items, and while it corrects the sum, no number becomes too great. -/
theorem Visit.Settles.run_fits (hsettles : visit.Settles warning?) (scanner : Scanner)
    {items : List α} {final : Stats}
    (hroom : (scanner.config.container.derived.length + 1) * items.length < Counts.limit)
    (hresult : (scanner.run visit refuses items).result = .ok final) :
    (∀ part : List α, part.Sublist items →
        (Stats.mergeAll (part.map (share visit scanner.preparation.engine))).Fits) ∧
      (Stats.mergeAll (items.map (share visit scanner.preparation.engine))).correct?
        scanner.signatures scanner.config.container = some final ∧
      final.Fits := by
  have hle := hsettles.atMost_mergeAll scanner.preparation.engine items
  have hfinal := Scanner.run_result_ok hsettles.additive hresult
  have hlength : items.length < Counts.limit := by
    rw [Nat.succ_mul] at hroom
    omega
  refine ⟨fun part hpart => ?_, ?_, ?_⟩
  · exact (hsettles.atMost_mergeAll scanner.preparation.engine part).fits
      (Nat.lt_of_le_of_lt hpart.length_le hlength)
  · rw [hle.correct?_eq hroom, hfinal]
    rfl
  · rw [hfinal]
    exact (hle.of_lowers (Stats.lowers_correct _ _ _)).fits hlength

/-- Runs over not too many buffers or paths: what any of the items add up to can be kept, and so
can the sums of the correction. -/
theorem Scanner.run_fits (scanner : Scanner) (refuses : Event → Bool) :
    (∀ buffers final,
      (scanner.config.container.derived.length + 1) * buffers.length < Counts.limit →
      (scanner.scanBuffers refuses buffers).result = .ok final → final.Fits) ∧
    ∀ tree paths final,
      (scanner.config.container.derived.length + 1) * paths.length < Counts.limit →
      (scanner.scanPaths tree refuses paths).result = .ok final → final.Fits := by
  constructor
  · intro buffers final hroom hresult
    exact ((settles_visitBuffer _).run_fits scanner hroom hresult).2.2
  · intro tree paths final hroom hresult
    exact ((settles_visitPath tree _).run_fits scanner hroom hresult).2.2

end FormatScan
