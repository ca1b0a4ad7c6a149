import FormatScan.Proofs.Stats.Merge

/-!
# Recording the names of one file

Recording several names one after the other counts each of them once, and only if the file has not
shown it before.
-/

namespace FormatScan.Stats

variable {s before between after : Stats} {name other : String} {names names' : List String}

/-- Recording answers whether the name is a new one, and counts it if it is. -/
theorem fst_record_iff : (s.record name).1 = true ↔ name ∉ s.detected := by
  rw [record]
  by_cases hmem : name ∈ s.detected <;> simp [hmem]

/-- A name that the file has shown before is not counted again. -/
theorem recorded_of_mem (hmem : name ∈ s.detected) : s.recorded name = s := by
  rw [recorded, record, if_pos (List.contains_iff_mem.2 hmem)]

theorem recorded_of_notMem (hmem : name ∉ s.detected) :
    s.recorded name =
      { s with detected := s.detected ++ [name], counts := s.counts.add name 1 } := by
  rw [recorded, record, if_neg (mt List.contains_iff_mem.1 hmem)]

/-- Recording looks at the names of the current file only. -/
theorem recorded_onto (s base : Stats) (name : String) :
    (s.onto base).recorded name = (s.recorded name).onto base := by
  by_cases hmem : name ∈ s.detected
  · have honto : (s.onto base).recorded name = s.onto base := recorded_of_mem hmem
    rw [honto, recorded_of_mem hmem]
  · rw [recorded_of_notMem hmem, recorded_of_notMem (show name ∉ (s.onto base).detected from hmem)]
    simp only [onto, merge, Counts.merge_add]

/-- What becomes of statistics when a file shows some names: each of them counts once, unless the
file has shown it before. -/
structure Shows (names : List String) (before after : Stats) : Prop where
  entry (name : String) : after.counts.get? name =
    if name ∈ names ∧ name ∉ before.detected then some (before.count name + 1)
    else before.counts.get? name
  mem_detected (name : String) : name ∈ after.detected ↔ name ∈ before.detected ∨ name ∈ names
  embedded : after.embedded = before.embedded
  filesProcessed : after.filesProcessed = before.filesProcessed

namespace Shows

theorem count (hshows : Shows names before after) (name : String) :
    after.count name =
      before.count name + if name ∈ names ∧ name ∉ before.detected then 1 else 0 := by
  rw [Stats.count, Counts.count, hshows.entry]
  split <;> rfl

theorem nil (s : Stats) : Shows [] s s where
  entry name := by simp
  mem_detected name := by simp
  embedded := rfl
  filesProcessed := rfl

theorem append (hfront : Shows names before between) (hback : Shows names' between after) :
    Shows (names ++ names') before after where
  entry name := by
    simp only [hback.entry, hfront.entry, hfront.count, hfront.mem_detected, List.mem_append]
    by_cases hshown : name ∈ before.detected
    · simp [hshown]
    · by_cases hmem : name ∈ names <;> simp [hshown, hmem]
  mem_detected name := by
    rw [hback.mem_detected, hfront.mem_detected, List.mem_append, or_assoc]
  embedded := hback.embedded.trans hfront.embedded
  filesProcessed := hback.filesProcessed.trans hfront.filesProcessed

end Shows

theorem shows_recorded (s : Stats) (name : String) : Shows [name] s (s.recorded name) := by
  by_cases hmem : name ∈ s.detected
  · rw [recorded_of_mem hmem]
    refine ⟨?_, ?_, rfl, rfl⟩
    · intro other
      by_cases heq : other = name <;> simp [heq, hmem]
    · intro other
      by_cases heq : other = name <;> simp [heq, hmem]
  · rw [recorded_of_notMem hmem]
    refine ⟨?_, ?_, rfl, rfl⟩
    · intro other
      rw [Counts.get?_add]
      by_cases heq : name = other
      · subst heq
        simp [hmem, count]
      · simp [heq, Ne.symm heq]
    · intro other
      simp

theorem shows_foldl_recorded (names : List String) (s : Stats) :
    Shows names s (names.foldl recorded s) := by
  induction names generalizing s with
  | nil => exact .nil s
  | cons name rest ih => exact (shows_recorded s name).append (ih (s.recorded name))

theorem count_foldl_recorded (names : List String) (s : Stats) :
    (names.foldl recorded s).count other =
      s.count other + if other ∈ names ∧ other ∉ s.detected then 1 else 0 :=
  (shows_foldl_recorded names s).count other

theorem filesProcessed_foldl_recorded (names : List String) (s : Stats) :
    (names.foldl recorded s).filesProcessed = s.filesProcessed :=
  (shows_foldl_recorded names s).filesProcessed

theorem embedded_foldl_recorded (names : List String) (s : Stats) :
    (names.foldl recorded s).embedded = s.embedded :=
  (shows_foldl_recorded names s).embedded

theorem foldl_recorded_of_subset (hshown : ∀ name ∈ names, name ∈ s.detected) :
    names.foldl recorded s = s := by
  induction names with
  | nil => rfl
  | cons name rest ih =>
      obtain ⟨hname, hrest⟩ := List.forall_mem_cons.1 hshown
      rw [List.foldl_cons, recorded_of_mem hname, ih hrest]

/-- To record names once more changes nothing. -/
theorem foldl_recorded_foldl_recorded (names : List String) (s : Stats) :
    names.foldl recorded (names.foldl recorded s) = names.foldl recorded s := by
  apply foldl_recorded_of_subset
  intro name hname
  exact ((shows_foldl_recorded names s).mem_detected name).2 (.inr hname)

theorem foldl_recorded_onto (names : List String) (s base : Stats) :
    names.foldl recorded (s.onto base) = (names.foldl recorded s).onto base := by
  induction names generalizing s with
  | nil => rfl
  | cons name rest ih => rw [List.foldl_cons, recorded_onto, ih, List.foldl_cons]

/-- What a file adds depends on which names it shows, not on their order. -/
theorem beginFile_foldl_recorded_eq (hmem : ∀ name, name ∈ names ↔ name ∈ names') :
    (names.foldl recorded empty).beginFile = (names'.foldl recorded empty).beginFile := by
  have hcounts : (names.foldl recorded empty).counts = (names'.foldl recorded empty).counts := by
    apply Counts.ext_get?
    intro name
    simp only [(shows_foldl_recorded _ empty).entry, hmem]
  unfold beginFile
  rw [hcounts, embedded_foldl_recorded, embedded_foldl_recorded, filesProcessed_foldl_recorded,
    filesProcessed_foldl_recorded]

end FormatScan.Stats
