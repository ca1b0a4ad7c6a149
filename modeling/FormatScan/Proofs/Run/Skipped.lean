import FormatScan.Proofs.Correction.Bound
import FormatScan.Proofs.Run.Totals
import FormatScan.Proofs.Run.Work
import FormatScan.Run.Files

/-!
# Items that are skipped

A visit either counts its item as a file, in silence, or skips it with one warning and leaves the
statistics alone. Buffers are skipped if they are too long, and paths for one of five faults.
-/

namespace FormatScan

variable {α : Type} {limit : Nat} {tree : FileTree} {path : Path} {fault : PathFault}

/-- A visit skips the items that there is a warning about, and counts the others. -/
structure Visit.Settles (visit : Visit α) (warning? : Nat → α → Option Event) : Prop where
  additive : IsAdditive visit
  tells : visit.Tells fun index item => (warning? index item).toList
  skipped {index : Nat} {item : α} (hwarned : (warning? index item).isSome = true)
    (engine : Engine) : share visit engine item = .empty
  counted {index : Nat} {item : α} (hsilent : warning? index item = none) (engine : Engine) :
    (share visit engine item).filesProcessed = 1
  bounded (engine : Engine) (item : α) (name : String) :
    (share visit engine item).detections name ≤ (share visit engine item).filesProcessed

theorem Engine.filesProcessed_scanFile (e : Engine) (bytes : ByteArray) :
    (e.scanFile bytes .empty).filesProcessed = 1 := by
  unfold scanFile
  rw [scan_eq_foldl_recorded]
  exact congrArg (· + 1) (Stats.filesProcessed_foldl_recorded _ _)

theorem Engine.detections_scanFile_le (e : Engine) (bytes : ByteArray) (name : String) :
    (e.scanFile bytes .empty).detections name ≤ (e.scanFile bytes .empty).filesProcessed := by
  rw [filesProcessed_scanFile]
  have hembedded : (e.scanFile bytes .empty).embeddedCount name = 0 := by
    unfold scanFile
    rw [scan_eq_foldl_recorded]
    exact congrArg (·.count name) (Stats.embedded_foldl_recorded _ _)
  have hcount : (e.scanFile bytes .empty).count name ≤ 1 := by
    have hscan : (e.scanFile bytes .empty).count name = (e.scan bytes .empty).count name := rfl
    rw [hscan, count_scan_empty]
    split <;> omega
  unfold Stats.detections
  omega

/-! ### Buffers -/

def bufferWarning? (limit index : Nat) (bytes : ByteArray) : Option Event :=
  if limit < bytes.size then
    some (.runWarning ("buffer #" ++ toString index ++ ": " ++ ceilingText bytes.size limit))
  else none

theorem settles_visitBuffer (limit : Nat) :
    (visitBuffer limit).Settles (bufferWarning? limit) := by
  refine ⟨isAdditive_visitBuffer limit, ?_, ?_, ?_, ?_⟩
  · intro engine index bytes stats
    unfold visitBuffer bufferWarning?
    by_cases hempty : bytes.size = 0
    · simp [hempty]
    · by_cases hlimit : limit < bytes.size <;> simp [hempty, hlimit]
  · intro index bytes hwarned engine
    have hlimit : limit < bytes.size := by simpa [bufferWarning?] using hwarned
    have hempty : bytes.size ≠ 0 := by omega
    simp [share, visitBuffer, hempty, hlimit]
  · intro index bytes hsilent engine
    have hlimit : ¬limit < bytes.size := by simpa [bufferWarning?] using hsilent
    unfold share visitBuffer
    by_cases hempty : bytes.size = 0
    · simp [hempty, Stats.fileProcessed, Stats.empty]
    · simpa [hempty, hlimit] using engine.filesProcessed_scanFile bytes
  · intro engine bytes name
    unfold share visitBuffer
    by_cases hempty : bytes.size = 0
    · simp [hempty, Stats.fileProcessed, Stats.empty, Stats.detections, Stats.count,
        Stats.embeddedCount]
    · by_cases hlimit : limit < bytes.size
      · simp [hempty, hlimit, Stats.empty, Stats.detections, Stats.count, Stats.embeddedCount]
      · simpa [hempty, hlimit] using engine.detections_scanFile_le bytes name

/-! ### Paths -/

inductive PathFault where
  | unknown (error : FileError)
  | noFile
  | tooLong (size : Nat)
  | closed (error : FileError)
  | unmapped (error : FileError)

def PathFault.message (limit : Nat) : PathFault → String
  | unknown error => "cannot stat: " ++ error.message
  | noFile => "not a regular file, skipped"
  | tooLong size => ceilingText size limit
  | closed error => "cannot open: " ++ error.message
  | unmapped error => "cannot map: " ++ error.message

namespace FileTree

/-- The fault of a path, the first one that stands in the way of a scan. -/
inductive HasFault (tree : FileTree) (limit : Nat) (path : Path) : PathFault → Prop
  | unknown {error : FileError} (hnode : tree.node path = .error error) :
      HasFault tree limit path (.unknown error)
  | noFile {node : Node} (hnode : tree.node path = .ok node)
      (hother : ∀ content isLocked, node ≠ .file content isLocked) :
      HasFault tree limit path .noFile
  | tooLong {content : Content} {isLocked : Bool}
      (hnode : tree.node path = .ok (.file content isLocked)) (hlimit : limit < content.size) :
      HasFault tree limit path (.tooLong content.size)
  | closed {content : Content} {isLocked : Bool} {error : FileError}
      (hnode : tree.node path = .ok (.file content isLocked)) (hsize : content.size ≠ 0)
      (hlimit : content.size ≤ limit) (hread : tree.read path = .error error) :
      HasFault tree limit path (.closed error)
  | unmapped {content opened : Content} {isLocked : Bool} {error : FileError}
      (hnode : tree.node path = .ok (.file content isLocked)) (hsize : content.size ≠ 0)
      (hlimit : content.size ≤ limit) (hread : tree.read path = .ok opened)
      (hmap : opened.map = .error error) : HasFault tree limit path (.unmapped error)

def fault? (tree : FileTree) (limit : Nat) (path : Path) : Option PathFault :=
  match tree.node path with
  | .error e => some (.unknown e)
  | .ok (.file content _) =>
    if content.size = 0 then none
    else if limit < content.size then some (.tooLong content.size)
    else
      match tree.read path with
      | .error e => some (.closed e)
      | .ok opened =>
        match opened.map with
        | .error e => some (.unmapped e)
        | .ok _ => none
  | .ok _ => some .noFile

/-- The faults are checked in the order of the visit. -/
theorem fault?_eq_some_iff :
    tree.fault? limit path = some fault ↔ tree.HasFault limit path fault := by
  constructor
  · intro hfault
    unfold fault? at hfault
    split at hfault
    · rename_i e hnode
      cases hfault
      exact .unknown hnode
    · rename_i content isLocked hnode
      split at hfault
      · cases hfault
      · rename_i hsize
        split at hfault
        · rename_i hlimit
          cases hfault
          exact .tooLong hnode hlimit
        · rename_i hlimit
          split at hfault
          · rename_i e hread
            cases hfault
            exact .closed hnode hsize (Nat.le_of_not_lt hlimit) hread
          · rename_i opened hread
            split at hfault
            · rename_i e hmap
              cases hfault
              exact .unmapped hnode hsize (Nat.le_of_not_lt hlimit) hread hmap
            · cases hfault
    · rename_i node hother hnode
      cases hfault
      exact .noFile hnode hother
  · intro hfault
    unfold fault?
    cases hfault with
    | unknown hnode => rw [hnode]
    | @noFile node hnode hother =>
        rw [hnode]
        cases node with
        | file content isLocked => exact absurd rfl (hother content isLocked)
        | directory entries isLocked => rfl
        | link target => rfl
    | tooLong hnode hlimit =>
        rw [hnode]
        simp [hlimit, Nat.ne_of_gt (Nat.zero_lt_of_lt hlimit)]
    | closed hnode hsize hlimit hread =>
        rw [hnode]
        simp [hsize, Nat.not_lt.2 hlimit, hread]
    | unmapped hnode hsize hlimit hread hmap =>
        rw [hnode]
        simp [hsize, Nat.not_lt.2 hlimit, hread, hmap]

def warning? (tree : FileTree) (limit : Nat) (path : Path) : Option Event :=
  (tree.fault? limit path).map fun fault => .pathWarning path (fault.message limit)

end FileTree

/-- What a visit to a path does, by what becomes of the path. -/
theorem visitPath_cases (tree : FileTree) (limit : Nat) (path : Path) :
    (∃ fault, tree.fault? limit path = some fault ∧ ∀ engine index stats,
      visitPath tree limit engine index path stats =
        (stats, [.pathWarning path (fault.message limit)])) ∨
    (tree.fault? limit path = none ∧
      ((∀ engine index stats,
        visitPath tree limit engine index path stats = (stats.fileProcessed, [])) ∨
      ∃ bytes, ∀ engine index stats,
        visitPath tree limit engine index path stats = (engine.scanFile bytes stats, []))) := by
  unfold FileTree.fault? visitPath
  cases tree.node path with
  | error e => exact .inl ⟨.unknown e, rfl, fun _ _ _ => rfl⟩
  | ok node =>
      cases node with
      | directory entries isLocked => exact .inl ⟨.noFile, rfl, fun _ _ _ => rfl⟩
      | link target => exact .inl ⟨.noFile, rfl, fun _ _ _ => rfl⟩
      | file content isLocked =>
          by_cases hsize : content.size = 0
          · exact .inr ⟨by simp [hsize], .inl fun _ _ _ => by simp [hsize]⟩
          · by_cases hlimit : limit < content.size
            · exact .inl ⟨.tooLong content.size, by simp [hsize, hlimit], fun _ _ _ => by
                simp [hsize, hlimit, PathFault.message]⟩
            · cases hread : tree.read path with
              | error e =>
                  exact .inl ⟨.closed e, by simp [hsize, hlimit], fun _ _ _ => by
                    simp [hsize, hlimit, PathFault.message]⟩
              | ok opened =>
                  cases hmap : opened.map with
                  | error e =>
                      exact .inl ⟨.unmapped e, by simp [hsize, hlimit, hmap], fun _ _ _ => by
                        simp [hsize, hlimit, hmap, PathFault.message]⟩
                  | ok bytes =>
                      exact .inr ⟨by simp [hsize, hlimit, hmap], .inr ⟨bytes, fun _ _ _ => by
                        simp [hsize, hlimit, hmap]⟩⟩

/-- A path is skipped with a warning, or its file is counted. -/
theorem settles_visitPath (tree : FileTree) (limit : Nat) :
    (visitPath tree limit).Settles fun _ path => tree.warning? limit path := by
  refine ⟨?_, ?_, ?_, ?_, ?_⟩
  · intro engine index path stats
    rcases visitPath_cases tree limit path with
      ⟨fault, -, hvisit⟩ | ⟨-, hvisit | ⟨bytes, hvisit⟩⟩
    · simp only [share, hvisit]
      rfl
    · simp only [share, hvisit]
      rfl
    · simp only [share, hvisit]
      rw [engine.scanFile_eq_onto bytes stats, Stats.beginFile_onto]
  · intro engine index path stats
    rcases visitPath_cases tree limit path with
      ⟨fault, hfault, hvisit⟩ | ⟨hfault, hvisit | ⟨bytes, hvisit⟩⟩
    · simp [FileTree.warning?, hfault, hvisit]
    · simp [FileTree.warning?, hfault, hvisit]
    · simp [FileTree.warning?, hfault, hvisit]
  · intro index path hwarned engine
    rcases visitPath_cases tree limit path with ⟨fault, -, hvisit⟩ | ⟨hfault, -⟩
    · simp only [share, hvisit]
    · rw [FileTree.warning?, hfault] at hwarned
      cases hwarned
  · intro index path hsilent engine
    rcases visitPath_cases tree limit path with
      ⟨fault, hfault, -⟩ | ⟨-, hvisit | ⟨bytes, hvisit⟩⟩
    · rw [FileTree.warning?, hfault] at hsilent
      cases hsilent
    · simp only [share, hvisit]
      rfl
    · simp only [share, hvisit]
      exact engine.filesProcessed_scanFile bytes
  · intro engine path name
    rcases visitPath_cases tree limit path with
      ⟨fault, -, hvisit⟩ | ⟨-, hvisit | ⟨bytes, hvisit⟩⟩
    · simp only [share, hvisit]
      exact Nat.zero_le _
    · simp only [share, hvisit]
      exact Nat.zero_le _
    · simp only [share, hvisit]
      exact engine.detections_scanFile_le bytes name

end FormatScan
