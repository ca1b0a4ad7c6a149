import FormatScan.Proofs.Engine.Candidates
import FormatScan.Proofs.Signature.Usable

/-!
# What it takes to be detected

A signature is detected in a file if an engine that is ready for its pattern counts its name.
Whether it does is up to the matcher of the signature alone: other signatures have no part in it,
but that one of them may have the same name.
-/

namespace FormatScan.Signature

open Regex

variable {s : Signature} {anchoring : Anchoring} {kind : EngineKind} {m : Matcher}
  {bytes : ByteArray} {signatures : List Signature} {name : String}

/-- An engine that is ready for the pattern of the signature detects the signature. -/
def IsDetected (s : Signature) (anchoring : Anchoring) (kind : EngineKind) (bytes : ByteArray) :
    Prop :=
  ∃ p, s.compile? anchoring = some p ∧
    ((({ kind } : Engine).prepare [p]).engine.scan bytes .empty).isPresent s.name = true

def matcher? (s : Signature) (anchoring : Anchoring) (kind : EngineKind) : Option Matcher :=
  (s.compile? anchoring).bind fun p => (Matcher.ofPattern kind p).toOption

theorem matcher?_eq_some :
    s.matcher? anchoring kind = some m ↔
      ∃ p, s.compile? anchoring = some p ∧ Matcher.ofPattern kind p = .ok m := by
  rw [matcher?, Option.bind_eq_some_iff]
  apply exists_congr
  intro p
  apply and_congr_right
  intro _
  cases Matcher.ofPattern kind p with
  | error exclusion => exact iff_of_false (fun heq => nomatch heq) fun heq => nomatch heq
  | ok m' =>
      constructor
      · exact fun heq => congrArg _ (Option.some.inj heq)
      · exact fun heq => congrArg _ (Except.ok.inj heq)

theorem isDetected_iff_matchesFile :
    s.IsDetected anchoring kind bytes ↔ bytes.size ≠ 0 ∧
      ∃ m, s.matcher? anchoring kind = some m ∧ m.matchesFile (Haystack.ofBytes bytes) = true := by
  simp only [IsDetected, Engine.isPresent_scan_empty, Engine.mem_hits_prepare, matcher?_eq_some]
  constructor
  · rintro ⟨p, hcompile, hempty, p', hp', -, m, hmade, hmatch⟩
    rw [List.mem_singleton.1 hp'] at hmade
    exact ⟨hempty, m, ⟨p, hcompile, hmade⟩, hmatch⟩
  · rintro ⟨hempty, m, ⟨p, hcompile, hmade⟩, hmatch⟩
    exact ⟨p, hcompile, hempty, p, List.mem_singleton_self p, name_of_compile? hcompile, m, hmade,
      hmatch⟩

/-- Among other signatures a signature is detected in the same files. -/
theorem isPresent_scan_prepareFor_iff :
    ((prepareFor kind anchoring signatures).engine.scan bytes .empty).isPresent name = true ↔
      ∃ s ∈ signatures, s.name = name ∧ s.IsDetected anchoring kind bytes := by
  simp only [prepareFor, Engine.isPresent_scan_empty, Engine.mem_hits_prepare, compileAll,
    Pattern.inScanOrder, List.mem_mergeSort, List.mem_filterMap, isDetected_iff_matchesFile,
    matcher?_eq_some]
  constructor
  · rintro ⟨hempty, p, ⟨s, hs, hcompile⟩, hname, m, hmade, hmatch⟩
    exact ⟨s, hs, (name_of_compile? hcompile).symm.trans hname, hempty, m, ⟨p, hcompile, hmade⟩,
      hmatch⟩
  · rintro ⟨s, hs, hname, hempty, m, ⟨p, hcompile, hmade⟩, hmatch⟩
    exact ⟨hempty, p, ⟨s, hs, hcompile⟩, (name_of_compile? hcompile).trans hname, m, hmade, hmatch⟩

end FormatScan.Signature
