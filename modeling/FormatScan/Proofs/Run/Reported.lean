import FormatScan.Proofs.Run.Interleaving
import FormatScan.Proofs.Run.Order
import FormatScan.Proofs.Signature.Fates

/-!
# No entry is lost in silence

From an entry of a list of signatures to a pattern that a run looks for it is a long way, and each
stage on it may drop the entry. Whoever takes all the events can tell for each entry which of the
warnings are about it, and there is one at least unless its pattern is looked for by every worker.
-/

namespace FormatScan

variable {α : Type}

/-! ### The last stage -/

def Matcher.fate (kind : EngineKind) (p : Pattern) : Fate Matcher :=
  match Matcher.ofPattern kind p with
  | .ok m => ⟨[], some m⟩
  | .error exclusion =>
    ⟨[.signatureWarning exclusion.name ("excluded from " ++ kind.name ++ ": " ++ exclusion.reason)],
      none⟩

/-- A pattern becomes a matcher, or is told of under its name. -/
theorem Matcher.accounts_fate (kind : EngineKind) (p : Pattern) :
    (Matcher.fate kind p).Accounts (.signature p.name) fun m =>
      Matcher.ofPattern kind p = .ok m := by
  rw [Matcher.fate]
  cases hmade : Matcher.ofPattern kind p with
  | ok m =>
      refine ⟨fun hnone => (nomatch hnone), fun w hw => (nomatch hw), fun m' hm => ?_⟩
      rw [Option.mem_some.1 hm]
  | error exclusion =>
      refine Fate.accounts_lost ⟨rfl, ?_⟩
      exact congrArg Subject.signature (Matcher.name_of_ofPattern_eq_error hmade)

namespace Engine

theorem matchers_prepare_eq_filterMap_fate (e : Engine) (patterns : List Pattern) :
    (e.prepare patterns).engine.matchers =
      patterns.filterMap fun p => (Matcher.fate e.kind p).left := by
  rw [matchers_prepare, List.filterMap_map]
  apply List.filterMap_congr
  intro p _
  rw [Matcher.fate]
  cases hmade : Matcher.ofPattern e.kind p <;> simp [hmade, Except.toOption]

theorem events_prepare_eq_flatMap_fate (e : Engine) (patterns : List Pattern) :
    (e.prepare patterns).report.events (e.prepare patterns).engine.kind =
      patterns.flatMap fun p => (Matcher.fate e.kind p).warnings := by
  rw [PrepareReport.events, kind_prepare, excluded_prepare]
  induction patterns with
  | nil => rfl
  | cons p rest ih =>
      rw [List.map_cons, List.filterMap_cons, List.flatMap_cons, ← ih, Matcher.fate]
      cases Matcher.ofPattern e.kind p <;> rfl

end Engine

/-! ### A run whose events are all taken -/

namespace Worker

variable {visit : Visit α} {told : Nat → α → List Event}

theorem events_run_of_all_taken (htells : visit.Tells told) (preparation : Preparation)
    (worker first : Nat) (items : List α) :
    (run visit (fun _ => false) preparation worker first items).events =
      raised told preparation worker first items := by
  have haccepted : (raised told preparation worker first items).any (fun _ => false) = false :=
    List.any_eq_false.2 fun _ _ => Bool.false_ne_true
  by_cases hactive : preparation.report.active = 0
  · rw [run_of_inactive hactive haccepted]
  · obtain ⟨total, hrun⟩ := run_of_accepted htells hactive haccepted
    rw [hrun]

end Worker

namespace Scanner

variable {scanner : Scanner} {visit : Visit α} {told : Nat → α → List Event} {items : List α}

/-- The refusals are told once, whatever the number of workers. -/
theorem events_run_of_all_taken (htells : visit.Tells told) (hitems : items ≠ []) :
    (scanner.run visit (fun _ => false) items).events =
      scanner.refusals ++
        (if scanner.preparation.report.active = 0 then [] else Worker.toldOf told 0 items) ++
        (scanner.run visit (fun _ => false) items).closing := by
  have hworkers : (scanner.outcomes visit (fun _ => false) items).map (·.events) =
      scanner.raised told items := by
    apply List.ext_getElem (by simp [outcomes, raised])
    intro worker hleft hright
    simp only [outcomes, raised, List.getElem_map, List.getElem_mapIdx]
    exact Worker.events_run_of_all_taken htells _ _ _ _
  rw [RunOutcome.events, run_workers, List.flatMap_def, hworkers, flatten_raised, if_neg hitems]

end Scanner

/-! ### Events by what they are about -/

def isWarning (event : Event) : Bool := event.severity == .warn

def isAboutRun (event : Event) : Bool := event.subject == .run

/-- What holds of the warnings of all fates that account for something. -/
theorem isWarning_of_accounts {entries : List Json} {fates : List (Fate α)}
    {subject : Json → Subject} {P : Json → α → Prop}
    (haccounts : List.Forall₂ (fun entry fate => fate.Accounts (subject entry) (P entry)) entries
      fates) : ∀ w ∈ fates.flatMap (·.warnings), isWarning w = true := by
  induction haccounts with
  | nil => exact fun w hw => nomatch hw
  | cons haccount _ ih =>
      intro w hw
      rw [List.flatMap_cons, List.mem_append] at hw
      rcases hw with hfirst | hrest
      · exact beq_iff_eq.2 (haccount.against w hfirst).1
      · exact ih w hrest

namespace Scanner

variable {scanner : Scanner} {limit : Nat} {buffers : List ByteArray} {log : List Event}

def oversize (scanner : Scanner) (buffers : List ByteArray) : List Event :=
  if scanner.preparation.report.active = 0 then []
  else
    Worker.toldOf
      (fun index bytes => (bufferWarning? scanner.config.maxFileSize index bytes).toList) 0 buffers

theorem mem_oversize {w : Event} (hw : w ∈ scanner.oversize buffers) :
    ∃ index, ∃ bytes ∈ buffers,
      bufferWarning? scanner.config.maxFileSize index bytes = some w := by
  rw [oversize] at hw
  split at hw
  · cases hw
  · obtain ⟨⟨bytes, index⟩, hmem, hw⟩ := List.mem_flatMap.1 hw
    exact ⟨index, bytes, List.fst_mem_of_mem_zipIdx hmem, Option.mem_toList.1 hw⟩

theorem about_of_mem_oversize {w : Event} (hw : w ∈ scanner.oversize buffers) :
    isWarning w = true ∧ isAboutRun w = true := by
  obtain ⟨index, bytes, -, hwarning⟩ := mem_oversize hw
  rw [bufferWarning?] at hwarning
  split at hwarning
  · rw [← Option.some.inj hwarning]
    exact ⟨rfl, rfl⟩
  · cases hwarning

/-- What is told of refusals is about a pattern and not about the run. -/
theorem about_of_mem_refusals {w : Event} (hw : w ∈ scanner.refusals) :
    isWarning w = true ∧ isAboutRun w = false := by
  obtain ⟨exclusion, -, rfl⟩ := List.mem_map.1 hw
  exact ⟨rfl, by simp [isAboutRun, Event.signatureWarning]⟩

theorem about_of_mem_closing {visit : Visit α} {refuses : Event → Bool} {items : List α} {w : Event}
    (hw : w ∈ (scanner.run visit refuses items).closing) :
    isWarning w = false ∧ isAboutRun w = true := by
  rw [run_closing] at hw
  split at hw
  · cases hw
  · rw [List.mem_singleton.1 hw]
    exact ⟨rfl, rfl⟩

theorem events_scanBuffers (hbuffers : buffers ≠ []) :
    (scanner.scanBuffers (fun _ => false) buffers).events =
      scanner.refusals ++ scanner.oversize buffers ++
        (scanner.scanBuffers (fun _ => false) buffers).closing :=
  events_run_of_all_taken (settles_visitBuffer scanner.config.maxFileSize).tells hbuffers

theorem filter_isWarning_of_perm (hbuffers : buffers ≠ [])
    (hlog : log.Perm (scanner.scanBuffers (fun _ => false) buffers).events) :
    (log.filter isWarning).Perm (scanner.refusals ++ scanner.oversize buffers) := by
  -- Only the closing event is no warning.
  rw [events_scanBuffers hbuffers] at hlog
  refine (hlog.filter _).trans ?_
  rw [List.filter_append, List.filter_append,
    List.filter_eq_self.2 fun w hw => (about_of_mem_refusals hw).1,
    List.filter_eq_self.2 fun w hw => (about_of_mem_oversize hw).1, List.filter_eq_nil_iff.2,
    List.append_nil]
  intro w hw
  rw [(about_of_mem_closing hw).1]
  exact Bool.false_ne_true

/-- What is told of signatures in a run are the refusals. -/
theorem filter_isAboutRun_of_perm (hbuffers : buffers ≠ [])
    (hlog : log.Perm (scanner.scanBuffers (fun _ => false) buffers).events) :
    (log.filter fun event => !isAboutRun event).Perm scanner.refusals := by
  rw [events_scanBuffers hbuffers] at hlog
  refine (hlog.filter _).trans ?_
  rw [List.filter_append, List.filter_append, List.filter_eq_self.2,
    List.filter_eq_nil_iff.2, List.filter_eq_nil_iff.2, List.append_nil, List.append_nil]
  · intro w hw
    rw [(about_of_mem_closing hw).2]
    exact Bool.false_ne_true
  · intro w hw
    rw [(about_of_mem_oversize hw).2]
    exact Bool.false_ne_true
  · intro w hw
    rw [(about_of_mem_refusals hw).2]
    rfl

end Scanner

/-! ### From the entries to the matchers -/

section

variable {config : ScanConfig} {entries : List Json}

open Signature

def entryFates (config : ScanConfig) (entries : List Json) : List (Fate Matcher) :=
  ((loadedFates 0 [] entries).map (·.bind (compileFate config.anchoring))).map
    (·.bind (Matcher.fate config.engine))

def IsMatched (config : ScanConfig) (entry : Json) (m : Matcher) : Prop :=
  subjectOf entry = .signature m.pattern.name ∧
    ∃ s, entrySignature? entry = some s ∧
      s.clearInvalidHex.compile? config.anchoring = some m.pattern ∧
      Matcher.ofPattern config.engine m.pattern = .ok m

/-- No entry is lost without a warning against it, from its text to its matcher. -/
theorem accounts_entryFates (config : ScanConfig) (htidy : ∀ entry ∈ entries, entry.Tidy) :
    List.Forall₂ (fun entry fate => fate.Accounts (subjectOf entry) (IsMatched config entry))
      entries (entryFates config entries) := by
  -- Each stage passes on what the next one has to know of the signature: its name and its origin.
  rw [entryFates, List.map_map, List.forall₂_map_right_iff]
  refine (accounts_loadedFates 0 [] htidy).imp fun entry fate haccounts => ?_
  have hcompiled : (fate.bind (compileFate config.anchoring)).Accounts (subjectOf entry) fun p =>
      subjectOf entry = .signature p.name ∧ ∃ s, entrySignature? entry = some s ∧
        s.clearInvalidHex.compile? config.anchoring = some p := by
    refine haccounts.bind ?_
    rintro _ ⟨hsubject, s, hs, rfl⟩
    rw [hsubject]
    refine (accounts_compileFate config.anchoring s.clearInvalidHex).imp fun p hp => ?_
    rw [name_of_compile? hp]
    exact ⟨rfl, s, hs, hp⟩
  refine hcompiled.bind ?_
  rintro p ⟨hsubject, s, hs, hp⟩
  rw [hsubject]
  refine (Matcher.accounts_fate config.engine p).imp fun m hm => ?_
  obtain ⟨rfl, -⟩ := Matcher.ofPattern_eq_ok hm
  exact ⟨hsubject, s, hs, hp, hm⟩

/-- Ordering patterns by priority drops none. -/
theorem compileAll_perm_filterMap (anchoring : Anchoring) (signatures : List Signature) :
    (compileAll anchoring signatures).1.Perm (signatures.filterMap (compile? anchoring)) :=
  List.mergeSort_perm _ _

/-- The patterns that are left of the entries are those that the engine is prepared for. -/
theorem filterMap_left_entryFates (config : ScanConfig) (entries : List Json) :
    ((entryFates config entries).filterMap (·.left)).Perm
      (({ kind := config.engine } : Engine).prepare
        (compileAll config.anchoring (loadEntries entries).1).1).engine.matchers := by
  rw [entryFates, Fate.filterMap_left_map_bind, Fate.filterMap_left_map_bind,
    filterMap_left_loadedFates, Engine.matchers_prepare_eq_filterMap_fate, loadEntries_fst]
  exact (compileAll_perm_filterMap _ _).symm.filterMap _

theorem flatMap_warnings_entryFates (config : ScanConfig) (entries : List Json) :
    ((entryFates config entries).flatMap (·.warnings)).Perm
      ((loadedFates 0 [] entries).flatMap (·.warnings) ++
        (compileAll config.anchoring (loadEntries entries).1).2 ++
        ((compileAll config.anchoring (loadEntries entries).1).1.flatMap fun p =>
          (Matcher.fate config.engine p).warnings)) := by
  rw [entryFates]
  refine (Fate.flatMap_warnings_map_bind _ _).trans ?_
  rw [Fate.filterMap_left_map_bind, filterMap_left_loadedFates, loadEntries_fst]
  refine List.Perm.append ?_ ?_
  · refine (Fate.flatMap_warnings_map_bind _ _).trans ?_
    rw [filterMap_left_loadedFates]
    exact .rfl
  · exact (compileAll_perm_filterMap _ _).symm.flatMap_right _

/-- The warnings of loading are those about the entries; references that lead nowhere are told of
without a warning. -/
theorem filter_isWarning_loadEntries (htidy : ∀ entry ∈ entries, entry.Tidy) :
    ((loadEntries entries).2.filter isWarning).Perm
      ((loadedFates 0 [] entries).flatMap (·.warnings)) := by
  have hwarnings := flatMap_warnings_loadedFates 0 [] entries
  have hall := isWarning_of_accounts (accounts_loadedFates 0 [] htidy)
  have hdangling : (danglingEvents (loadEntries entries).1).filter isWarning = [] := by
    rw [List.filter_eq_nil_iff]
    intro w hw
    rw [isWarning, severity_of_mem_danglingEvents hw]
    exact Bool.false_ne_true
  rw [loadEntries_snd, List.filter_append, hdangling, List.append_nil]
  refine (hwarnings.symm.filter _).trans ?_
  rw [List.filter_eq_self.2 hall]

theorem filter_isWarning_compileAll (anchoring : Anchoring) (signatures : List Signature) :
    (compileAll anchoring signatures).2.filter isWarning = (compileAll anchoring signatures).2 := by
  rw [List.filter_eq_self]
  intro w hw
  obtain ⟨s, -, hw⟩ := List.mem_flatMap.1 hw
  exact beq_iff_eq.2 ((accounts_compileFate anchoring s).against w hw).1

/-- What is told in a run over buffers of which nothing is refused, whether its workers work one
after the other or take their steps in some other order. -/
def Scanner.Logs (scanner : Scanner) (buffers : List ByteArray) (log : List Event) : Prop :=
  log = (scanner.scanBuffers (fun _ => false) buffers).events ∨
    ∃ counter last, scanner.Executes (visitBuffer scanner.config.maxFileSize) (fun _ => false)
      counter buffers last ∧ log = last.log

theorem Scanner.Logs.perm {scanner : Scanner} {buffers : List ByteArray} {log : List Event}
    (hlogs : scanner.Logs buffers log) :
    log.Perm (scanner.scanBuffers (fun _ => false) buffers).events := by
  rcases hlogs with rfl | ⟨counter, last, hexecutes, rfl⟩
  · exact .rfl
  · exact (Scanner.executes_agrees hexecutes).2.2.2

/-- How the fates of entries account for a scanner and for what was told up to it. -/
structure Scanner.AccountsFor (scanner : Scanner) (told : List Event)
    (fates : List (Fate Matcher)) : Prop where
  matchers : (fates.filterMap (·.left)).Perm scanner.preparation.engine.matchers
  excluded : scanner.preparation.report.excluded.map (·.name) =
    (scanner.patterns.filter scanner.config.engine.refuses).map (·.name)
  warnings {buffers : List ByteArray} {log : List Event} (hbuffers : buffers ≠ [])
    (hlogs : scanner.Logs buffers log) :
    ((told ++ log).filter isWarning).Perm
      (fates.flatMap (·.warnings) ++ scanner.oversize buffers)
  refusals {buffers : List ByteArray} {log : List Event} (hbuffers : buffers ≠ [])
    (hlogs : scanner.Logs buffers log) :
    (log.filter fun event => !isAboutRun event).Perm
      (scanner.preparation.report.events scanner.config.engine)

/-- A scanner that was loaded from a text accounts for each entry of it. -/
theorem accountsFor_entryFates {scanner : Scanner} (htidy : ∀ entry ∈ entries, entry.Tidy)
    (hconfig : scanner.config = config)
    (hpatterns : scanner.patterns = (compileAll config.anchoring (loadEntries entries).1).1) :
    scanner.AccountsFor
      ((loadEntries entries).2 ++ (compileAll config.anchoring (loadEntries entries).1).2)
      (entryFates config entries) := by
  have hrefusals : scanner.refusals =
      scanner.preparation.report.events scanner.config.engine := by
    rw [Scanner.refusals, Scanner.preparation, Engine.kind_prepare]
  refine ⟨?_, (Engine.report_prepare _ _).2, fun hbuffers hlogs => ?_, fun hbuffers hlogs => ?_⟩
  · rw [Scanner.preparation, hconfig, hpatterns]
    exact filterMap_left_entryFates config entries
  · have hfates : scanner.refusals =
        (compileAll config.anchoring (loadEntries entries).1).1.flatMap fun p =>
          (Matcher.fate config.engine p).warnings := by
      rw [Scanner.refusals, Scanner.preparation, Engine.events_prepare_eq_flatMap_fate, hconfig,
        hpatterns]
    rw [List.filter_append, List.filter_append, filter_isWarning_compileAll]
    refine (((filter_isWarning_loadEntries htidy).append_right _).append
      (Scanner.filter_isWarning_of_perm hbuffers hlogs.perm)).trans ?_
    rw [← List.append_assoc, hfates]
    exact (flatMap_warnings_entryFates config entries).symm.append_right _
  · rw [← hrefusals]
    exact Scanner.filter_isAboutRun_of_perm hbuffers hlogs.perm

theorem exists_create (signatures : List Signature) (hvalid : config.validate = .ok ())
    (hcompiled : signatures.filterMap (compile? config.anchoring) ≠ []) :
    ∃ scanner creating, Scanner.create config signatures = (.ok scanner, creating) := by
  have hpatterns : ¬ (compileAll config.anchoring signatures).1.isEmpty = true := by
    intro hempty
    have hperm := compileAll_perm_filterMap config.anchoring signatures
    rw [List.isEmpty_iff.1 hempty] at hperm
    exact hcompiled (List.nil_perm.1 hperm)
  rw [Scanner.create, hvalid]
  dsimp only
  rw [if_neg hpatterns]
  exact ⟨_, _, rfl⟩

/-- Each entry of a list of signatures has a fate: its pattern is looked for, or there is a warning
about it that is about no other entry. Besides these there are no warnings but about buffers. As
many signatures come out of loading as there are entries that it does not skip, and in a run each
pattern that the engine refuses is told of once. -/
theorem entries_accounted_for {text : String} (hread : Json.parse text = .ok (.array entries))
    (hvalid : config.validate = .ok ()) :
    ∃ kept loading, parse text = .ok (kept, loading) ∧
      kept.length + loading.countP isSkip = entries.length ∧
      ∃ fates : List (Fate Matcher),
        List.Forall₂ (fun entry fate => fate.Accounts (subjectOf entry) (IsMatched config entry))
          entries fates ∧
        match Scanner.create config kept with
        | (.ok scanner, creating) => scanner.AccountsFor (loading ++ creating) fates
        | (.error e, creating) => e = .noUsableSignatures ∧ fates.filterMap (·.left) = [] ∧
            ((loading ++ creating).filter isWarning).Perm (fates.flatMap (·.warnings)) := by
  have htidy : ∀ entry ∈ entries, entry.Tidy := Json.tidyAll_iff.1 (Json.tidy_parse hread)
  have hparse : parse text = .ok ((loadEntries entries).1, (loadEntries entries).2) := by
    rw [parse, hread]
  refine ⟨_, _, hparse, length_loadEntries_add_countP_isSkip entries, entryFates config entries,
    accounts_entryFates config htidy, ?_⟩
  rw [Scanner.create, hvalid]
  dsimp only
  -- Without a pattern there is no scanner, and then nothing is left of any entry.
  by_cases hempty : (compileAll config.anchoring (loadEntries entries).1).1.isEmpty = true
  · have hleft := filterMap_left_entryFates config entries
    have hwarnings := flatMap_warnings_entryFates config entries
    rw [List.isEmpty_iff.1 hempty, Engine.matchers_prepare_eq_filterMap_fate,
      List.filterMap_nil] at hleft
    rw [List.isEmpty_iff.1 hempty] at hwarnings
    rw [if_pos hempty]
    refine ⟨rfl, List.perm_nil.1 hleft, ?_⟩
    rw [List.flatMap_nil, List.append_nil] at hwarnings
    rw [List.filter_append, filter_isWarning_compileAll]
    exact ((filter_isWarning_loadEntries htidy).append_right _).trans hwarnings.symm
  · rw [if_neg hempty]
    exact accountsFor_entryFates htidy rfl rfl

def mixedText : String :=
  "[\x7b\"name\":\"ZIP\",\"hex_head\":\"504B0304\"\x7d,\x7b\"name\":\"ZIP\"\x7d,\x7b\x7d," ++
    "\x7b\"name\":\"word\",\"type\":[]\x7d," ++
    "\x7b\"name\":\"open\",\"type\":\"text\",\"pattern\":\"(\"\x7d]"

def mixedEntries : List Json :=
  [.object [("hex_head", .string "504B0304"), ("name", .string "ZIP")],
    .object [("name", .string "ZIP")], .object [],
    .object [("name", .string "word"), ("type", .array [])],
    .object [("name", .string "open"), ("pattern", .string "("), ("type", .string "text")]]

def mixedKept : List Signature :=
  [binary "ZIP" "504B0304", { name := "open", kind := .text, pattern := "(" }]

set_option maxRecDepth 4000 in
theorem parse_mixedText : Json.parse mixedText = .ok (.array mixedEntries) := by
  rfl

/-- Three entries are skipped in loading, and the warnings of the whole run are those of the
fates. -/
theorem entries_accounted_for_mixed :
    Json.parse mixedText = .ok (.array mixedEntries) ∧
      ({ workers := 2 } : ScanConfig).validate = .ok () ∧
      ∃ loading scanner creating, ∃ fates : List (Fate Matcher),
        parse mixedText = .ok (mixedKept, loading) ∧ loading.countP isSkip = 3 ∧
        Scanner.create { workers := 2 } mixedKept = (.ok scanner, creating) ∧
        List.Forall₂
          (fun entry fate => fate.Accounts (subjectOf entry) (IsMatched { workers := 2 } entry))
          mixedEntries fates ∧
        ((loading ++ creating ++
            (scanner.scanBuffers (fun _ => false) [.empty, .empty]).events).filter isWarning).Perm
          (fates.flatMap (·.warnings) ++ scanner.oversize [.empty, .empty]) := by
  have hvalid : ({ workers := 2 } : ScanConfig).validate = .ok () := rfl
  obtain ⟨kept, loading, hparse, hcount, fates, hfates, hcreate⟩ :=
    entries_accounted_for parse_mixedText hvalid
  have hkept : kept = mixedKept := by
    have hloaded : (loadEntries mixedEntries).1 = mixedKept := by decide +kernel
    rw [parse, parse_mixedText] at hparse
    rw [← hloaded, Except.ok.inj hparse]
  subst hkept
  obtain ⟨scanner, creating, hscanner⟩ := exists_create mixedKept hvalid (by decide +kernel)
  rw [hscanner] at hcreate
  have hskipped : mixedKept.length + loading.countP isSkip = 2 + 3 := hcount
  exact ⟨parse_mixedText, hvalid, loading, scanner, creating, fates, hparse,
    Nat.add_left_cancel hskipped, hscanner, hfates,
    hcreate.warnings (List.cons_ne_nil _ _) (.inl rfl)⟩

def blankText : String :=
  "[\x7b\"name\":\" \",\"priority\":\"high\"\x7d]"

def blankWarning : Event :=
  .signatureWarning " " "malformed entry skipped: invalid type: string \"high\", expected i32"

/-- The entry is told of against its blank name, and nothing is told that is about the run. -/
theorem malformed_blank_against_name :
    Json.parse blankText =
        .ok (.array [.object [("name", .string " "), ("priority", .string "high")]]) ∧
      Text.isBlankText " " = true ∧
      parse blankText = .ok ([], [blankWarning]) ∧
      (∀ config, (Scanner.create config []).1.toOption.isNone = true ∧
        (Scanner.create config []).2 = []) ∧
      ¬ ∃ event ∈ [blankWarning], event.severity = .warn ∧ event.subject = .run := by
  refine ⟨rfl, by decide +kernel, by decide +kernel, fun config => ?_, by decide +kernel⟩
  have hnothing : (compileAll config.anchoring []).1 = [] :=
    List.perm_nil.1 (compileAll_perm_filterMap config.anchoring [])
  rw [Scanner.create]
  cases config.validate with
  | error e => exact ⟨rfl, rfl⟩
  | ok _ =>
      dsimp only
      rw [hnothing]
      exact ⟨rfl, rfl⟩

end

end FormatScan
