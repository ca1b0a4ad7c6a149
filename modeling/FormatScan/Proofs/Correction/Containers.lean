import FormatScan.Proofs.Correction.Deduction
import FormatScan.Proofs.Run.Detection

/-!
# The count of a container

A file of a container that is detected as one of its children as well should not count for the
container. It is taken off once if the child is a derived format or deducts from the container, but
twice if it does both, and not at all as far as the count of a derived format has been deducted from
before. The count that is left is told exactly, and with it when each file is counted once.
-/

namespace FormatScan

/-! ### Counting things of several kinds -/

section Kinds

variable {α : Type} {items : List α} {p q : α → Bool}

theorem countP_or_of_disjoint (hdisjoint : ∀ item ∈ items, p item = true → q item = false) :
    items.countP (fun item => p item || q item) = items.countP p + items.countP q := by
  induction items with
  | nil => rfl
  | cons item rest ih =>
      have hrest := ih fun x hx => hdisjoint x (List.mem_cons_of_mem _ hx)
      rw [List.countP_cons, List.countP_cons, List.countP_cons, hrest]
      by_cases hp : p item = true
      · have hq := hdisjoint item List.mem_cons_self hp
        simp only [hp, hq, Bool.true_or, if_true, Bool.false_eq_true, if_false]
        omega
      · simp only [Bool.not_eq_true] at hp
        simp only [hp, Bool.false_or, Bool.false_eq_true, if_false]
        omega

theorem countP_eq_countP_and_not_add (himp : ∀ item ∈ items, q item = true → p item = true) :
    items.countP p = items.countP (fun item => p item && !q item) + items.countP q := by
  have hdisjoint : ∀ item ∈ items, (p item && !q item) = true → q item = false := by
    intro item _ hboth
    simpa using (Bool.and_eq_true_iff.1 hboth).2
  rw [← countP_or_of_disjoint hdisjoint]
  apply List.countP_congr
  intro item hitem
  have hq := himp item hitem
  cases hp : p item <;> cases hqi : q item <;> simp_all

/-- If nothing is of two kinds, the kinds together have as many members as there are things of some
kind. -/
theorem sum_countP_eq_countP_any {kinds : List String} {test : α → String → Bool}
    (hnodup : kinds.Nodup)
    (hone : ∀ item ∈ items, ∀ m ∈ kinds, ∀ n ∈ kinds, test item m = true → test item n = true →
      m = n) :
    (kinds.map fun kind => items.countP (test · kind)).sum =
      items.countP fun item => kinds.any (test item) := by
  induction kinds with
  | nil => simp
  | cons kind rest ih =>
      obtain ⟨hnotMem, hrest⟩ := List.nodup_cons.1 hnodup
      have hsum := ih hrest fun item hitem m hm n hn =>
        hone item hitem m (List.mem_cons_of_mem _ hm) n (List.mem_cons_of_mem _ hn)
      have hdisjoint : ∀ item ∈ items, test item kind = true → rest.any (test item) = false := by
        intro item hitem hkind
        rw [List.any_eq_false]
        intro n hn hother
        have heq : kind = n := hone item hitem kind List.mem_cons_self n
          (List.mem_cons_of_mem _ hn) hkind hother
        exact hnotMem (heq ▸ hn)
      rw [List.map_cons, List.sum_cons, hsum, ← countP_or_of_disjoint hdisjoint]
      simp only [List.any_cons]

end Kinds

/-! ### Children of a container -/

open Stats

/-- The derived formats, and the other formats that deduct from the container. -/
def children (signatures : List Signature) (policy : ContainerPolicy) : List String :=
  policy.derived ++ (deductors signatures policy.container).map (·.name)

def onlyDerived (signatures : List Signature) (policy : ContainerPolicy) : List String :=
  policy.derived.filter fun d => d ∉ (deductors signatures policy.container).map (·.name)

variable {signatures : List Signature} {policy : ContainerPolicy}

theorem nodup_deductors (hnames : (signatures.map (·.name)).Nodup) (name : String) :
    ((deductors signatures name).map (·.name)).Nodup :=
  hnames.sublist (List.filter_sublist.map _)

theorem mem_children_iff {name : String} :
    name ∈ children signatures policy ↔
      name ∈ onlyDerived signatures policy ++
        (deductors signatures policy.container).map (·.name) := by
  simp only [children, onlyDerived, List.mem_append, List.mem_filter, decide_eq_true_eq]
  tauto

theorem nodup_onlyDerived_append (hnames : (signatures.map (·.name)).Nodup)
    (hderived : policy.derived.Nodup) :
    (onlyDerived signatures policy ++
      (deductors signatures policy.container).map (·.name)).Nodup := by
  refine List.Nodup.append (hderived.filter _) (nodup_deductors hnames _) ?_
  intro name hleft hright
  have hnot := (List.mem_filter.1 hleft).2
  exact (of_decide_eq_true hnot) hright

theorem sum_map_filter_eq {names : List String} {keep : String → Bool} {amount : String → Nat}
    (hzero : ∀ name ∈ names, keep name = false → amount name = 0) :
    ((names.filter keep).map amount).sum = (names.map amount).sum := by
  induction names with
  | nil => rfl
  | cons name rest ih =>
      have hrest := ih fun other hother => hzero other (List.mem_cons_of_mem _ hother)
      cases hkeep : keep name with
      | true =>
          rw [List.filter_cons_of_pos hkeep, List.map_cons, List.sum_cons, hrest, List.map_cons,
            List.sum_cons]
      | false =>
          rw [List.filter_cons_of_neg (by simp [hkeep]), hrest, List.map_cons, List.sum_cons,
            hzero name List.mem_cons_self hkeep, Nat.zero_add]

/-- Where no derived format that occurs deducts from the container or is deducted from, what the
two deductions take is the number of files of the derived formats, once. -/
theorem sum_remaining_derived_eq {amount : String → Nat}
    (hplain : ∀ d ∈ policy.derived, amount d ≠ 0 →
      d ∉ (deductors signatures policy.container).map (·.name) ∧
        ∀ c ∈ deductors signatures d, amount c.name = 0) :
    (policy.derived.map fun d =>
      amount d - ((deductors signatures d).map fun c => amount c.name).sum).sum =
        ((onlyDerived signatures policy).map amount).sum := by
  have hfilter : ((onlyDerived signatures policy).map amount).sum =
      (policy.derived.map amount).sum := by
    apply sum_map_filter_eq
    intro d hd hdropped
    by_contra hne
    exact (of_decide_eq_false hdropped) (hplain d hd hne).1
  rw [hfilter]
  apply congrArg List.sum
  apply List.map_congr_left
  intro d hd
  by_cases hzero : amount d = 0
  · rw [hzero, Nat.zero_sub]
  · have hnone : ((deductors signatures d).map fun c => amount c.name).sum = 0 := by
      apply List.sum_eq_zero
      intro n hn
      obtain ⟨c, hc, hcount⟩ := List.mem_map.1 hn
      rw [← hcount]
      exact (hplain d hd hzero).2 c hc
    rw [hnone, Nat.sub_zero]

namespace Scanner

variable (scanner : Scanner) (buffers : List ByteArray)

def container : String := scanner.config.container.container

def childNames : List String := children scanner.signatures scanner.config.container

/-- The number of buffers that are detected as the container and as no child of it. -/
def plainHits : Nat :=
  buffers.countP fun bytes =>
    scanner.detects bytes scanner.container && !scanner.childNames.any (scanner.detects bytes)

/-- Every file of a child is a file of the container, and of no other child. -/
structure DetectsChildrenOnce : Prop where
  contained : ∀ bytes ∈ buffers, ∀ child ∈ scanner.childNames,
    scanner.detects bytes child = true → scanner.detects bytes scanner.container = true
  once : ∀ bytes ∈ buffers, ∀ m ∈ scanner.childNames, ∀ n ∈ scanner.childNames,
    scanner.detects bytes m = true → scanner.detects bytes n = true → m = n

variable {scanner buffers}

/-- Where every child counts as the container, the container is found in its plain files and in
those of each child. -/
theorem hits_container (hnames : (scanner.signatures.map (·.name)).Nodup)
    (hderived : scanner.config.container.derived.Nodup)
    (honce : scanner.DetectsChildrenOnce buffers) :
    scanner.hits buffers scanner.container =
      scanner.plainHits buffers +
        (((onlyDerived scanner.signatures scanner.config.container).map
            (scanner.hits buffers)).sum +
          ((deductors scanner.signatures scanner.container).map
            fun c => scanner.hits buffers c.name).sum) := by
  have hmem : ∀ name, name ∈ onlyDerived scanner.signatures scanner.config.container ++
      (deductors scanner.signatures scanner.container).map (·.name) → name ∈ scanner.childNames :=
    fun _ => mem_children_iff.2
  have hkinds : ((onlyDerived scanner.signatures scanner.config.container ++
      (deductors scanner.signatures scanner.container).map (·.name)).map
        (scanner.hits buffers)).sum =
      buffers.countP fun bytes => (onlyDerived scanner.signatures scanner.config.container ++
        (deductors scanner.signatures scanner.container).map (·.name)).any
          (scanner.detects bytes) :=
    sum_countP_eq_countP_any (nodup_onlyDerived_append hnames hderived)
      fun bytes hbytes m hm n hn => honce.once bytes hbytes m (hmem m hm) n (hmem n hn)
  have hany : ∀ bytes, (onlyDerived scanner.signatures scanner.config.container ++
      (deductors scanner.signatures scanner.container).map (·.name)).any
        (scanner.detects bytes) = scanner.childNames.any (scanner.detects bytes) := by
    intro bytes
    rw [Bool.eq_iff_iff, List.any_eq_true, List.any_eq_true]
    exact exists_congr fun name => and_congr_left' mem_children_iff.symm
  have hchild : ∀ bytes ∈ buffers, scanner.childNames.any (scanner.detects bytes) = true →
      scanner.detects bytes scanner.container = true := by
    intro bytes hbytes hsome
    obtain ⟨child, hmem, hdetects⟩ := List.any_eq_true.1 hsome
    exact honce.contained bytes hbytes child hmem hdetects
  rw [List.map_append, List.sum_append, List.map_map] at hkinds
  simp only [hany] at hkinds
  rw [hits, countP_eq_countP_and_not_add hchild, ← hkinds]
  rfl

variable {refuses : Event → Bool} {final : Stats}

/-- What the whole run leaves of the count of the container. -/
theorem count_final (hembedded : scanner.container ∉ scanner.config.container.embedded)
    (hthresholded : scanner.container ∉ scanner.config.container.thresholded)
    (hunpaired : ∀ pair ∈ exclusivePairs scanner.signatures,
      pair.1 ≠ scanner.container ∧ pair.2 ≠ scanner.container)
    (hresult : (scanner.scanBuffers refuses buffers).result = .ok final) :
    final.count scanner.container =
      scanner.hits buffers scanner.container -
          ((deductors scanner.signatures scanner.container).map
            fun c => scanner.hits buffers c.name).sum -
        (scanner.config.container.derived.map fun d =>
          scanner.hits buffers d -
            ((deductors scanner.signatures d).map
              fun c => scanner.hits buffers c.name).sum).sum := by
  have hcount : (Stats.mergeAll (buffers.map (share (visitBuffer scanner.config.maxFileSize)
      scanner.preparation.engine))).count = scanner.hits buffers :=
    funext (scanner.count_mergeAll_share buffers)
  have hcorrect := count_correct_container scanner.signatures scanner.config.container hembedded
    hthresholded hunpaired (Stats.mergeAll (buffers.map
      (share (visitBuffer scanner.config.maxFileSize) scanner.preparation.engine)))
  rw [hcount] at hcorrect
  rw [run_result_ok (isAdditive_visitBuffer _) hresult]
  exact hcorrect

/-- The count of the container after a run: the buffers that are the container and nothing more,
and besides what a derived format that deducts as well is taken off too often, or one that is
deducted from too little. Each file is counted once if there is no such format among those that
occur. -/
theorem count_container_of_run (hnames : (scanner.signatures.map (·.name)).Nodup)
    (hderived : scanner.config.container.derived.Nodup)
    (hembedded : scanner.container ∉ scanner.config.container.embedded)
    (hthresholded : scanner.container ∉ scanner.config.container.thresholded)
    (hunpaired : ∀ pair ∈ exclusivePairs scanner.signatures,
      pair.1 ≠ scanner.container ∧ pair.2 ≠ scanner.container)
    (honce : scanner.DetectsChildrenOnce buffers)
    (hresult : (scanner.scanBuffers refuses buffers).result = .ok final) :
    final.count scanner.container =
        scanner.plainHits buffers +
            ((onlyDerived scanner.signatures scanner.config.container).map
              (scanner.hits buffers)).sum -
          (scanner.config.container.derived.map fun d =>
            scanner.hits buffers d -
              ((deductors scanner.signatures d).map
                fun c => scanner.hits buffers c.name).sum).sum ∧
      ((∀ d ∈ scanner.config.container.derived, scanner.hits buffers d ≠ 0 →
          d ∉ (deductors scanner.signatures scanner.container).map (·.name) ∧
            ∀ c ∈ deductors scanner.signatures d, scanner.hits buffers c.name = 0) →
        final.count scanner.container = scanner.plainHits buffers) := by
  have hvalue : final.count scanner.container =
      scanner.plainHits buffers +
          ((onlyDerived scanner.signatures scanner.config.container).map
            (scanner.hits buffers)).sum -
        (scanner.config.container.derived.map fun d =>
          scanner.hits buffers d -
            ((deductors scanner.signatures d).map
              fun c => scanner.hits buffers c.name).sum).sum := by
    rw [count_final hembedded hthresholded hunpaired hresult,
      hits_container hnames hderived honce]
    omega
  refine ⟨hvalue, ?_⟩
  intro hplain
  rw [hvalue, sum_remaining_derived_eq hplain, Nat.add_sub_cancel]

end Scanner

/-! ### Archives and documents -/

def archives (deductFrom : Option String) : List Signature :=
  [Signature.binary "ZIP" "504B",
    { Signature.binary "DOCX" "504B" with pattern := "w", deductFrom }]

def archiveScanner (deductFrom : Option String) : Scanner where
  config := { engine := .backtrack, workers := 1 }
  signatures := archives deductFrom
  patterns := [⟨"ZIP", "^\\x50\\x4B", false, 0, 0⟩, ⟨"DOCX", "^\\x50\\x4B.*?w", false, 0, 0⟩]

theorem create_archiveScanner :
    (Scanner.create (archiveScanner (some "ZIP")).config (archives (some "ZIP"))).1 =
      .ok (archiveScanner (some "ZIP")) := by
  have hcompiled : (archives (some "ZIP")).filterMap (Signature.compile? .start) =
      (archiveScanner (some "ZIP")).patterns := by
    decide +kernel
  have hpatterns : (Signature.compileAll .start (archives (some "ZIP"))).1 =
      (archiveScanner (some "ZIP")).patterns := by
    rw [Signature.compileAll, hcompiled, Pattern.inScanOrder,
      List.mergeSort_of_pairwise (by decide +kernel)]
  rw [Scanner.create]
  simp only [archiveScanner] at hpatterns
  simp only [ScanConfig.validate, archiveScanner]
  simp [hpatterns, EngineKind.isAvailable, defaultMaxFileSize]

theorem exclusivePairs_archives (deductFrom : Option String) :
    exclusivePairs (archives deductFrom) = [] := by
  have hdeclared : ((archives deductFrom).flatMap fun s =>
      (s.exclusiveWith.filter (· ≠ s.name)).map fun other =>
        if s.name < other then (s.name, other) else (other, s.name)) = [] := rfl
  rw [exclusivePairs, hdeclared, List.mergeSort_nil, List.eraseDups_nil]

def archiveAndDocument : List ByteArray := [⟨#[0x50, 0x4B]⟩, ⟨#[0x50, 0x4B, 0x77]⟩]

theorem exists_result_archiveAndDocument (deductFrom : Option String)
    (hactive : (archiveScanner deductFrom).preparation.report.active ≠ 0) :
    ∃ final, ((archiveScanner deductFrom).scanBuffers (fun _ => false) archiveAndDocument).result =
      .ok final := by
  have hresult := Scanner.run_result_of_accepts (isAdditive_visitBuffer defaultMaxFileSize)
    (fun _ => rfl) (archiveScanner deductFrom) archiveAndDocument
  rw [if_neg fun hnone => hactive hnone.2] at hresult
  exact ⟨_, hresult⟩

/-- Where only the policy knows of documents, the one plain archive is counted. -/
theorem count_container_of_derived :
    (archiveScanner none).DetectsChildrenOnce archiveAndDocument ∧
      ∃ final, ((archiveScanner none).scanBuffers (fun _ => false) archiveAndDocument).result =
          .ok final ∧
        final.count "ZIP" = (archiveScanner none).plainHits archiveAndDocument := by
  have honce : (archiveScanner none).DetectsChildrenOnce archiveAndDocument :=
    ⟨by decide +kernel, by decide +kernel⟩
  obtain ⟨final, hresult⟩ := exists_result_archiveAndDocument none (by decide +kernel)
  have hunpaired : ∀ pair ∈ exclusivePairs (archives none),
      pair.1 ≠ "ZIP" ∧ pair.2 ≠ "ZIP" := by
    intro pair hpair
    rw [exclusivePairs_archives] at hpair
    cases hpair
  refine ⟨honce, final, hresult, ?_⟩
  exact (Scanner.count_container_of_run (by decide) (by decide) (by decide) (by decide) hunpaired
    honce hresult).2 (by decide +kernel)

/-- Where documents deduct from archives as well, each document is taken off twice, and the plain
archive does not count. -/
theorem container_deducted_twice :
    (Scanner.create (archiveScanner (some "ZIP")).config (archives (some "ZIP"))).1 =
        .ok (archiveScanner (some "ZIP")) ∧
      ((archives (some "ZIP")).map (·.name)).Nodup ∧
      (archiveScanner (some "ZIP")).config.container.derived.Nodup ∧
      "ZIP" ∉ (archiveScanner (some "ZIP")).config.container.derived ∧
      "ZIP" ∉ (archiveScanner (some "ZIP")).config.container.embedded ∧
      "ZIP" ∉ (archiveScanner (some "ZIP")).config.container.thresholded ∧
      exclusivePairs (archives (some "ZIP")) = [] ∧
      (archiveScanner (some "ZIP")).DetectsChildrenOnce archiveAndDocument ∧
      (∃ final, ((archiveScanner (some "ZIP")).scanBuffers (fun _ => false)
          archiveAndDocument).result = .ok final ∧ final.count "ZIP" = 0) ∧
      (archiveScanner (some "ZIP")).plainHits archiveAndDocument = 1 := by
  obtain ⟨final, hresult⟩ := exists_result_archiveAndDocument (some "ZIP") (by decide +kernel)
  have hunpaired : ∀ pair ∈ exclusivePairs (archives (some "ZIP")),
      pair.1 ≠ "ZIP" ∧ pair.2 ≠ "ZIP" := by
    intro pair hpair
    rw [exclusivePairs_archives] at hpair
    cases hpair
  refine ⟨create_archiveScanner, by decide, by decide, by decide, by decide, by decide,
    exclusivePairs_archives _, ⟨by decide +kernel, by decide +kernel⟩, ⟨final, hresult, ?_⟩,
    by decide +kernel⟩
  have hembedded : (archiveScanner (some "ZIP")).container ∉
      (archiveScanner (some "ZIP")).config.container.embedded := by decide
  have hcount := Scanner.count_final hembedded (by decide) hunpaired hresult
  have hzero : (archiveScanner (some "ZIP")).hits archiveAndDocument "ZIP" -
      ((deductors (archives (some "ZIP")) "ZIP").map fun c =>
        (archiveScanner (some "ZIP")).hits archiveAndDocument c.name).sum -
      (["DOCX", "XLSX", "PPTX"].map fun d =>
        (archiveScanner (some "ZIP")).hits archiveAndDocument d -
          ((deductors (archives (some "ZIP")) d).map fun c =>
            (archiveScanner (some "ZIP")).hits archiveAndDocument c.name).sum).sum = 0 := by
    decide +kernel
  exact hcount.trans hzero

end FormatScan
