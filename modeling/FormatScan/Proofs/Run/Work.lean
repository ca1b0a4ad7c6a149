import FormatScan.Run.Worker

/-!
# What becomes of a worker

The events that a visit tells depend on the item and its index alone. So the events that a worker
raises are known beforehand, and they decide what becomes of it: it breaks down if one of them is
refused, and otherwise goes through all of its items unless its engine has nothing to look for.
-/

namespace FormatScan

variable {α : Type} {visit : Visit α} {told : Nat → α → List Event} {refuses : Event → Bool}

/-- What a visit tells of an item does not depend on anything else than its index. -/
def Visit.Tells (visit : Visit α) (told : Nat → α → List Event) : Prop :=
  ∀ engine index item stats, (visit engine index item stats).2 = told index item

namespace Worker

def toldOf (told : Nat → α → List Event) (first : Nat) (items : List α) : List Event :=
  (items.zipIdx first).flatMap fun item => told item.2 item.1

theorem toldOf_cons (told : Nat → α → List Event) (first : Nat) (item : α) (rest : List α) :
    toldOf told first (item :: rest) = told first item ++ toldOf told (first + 1) rest := rfl

/-- The items in front of the first one of which something is refused. -/
def takenOf (told : Nat → α → List Event) (refuses : Event → Bool) (first : Nat)
    (items : List α) : List (α × Nat) :=
  (items.zipIdx first).takeWhile fun item => !(told item.2 item.1).any refuses

/-! ### Going through items -/

section

variable (htells : visit.Tells told) (worker first : Nat) (engine : Engine) (stats : Stats)
  (items : List α)

include htells

/-- The items are handled up to the first one of which something is refused. -/
theorem handled_visitAll :
    (visitAll visit refuses worker engine first stats items).handled =
      (takenOf told refuses first items).length := by
  induction items generalizing first stats with
  | nil => rfl
  | cons item rest ih =>
      unfold takenOf at ih ⊢
      rw [visitAll, List.zipIdx_cons, List.takeWhile_cons]
      simp only [htells engine first item stats]
      cases (told first item).any refuses with
      | true => simp
      | false => simp [ih]

theorem visitAll_of_refused (hrefused : (toldOf told first items).any refuses = true) :
    (visitAll visit refuses worker engine first stats items).result =
      .error (.workerPanicked worker) := by
  induction items generalizing first stats with
  | nil => cases hrefused
  | cons item rest ih =>
      rw [toldOf_cons, List.any_append, Bool.or_eq_true] at hrefused
      rw [visitAll]
      simp only [htells engine first item stats]
      cases hitem : (told first item).any refuses with
      | true => simp
      | false =>
          rw [hitem] at hrefused
          simpa using ih _ _ (hrefused.resolve_left Bool.false_ne_true)

theorem visitAll_of_accepted (haccepted : (toldOf told first items).any refuses = false) :
    ∃ total, visitAll visit refuses worker engine first stats items =
      ⟨.ok total, toldOf told first items, items.length⟩ := by
  induction items generalizing first stats with
  | nil => exact ⟨stats, rfl⟩
  | cons item rest ih =>
      rw [toldOf_cons, List.any_append, Bool.or_eq_false_iff] at haccepted
      obtain ⟨total, htotal⟩ := ih (first + 1) (visit engine first item stats).1 haccepted.2
      refine ⟨total, ?_⟩
      rw [visitAll]
      simp only [htells engine first item stats, haccepted.1, htotal]
      rfl

end

/-! ### A whole worker -/

def preamble (preparation : Preparation) (worker : Nat) : List Event :=
  if worker = 0 then preparation.report.events preparation.engine.kind else []

theorem run_eq (visit : Visit α) (refuses : Event → Bool) (preparation : Preparation)
    (worker first : Nat) (items : List α) :
    run visit refuses preparation worker first items =
      if (preamble preparation worker).any refuses = true then
        ⟨.error (.workerPanicked worker), accepted refuses (preamble preparation worker), 0⟩
      else if preparation.report.active = 0 then
        ⟨.error .noUsableSignatures, preamble preparation worker, 0⟩
      else
        let after := visitAll visit refuses worker preparation.engine first .empty items
        { after with events := preamble preparation worker ++ after.events } := rfl

def raised (told : Nat → α → List Event) (preparation : Preparation) (worker first : Nat)
    (items : List α) : List Event :=
  preamble preparation worker ++
    if preparation.report.active = 0 then [] else toldOf told first items

section

variable {preparation : Preparation} {worker first : Nat} {items : List α}

theorem run_of_refused (htells : visit.Tells told)
    (hrefused : (raised told preparation worker first items).any refuses = true) :
    (run visit refuses preparation worker first items).result =
      .error (.workerPanicked worker) := by
  rw [raised, List.any_append, Bool.or_eq_true] at hrefused
  rw [run_eq]
  by_cases htold : (preamble preparation worker).any refuses = true
  · rw [if_pos htold]
  · have hitems := hrefused.resolve_left htold
    by_cases hactive : preparation.report.active = 0
    · rw [if_pos hactive] at hitems
      cases hitems
    · rw [if_neg hactive] at hitems
      rw [if_neg htold, if_neg hactive]
      exact visitAll_of_refused htells worker first _ _ items hitems

theorem run_of_inactive (hactive : preparation.report.active = 0)
    (haccepted : (raised told preparation worker first items).any refuses = false) :
    run visit refuses preparation worker first items =
      ⟨.error .noUsableSignatures, raised told preparation worker first items, 0⟩ := by
  rw [raised, if_pos hactive, List.append_nil] at haccepted ⊢
  rw [run_eq, haccepted, if_neg Bool.false_ne_true, if_pos hactive]

/-- A worker whose events are all taken goes through all its items. -/
theorem run_of_accepted (htells : visit.Tells told) (hactive : preparation.report.active ≠ 0)
    (haccepted : (raised told preparation worker first items).any refuses = false) :
    ∃ total, run visit refuses preparation worker first items =
      ⟨.ok total, raised told preparation worker first items, items.length⟩ := by
  rw [raised, if_neg hactive] at haccepted ⊢
  rw [List.any_append, Bool.or_eq_false_iff] at haccepted
  obtain ⟨total, htotal⟩ := visitAll_of_accepted htells worker first preparation.engine .empty items
    haccepted.2
  refine ⟨total, ?_⟩
  rw [run_eq, haccepted.1, if_neg Bool.false_ne_true, if_neg hactive, htotal]

/-- What a worker fails with, if it does: a refusal goes before an engine without patterns. -/
def error? (told : Nat → α → List Event) (refuses : Event → Bool) (preparation : Preparation)
    (worker first : Nat) (items : List α) : Option ScanError :=
  if (raised told preparation worker first items).any refuses then some (.workerPanicked worker)
  else if preparation.report.active = 0 then some .noUsableSignatures
  else none

/-- The error that is told from the items is the one that the worker fails with. -/
theorem result_run_of_error? (htells : visit.Tells told) {e : ScanError}
    (herror : error? told refuses preparation worker first items = some e) :
    (run visit refuses preparation worker first items).result = .error e := by
  unfold error? at herror
  split at herror
  · rename_i hrefused
    rw [run_of_refused htells hrefused, ← Option.some.inj herror]
  · rename_i haccepted
    split at herror
    · rename_i hactive
      rw [run_of_inactive hactive (Bool.eq_false_iff.2 haccepted), ← Option.some.inj herror]
    · cases herror

theorem run_of_error?_none (htells : visit.Tells told)
    (herror : error? told refuses preparation worker first items = none) :
    ∃ total, run visit refuses preparation worker first items =
      ⟨.ok total, raised told preparation worker first items, items.length⟩ := by
  unfold error? at herror
  split at herror
  · cases herror
  · rename_i haccepted
    split at herror
    · cases herror
    · rename_i hactive
      exact run_of_accepted htells hactive (Bool.eq_false_iff.2 haccepted)

theorem error?_eq_none_iff :
    error? told refuses preparation worker first items = none ↔
      (raised told preparation worker first items).any refuses = false ∧
        preparation.report.active ≠ 0 := by
  unfold error?
  split
  · rename_i hrefused
    simp [hrefused]
  · rename_i haccepted
    split
    · rename_i hactive
      simp [hactive]
    · rename_i hactive
      simp [hactive, Bool.eq_false_iff.2 haccepted]

end

end Worker

end FormatScan
