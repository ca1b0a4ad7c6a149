import FormatScan.Proofs.Engine.Hits
import FormatScan.Proofs.Regex.Enclosed.Pattern

/-!
# What the filter leaves

The filter of an engine has a member for each matcher, which asks for the same as the matcher: it is
the text of the pattern, inside of a group where case is of no account. So the filter has no part in
what is detected.
-/

namespace FormatScan

open Regex

variable {kind : EngineKind} {patterns : List Pattern} {p : Pattern} {m : Matcher}
  {matchers : List Matcher} {members : List Expr}

namespace Matcher

/-- A matcher looks for what its pattern asks for, as an expression of its own. -/
theorem ofPattern_eq_ok (hmade : ofPattern kind p = .ok m) :
    m.pattern = p ∧ Expr.ofPattern (.start p.caseless) p.expression = .ok m.expr := by
  rw [ofPattern] at hmade
  split at hmade
  · split at hmade <;> cases hmade
  · rename_i expr hexpr
    split at hmade
    · cases hmade
    · cases hmade
      exact ⟨rfl, hexpr⟩

/-- A member of the filter matches where the matcher does, whatever it says about case. -/
theorem isMatch_filterMember (hmade : ofPattern kind p = .ok m) {member : Expr}
    (hmember : m.filterMember = .ok member) (h : Haystack) :
    h.isMatch member = h.isMatch m.expr := by
  obtain ⟨hpattern, hexpr⟩ := ofPattern_eq_ok hmade
  rw [filterMember, hpattern, memberText] at hmember
  cases hcase : p.caseless with
  | false =>
      rw [hcase] at hexpr hmember
      simp only [Bool.false_eq_true, if_false, hexpr] at hmember
      rw [Except.ok.inj hmember]
  | true =>
      rw [hcase] at hexpr hmember
      simp only [if_true] at hmember
      split at hmember
      · rename_i hexpr'
        cases hmember
        exact h.isMatch_of_caselessGroup hexpr hexpr'
      · cases hmember

end Matcher

namespace Engine

/-- A file satisfies the matchers that the filter leaves and no others, if every member of the
filter asks for the same as its matcher. -/
theorem filter_zip_members {h : Haystack}
    (hmembers : List.Forall₂ (fun m member => h.isMatch member = h.isMatch m.expr) matchers
      members) :
    (((matchers.zip members).filter fun m => h.isMatch m.2).map (·.1)).filter (·.matchesFile h) =
      matchers.filter (·.matchesFile h) := by
  induction hmembers with
  | nil => rfl
  | @cons m member matchers members hsame _ ih =>
      rw [List.zip_cons_cons, List.filter_cons]
      cases hmatch : h.isMatch m.expr with
      | true =>
          rw [if_pos (hsame.trans hmatch), List.map_cons, List.filter_cons, ih, List.filter_cons]
      | false =>
          have hunsatisfied : m.matchesFile h = false := by
            rw [Matcher.matchesFile, hmatch, Bool.and_false]
          rw [if_neg (by simp [hsame, hmatch]), ih,
            List.filter_cons_of_neg (by simp [hunsatisfied])]

theorem matchers_prepare (e : Engine) (patterns : List Pattern) :
    (e.prepare patterns).engine.matchers =
      (patterns.map (Matcher.ofPattern e.kind)).filterMap Except.toOption := by
  rw [prepare]
  split
  · split <;> rfl
  · rfl

theorem excluded_prepare (e : Engine) (patterns : List Pattern) :
    (e.prepare patterns).report.excluded =
      (patterns.map (Matcher.ofPattern e.kind)).filterMap fun
        | .error exclusion => some exclusion
        | .ok _ => none := by
  rw [prepare]
  split
  · split <;> rfl
  · rfl

@[simp]
theorem kind_prepare (e : Engine) (patterns : List Pattern) :
    (e.prepare patterns).engine.kind = e.kind := by
  rw [prepare]
  split
  · split <;> rfl
  · rfl

theorem filter_prepare_eq_some {e : Engine}
    (hfilter : (e.prepare patterns).engine.filter = some members) :
    (e.prepare patterns).engine.matchers.mapM Matcher.filterMember = .ok members := by
  rw [matchers_prepare]
  rw [prepare] at hfilter
  split at hfilter
  · split at hfilter
    · rename_i all hall
      cases hfilter
      rw [Matcher.filterOf] at hall
      obtain ⟨made, hmade, hall⟩ := bind_eq_ok.1 hall
      split at hall
      · cases hall
        exact hmade
      · cases hall
    · cases hfilter
  · cases hfilter

theorem mem_matchers_prepare {e : Engine} :
    m ∈ (e.prepare patterns).engine.matchers ↔
      ∃ p ∈ patterns, Matcher.ofPattern e.kind p = .ok m := by
  rw [matchers_prepare, List.mem_filterMap]
  constructor
  · rintro ⟨made, hmade, hm⟩
    obtain ⟨p, hp, rfl⟩ := List.mem_map.1 hmade
    refine ⟨p, hp, ?_⟩
    cases hresult : Matcher.ofPattern e.kind p with
    | error exclusion =>
        rw [hresult] at hm
        cases hm
    | ok m' =>
        rw [hresult] at hm
        cases hm
        rfl
  · rintro ⟨p, hp, hm⟩
    exact ⟨_, List.mem_map_of_mem hp, by rw [hm]; rfl⟩

/-- The filter of a prepared engine has a member for each matcher, in the same place, which matches
the same. -/
theorem forall₂_filter_prepare {e : Engine}
    (hfilter : (e.prepare patterns).engine.filter = some members) :
    List.Forall₂ (fun m member => ∀ h : Haystack, h.isMatch member = h.isMatch m.expr)
      (e.prepare patterns).engine.matchers members := by
  have hmade : ∀ m ∈ (e.prepare patterns).engine.matchers, ∃ p ∈ patterns,
      Matcher.ofPattern e.kind p = .ok m := fun _ => mem_matchers_prepare.1
  have hmembers := mapM_eq_ok.1 (filter_prepare_eq_some hfilter)
  refine List.Forall₂.imp ?_ ((List.forall₂_and_left _ _).2 ⟨hmade, hmembers⟩)
  rintro m member ⟨⟨p, -, hm⟩, hmember⟩ h
  exact Matcher.isMatch_filterMember hm hmember h

/-- What a prepared engine tries on a file satisfies it wherever a matcher at all does. -/
theorem filter_tried_prepare (e : Engine) (patterns : List Pattern) (h : Haystack) :
    ((e.prepare patterns).engine.tried h).filter (·.matchesFile h) =
      (e.prepare patterns).engine.matchers.filter (·.matchesFile h) := by
  rw [tried]
  split
  · rw [candidates]
    split
    · rfl
    · rename_i members hfilter
      exact filter_zip_members ((forall₂_filter_prepare hfilter).imp fun _ _ hsame => hsame h)
  · rfl

/-- The filter leaves no hit out. -/
theorem hits_prepare (e : Engine) (patterns : List Pattern) (bytes : ByteArray) :
    (e.prepare patterns).engine.hits bytes = if bytes.size = 0 then []
      else ((e.prepare patterns).engine.matchers.filter
        (·.matchesFile (Haystack.ofBytes bytes))).map (·.pattern.name) := by
  simp only [hits, filter_tried_prepare]

/-- A name is found if a file satisfies one of its patterns. -/
theorem mem_hits_prepare {e : Engine} {bytes : ByteArray} {name : String} :
    name ∈ (e.prepare patterns).engine.hits bytes ↔
      bytes.size ≠ 0 ∧ ∃ p ∈ patterns, p.name = name ∧ ∃ m, Matcher.ofPattern e.kind p = .ok m ∧
        m.matchesFile (Haystack.ofBytes bytes) = true := by
  have hmem : name ∈ (e.prepare patterns).engine.hits bytes ↔ bytes.size ≠ 0 ∧
      ∃ m ∈ (e.prepare patterns).engine.matchers,
        m.matchesFile (Haystack.ofBytes bytes) = true ∧ m.pattern.name = name := by
    rw [hits_prepare]
    by_cases hempty : bytes.size = 0
    · simp [hempty]
    · simp [hempty, and_assoc]
  rw [hmem]
  apply and_congr_right
  intro _
  constructor
  · rintro ⟨m, hm, hmatch, hname⟩
    obtain ⟨p, hp, hmade⟩ := mem_matchers_prepare.1 hm
    refine ⟨p, hp, ?_, m, hmade, hmatch⟩
    rw [← (Matcher.ofPattern_eq_ok hmade).1, hname]
  · rintro ⟨p, hp, hname, m, hmade, hmatch⟩
    refine ⟨m, mem_matchers_prepare.2 ⟨p, hp, hmade⟩, hmatch, ?_⟩
    rw [(Matcher.ofPattern_eq_ok hmade).1, hname]

end Engine

def prepareFor (kind : EngineKind) (anchoring : Anchoring) (signatures : List Signature) :
    Preparation :=
  ({ kind } : Engine).prepare (Signature.compileAll anchoring signatures).1

end FormatScan
