import FormatScan.Engine.Live
import FormatScan.Proofs.Engine.Agreement

/-!
# Engines in use, without their memories

An engine in use differs from an engine without memories in what its searches remember, and a search
answers alike whatever it remembers. So a scan records the same, and changes nothing but memories;
and preparing in place comes to the same as preparing from nothing.
-/

namespace FormatScan

open Regex

variable {kit : SearchKit} {h : Haystack} {stats : Stats} {bytes : ByteArray}

/-- Each search answers for what a file matches, or gives up if it is one that may. -/
structure SearchKit.IsSound (kit : SearchKit) : Prop where
  bounded {expr memory h found} (hmemory : kit.bounded.Remembers expr memory)
    (hfound : (kit.bounded.run expr memory h).1 = some found) : found = h.isMatch expr
  unbounded {expr memory h} (hmemory : kit.unbounded.Remembers expr memory) :
    (kit.unbounded.run expr memory h).1 = h.isMatch expr
  single {expr memory h} (hmemory : kit.single.Remembers expr memory) :
    (kit.single.run expr memory h).1 = h.isMatch expr
  joint {exprs memory h} (hmemory : kit.joint.Remembers exprs memory) :
    (kit.joint.run exprs memory h).1 = matchingPlaces exprs h

/-! ### Trying every pattern on its own -/

namespace LiveMatcher

/-- With sound searches a matcher answers for its expression, whichever search it has used. -/
theorem search_eq (hkit : kit.IsSound) (m : LiveMatcher kit) (h : Haystack) :
    (m.search h).1 = h.isMatch m.matcher.expr := by
  have hunbounded (m : LiveMatcher kit) : (m.searchUnbounded h).1 = h.isMatch m.matcher.expr :=
    hkit.unbounded m.unbounded.remembers
  unfold search
  split
  · cases hbounded : m.bounded.ask h with
    | mk answer bounded =>
        cases answer with
        | some found => exact hkit.bounded m.bounded.remembers (congrArg Prod.fst hbounded)
        | none => exact hunbounded _
  · exact hunbounded m

/-- A search changes the memory of a matcher and not what is looked for. -/
theorem matcher_search (m : LiveMatcher kit) (h : Haystack) :
    (m.search h).2.matcher = m.matcher := by
  unfold search
  split
  · split <;> rfl
  · rfl

theorem matcher_tryOn (m : LiveMatcher kit) (h : Haystack) (stats : Stats) :
    (m.tryOn h stats).1.matcher = m.matcher := by
  unfold tryOn
  split
  · rfl
  · exact m.matcher_search h

theorem tryOn_eq (hkit : kit.IsSound) (m : LiveMatcher kit) (h : Haystack) (stats : Stats) :
    (m.tryOn h stats).2 = Engine.tryMatcher h stats m.matcher := by
  unfold tryOn Engine.tryMatcher
  split
  · rfl
  · simp only [search_eq hkit]

theorem map_matcher_tryAll (h : Haystack) (matchers : List (LiveMatcher kit)) (stats : Stats) :
    (tryAll h matchers stats).1.map (·.matcher) = matchers.map (·.matcher) := by
  induction matchers generalizing stats with
  | nil => rfl
  | cons m rest ih => simp only [tryAll, List.map_cons, matcher_tryOn, ih]

theorem tryAll_eq (hkit : kit.IsSound) (h : Haystack) (matchers : List (LiveMatcher kit))
    (stats : Stats) :
    (tryAll h matchers stats).2 =
      (matchers.map (·.matcher)).foldl (Engine.tryMatcher h) stats := by
  induction matchers generalizing stats with
  | nil => rfl
  | cons m rest ih => simp only [tryAll, List.map_cons, List.foldl_cons, tryOn_eq hkit, ih]

@[simp]
theorem map_matcher_fresh (made : List Matcher) :
    (made.map (fresh : Matcher → LiveMatcher kit)).map (·.matcher) = made := by
  rw [List.map_map]
  exact List.map_id made

end LiveMatcher

/-! ### Sorting out and verifying -/

theorem matchingPlaces_cons (expr : Expr) (exprs : List Expr) (h : Haystack) :
    matchingPlaces (expr :: exprs) h =
      (if h.isMatch expr then [0] else []) ++ (matchingPlaces exprs h).map (· + 1) := by
  unfold matchingPlaces
  rw [List.zipIdx_cons, List.zipIdx_succ, List.filter_cons, List.filter_map, List.map_map]
  split <;> simp [Function.comp_def]

/-- The places that the filter gives lead to the matchers whose members match. -/
theorem filterMap_matchingPlaces (matchers : List Matcher) (members : List Expr) (h : Haystack) :
    (matchingPlaces members h).filterMap (matchers[·]?) =
      ((matchers.zip members).filter fun m => h.isMatch m.2).map (·.1) := by
  induction members generalizing matchers with
  | nil => simp [matchingPlaces]
  | cons member rest ih =>
      cases matchers with
      | nil => simp
      | cons m others =>
          rw [matchingPlaces_cons, List.filterMap_append, List.filterMap_map, List.zip_cons_cons,
            List.filter_cons]
          have hothers :
              (matchingPlaces rest h).filterMap ((fun i => (m :: others)[i]?) ∘ (· + 1)) =
              ((others.zip rest).filter fun m => h.isMatch m.2).map (·.1) := ih others
          rw [hothers]
          cases h.isMatch member <;> simp

theorem filterMap_range_getElem? (matchers : List Matcher) :
    (List.range matchers.length).filterMap (matchers[·]?) = matchers := by
  induction matchers with
  | nil => rfl
  | cons m rest ih =>
      have hrest : (List.range rest.length).filterMap ((fun i => (m :: rest)[i]?) ∘ Nat.succ) =
          rest := ih
      rw [List.length_cons, List.range_succ_eq_map, List.filterMap_cons, List.filterMap_map, hrest]
      rfl

namespace LiveVerifier

theorem matcher_verify (v : LiveVerifier kit) (h : Haystack) (stats : Stats) :
    (v.verify h stats).1.matcher = v.matcher := by
  unfold verify
  split <;> rfl

theorem verify_eq (hkit : kit.IsSound) (v : LiveVerifier kit) (h : Haystack) (stats : Stats) :
    (v.verify h stats).2 = Engine.verifyMatcher h stats v.matcher := by
  have hsingle : (v.single.ask h).1 = h.isMatch v.matcher.expr := hkit.single v.single.remembers
  unfold verify Engine.verifyMatcher Matcher.matchesFile
  cases v.matcher.pattern.appliesTo h.size with
  | false => rfl
  | true => simp only [if_true, Bool.true_and, hsingle]

theorem map_matcher_verifyAt (h : Haystack) (state : List (LiveVerifier kit) × Stats)
    (place : Nat) : (verifyAt h state place).1.map (·.matcher) = state.1.map (·.matcher) := by
  unfold verifyAt
  split
  · rfl
  · rename_i v hplace
    have hthere : (state.1.map (·.matcher))[place]? = some v.matcher := by
      rw [List.getElem?_map, hplace]
      rfl
    obtain ⟨hlt, hmatcher⟩ := List.getElem?_eq_some_iff.1 hthere
    rw [List.map_set, matcher_verify, ← hmatcher, List.set_getElem_self]

/-- A place beyond the end is verified by nobody. -/
theorem verifyAt_eq (hkit : kit.IsSound) (h : Haystack) (state : List (LiveVerifier kit) × Stats)
    (place : Nat) :
    (verifyAt h state place).2 =
      ((state.1.map (·.matcher))[place]?.toList).foldl (Engine.verifyMatcher h) state.2 := by
  rw [List.getElem?_map, verifyAt]
  cases state.1[place]? with
  | none => rfl
  | some v => exact verify_eq hkit v h state.2

theorem map_matcher_foldl_verifyAt (h : Haystack) (places : List Nat)
    (state : List (LiveVerifier kit) × Stats) :
    (places.foldl (verifyAt h) state).1.map (·.matcher) = state.1.map (·.matcher) := by
  induction places generalizing state with
  | nil => rfl
  | cons place rest ih => rw [List.foldl_cons, ih, map_matcher_verifyAt]

theorem foldl_verifyAt_eq (hkit : kit.IsSound) (h : Haystack) (places : List Nat)
    (state : List (LiveVerifier kit) × Stats) :
    (places.foldl (verifyAt h) state).2 =
      (places.filterMap ((state.1.map (·.matcher))[·]?)).foldl (Engine.verifyMatcher h)
        state.2 := by
  induction places generalizing state with
  | nil => rfl
  | cons place rest ih =>
      rw [List.foldl_cons, ih, map_matcher_verifyAt, verifyAt_eq hkit, List.filterMap_cons]
      cases (state.1.map (·.matcher))[place]? <;> rfl

@[simp]
theorem map_matcher_fresh (made : List Matcher) :
    (made.map (fresh : Matcher → LiveVerifier kit)).map (·.matcher) = made := by
  rw [List.map_map]
  exact List.map_id made

end LiveVerifier

/-! ### Engines -/

namespace LiveEngine

variable {e e' : LiveEngine kit} {patterns : List Pattern}

@[simp]
theorem kind_still (e : LiveEngine kit) : e.still.kind = e.kind := by
  cases e <;> rfl

theorem activeCount_still (e : LiveEngine kit) : e.still.activeCount = e.activeCount := by
  cases e <;> simp [still, Engine.activeCount, activeCount]

theorem hasFilter?_still (e : LiveEngine kit) : e.still.hasFilter? = e.hasFilter? := by
  cases e <;> simp [still, Engine.hasFilter?, hasFilter?]

/-! #### Preparing -/

/-- Of an engine without patterns only the kind is left. -/
theorem clear_eq_of_kind_eq (hkind : e.kind = e'.kind) : e.clear = e'.clear := by
  cases e <;> cases e' <;> first | rfl | cases hkind

/-- Preparing does not depend on what the engine has been through. -/
theorem prepare_eq_of_kind_eq (hkind : e.kind = e'.kind) (patterns : List Pattern) :
    e.prepare patterns = e'.prepare patterns := by
  unfold prepare
  rw [clear_eq_of_kind_eq hkind]

theorem foldl_push_backtrack (made : List Matcher) (matchers : List (LiveMatcher kit)) :
    made.foldl push (.backtrack matchers) = .backtrack (matchers ++ made.map .fresh) := by
  induction made generalizing matchers with
  | nil => rw [List.foldl_nil, List.map_nil, List.append_nil]
  | cons m rest ih => rw [List.foldl_cons, push, ih, List.append_assoc, List.map_cons]; rfl

theorem foldl_push_twoPhase (made : List Matcher) (verifiers : List (LiveVerifier kit))
    (filter : Option (LiveFilter kit)) :
    made.foldl push (.twoPhase verifiers filter) =
      .twoPhase (verifiers ++ made.map .fresh) filter := by
  induction made generalizing verifiers with
  | nil => rw [List.foldl_nil, List.map_nil, List.append_nil]
  | cons m rest ih => rw [List.foldl_cons, push, ih, List.append_assoc, List.map_cons]; rfl

theorem kind_push (e : LiveEngine kit) (m : Matcher) : (e.push m).kind = e.kind := by
  cases e <;> rfl

/-- Patterns are added one by one, and in the end the matchers and the refusals are in the order of
the patterns. -/
theorem foldl_addPattern (e : LiveEngine kit) (excluded : List Exclusion)
    (patterns : List Pattern) :
    patterns.foldl addPattern (e, excluded) =
      (((patterns.map (Matcher.ofPattern e.kind)).filterMap Except.toOption).foldl push e,
        excluded ++ (patterns.map (Matcher.ofPattern e.kind)).filterMap fun
          | .error exclusion => some exclusion
          | .ok _ => none) := by
  induction patterns generalizing e excluded with
  | nil => rw [List.map_nil, List.filterMap_nil, List.filterMap_nil, List.append_nil]; rfl
  | cons p rest ih =>
      rw [List.foldl_cons, addPattern, List.map_cons, List.filterMap_cons, List.filterMap_cons]
      cases hmade : Matcher.ofPattern e.kind p with
      | error exclusion =>
          simp only
          rw [ih, List.append_assoc]
          rfl
      | ok m =>
          simp only
          rw [ih, kind_push]
          rfl

/-- Preparing in place comes to the same as preparing an engine without memories. -/
theorem still_prepare (e : LiveEngine kit) (patterns : List Pattern) :
    (e.prepare patterns).still = e.still.prepare patterns := by
  cases e with
  | backtrack matchers =>
      simp only [prepare, clear, foldl_addPattern, kind, foldl_push_backtrack, combine, still,
        Engine.prepare, LivePreparation.still, activeCount, List.nil_append, List.length_map,
        LiveMatcher.map_matcher_fresh]
      rfl
  | twoPhase verifiers filter =>
      simp only [prepare, clear, foldl_addPattern, kind, foldl_push_twoPhase, combine, still,
        Engine.prepare, List.nil_append, LiveVerifier.map_matcher_fresh]
      generalize (patterns.map (Matcher.ofPattern .twoPhase)).filterMap Except.toOption = made
      -- without patterns there is no filter to set up, and none is left from before
      cases made with
      | nil => rfl
      | cons m rest =>
          simp only [List.isEmpty_map, List.isEmpty_cons, Bool.false_eq_true, if_false,
            Bool.not_false, and_self, if_true]
          cases Matcher.filterOf (m :: rest) with
          | ok members =>
              simp only [LivePreparation.still, still, activeCount,
                LiveVerifier.map_matcher_fresh, List.length_map]
              rfl
          | error fault =>
              simp only [LivePreparation.still, still, activeCount,
                LiveVerifier.map_matcher_fresh, List.length_map]
              rfl

/-! #### Scanning -/

/-- A scan changes nothing but memories. -/
theorem still_scan (e : LiveEngine kit) (bytes : ByteArray) (stats : Stats) :
    (e.scan bytes stats).1.still = e.still := by
  unfold scan
  split
  · rfl
  · cases e with
    | backtrack matchers => simp only [still, LiveMatcher.map_matcher_tryAll]
    | twoPhase verifiers filter =>
        cases filter with
        | none => simp only [still, LiveVerifier.map_matcher_foldl_verifyAt]
        | some filter =>
            simp only [still, LiveVerifier.map_matcher_foldl_verifyAt]
            rfl

/-- What an engine remembers has no part in what it records. -/
theorem scan_eq (hkit : kit.IsSound) (e : LiveEngine kit) (bytes : ByteArray) (stats : Stats) :
    (e.scan bytes stats).2 = e.still.scan bytes stats := by
  unfold scan Engine.scan
  split
  · rfl
  · cases e with
    | backtrack matchers =>
        simp only [still]
        exact LiveMatcher.tryAll_eq hkit _ _ _
    | twoPhase verifiers filter =>
        cases filter with
        | none =>
            have hverified := LiveVerifier.foldl_verifyAt_eq hkit (.ofBytes bytes)
              (List.range verifiers.length) (verifiers, stats)
            have hrange := filterMap_range_getElem? (verifiers.map (·.matcher))
            rw [List.length_map] at hrange
            rw [hrange] at hverified
            exact hverified
        | some filter =>
            have hverified := LiveVerifier.foldl_verifyAt_eq hkit (.ofBytes bytes)
              (matchingPlaces filter.members (.ofBytes bytes)) (verifiers, stats)
            rw [filterMap_matchingPlaces] at hverified
            have hplaces : (filter.ask (.ofBytes bytes)).1 =
                matchingPlaces filter.members (.ofBytes bytes) :=
              hkit.joint filter.joint.remembers
            simp only [hplaces, hverified]
            rfl

end LiveEngine

end FormatScan
