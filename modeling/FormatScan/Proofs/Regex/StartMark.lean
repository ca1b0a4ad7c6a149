import FormatScan.Proofs.Regex.Additive
import FormatScan.Proofs.Regex.Beneath
import FormatScan.Proofs.Regex.Escaped

/-!
# A mark for the beginning in front of a pattern

A pattern with a mark for the beginning in front of it is read as the pattern is, from the next
place on and with the mark beneath. So the mark asks something more of the first branch, and nothing
else is changed: whatever is matched with the mark is matched without it.
-/

namespace FormatScan.Regex

/-! ### Reading from another place -/

theorem Cursor.Enclosed.rest_eq {c c' d : Cursor} (h : c.Enclosed d) (h' : c'.Enclosed d) :
    c'.rest = c.rest := by
  rcases h with hrest | ⟨hnil, hrest⟩
  · rcases h' with hrest' | ⟨-, hrest'⟩
    · exact List.append_cancel_right (hrest'.symm.trans hrest)
    · rw [hrest'] at hrest
      simp at hrest
  · rcases h' with hrest' | ⟨hnil', -⟩
    · rw [hrest'] at hrest
      simp at hrest
    · rw [hnil, hnil']

namespace ParseState

variable {items : List FlagItem} {s t u : ParseState} {ast ast' : Ast} {fuel fuel' : Nat}

/-- Two readings that are alike inside of one group are alike. -/
theorem unplaced_eq_of_finish (hs : s.Enclosed items u) (ht : t.Enclosed items u)
    (hfinish : s.finish = .ok ast) (hfinish' : t.finish = .ok ast') :
    ast'.unplaced = ast.unplaced := by
  obtain ⟨body, outer, span, flags, hpop, hbody, -, -⟩ := popBody_of_finish hs hfinish
  obtain ⟨body', outer', span', flags', hpop', hbody', -, -⟩ := popBody_of_finish ht hfinish'
  have hsame : body = body' := congrArg Prod.fst (hpop.symm.trans hpop')
  rw [← hbody, ← hbody', hsame]

/-- Two readings that a group around the pattern takes for the same differ in places only. -/
theorem unplaced_eq_of_run (hs : s.Enclosed items u) (ht : t.Enclosed items u)
    (hfuel : s.cursor.rest.length < fuel) (hfuel' : s.cursor.rest.length < fuel')
    (hrun : s.run fuel = .ok ast) (hrun' : t.run fuel' = .ok ast') :
    ast'.unplaced = ast.unplaced := by
  -- The induction is on the fuel of the first reading, and the group goes along with both.
  induction fuel generalizing s t u fuel' with
  | zero => exact absurd hfuel (Nat.not_lt_zero _)
  | succ fuel ih =>
      obtain ⟨fuel', rfl⟩ := Nat.exists_eq_succ_of_ne_zero (Nat.ne_zero_of_lt hfuel')
      have hpast := hs.pastSpace
      have hpast' := ht.pastSpace
      have hle := s.cursor.length_skipSpace_le s.verbose
      have hsame : t.pastSpace.cursor.head? = s.pastSpace.cursor.head? :=
        congrArg List.head? (hpast.cursor.rest_eq hpast'.cursor)
      cases hhead : s.pastSpace.cursor.head? with
      | none =>
          rw [run_succ_of_end hhead] at hrun
          rw [run_succ_of_end (hsame.trans hhead)] at hrun'
          exact unplaced_eq_of_finish hpast hpast' hrun hrun'
      | some ch =>
          rw [run_succ_of_head hhead] at hrun
          rw [run_succ_of_head (hsame.trans hhead)] at hrun'
          obtain ⟨next, hstep, hrun⟩ := bind_eq_ok.1 hrun
          obtain ⟨next', hstep', hrun'⟩ := bind_eq_ok.1 hrun'
          obtain ⟨v, hv, hnext, hshorter⟩ := step_enclosed hpast hhead next hstep
          obtain ⟨v', hv', hnext', -⟩ := step_enclosed hpast' (hsame.trans hhead) next' hstep'
          obtain rfl : v = v' := Except.ok.inj (hv.symm.trans hv')
          have hlength : next.cursor.rest.length < s.cursor.rest.length :=
            Nat.lt_of_lt_of_le hshorter hle
          exact ih hnext hnext' (by omega) (by omega) hrun hrun'

def onBase (base : List Ast) (rest : List Char) (p : Position) : ParseState :=
  ⟨⟨rest, p⟩, false, (Parts.empty .start).onto base, [], []⟩

/-- What stands behind the parts and the closing parenthesis of a group around all of it. -/
def onBaseInGroup (base : List Ast) (rest : List Char) : ParseState :=
  ⟨⟨rest ++ [')'], .start⟩, false, (Parts.empty .start).onto base,
    [.group (.empty .start) .nowhere (.plain []) false], []⟩

/-- Inside of a group that begins with the parts, reading goes on as on top of them. -/
theorem onBase_enclosed (base : List Ast) (rest : List Char) (p : Position) :
    (onBase base rest p).Enclosed [] (onBaseInGroup base rest) where
  cursor := .inl rfl
  verbose := rfl
  parts := rfl
  stack := .bottom rfl rfl
  names := rfl

theorem start_raised (base : List Ast) (text : String) :
    (start text).Raised base (onBase base text.toList .start) :=
  ⟨rfl, rfl, rfl, .parts _⟩

end ParseState

/-- What a pattern is behind a mark for the beginning is known up to places from what it is without
the mark. -/
theorem Ast.raised_of_startMark {text : String} {ast ast' : Ast}
    (hread : Ast.ofPattern text = .ok ast) (hread' : Ast.ofPattern ("^" ++ text) = .ok ast') :
    ∃ raised, ast.Raised [ParseState.startMark .start] raised ∧
      ast'.unplaced = raised.unplaced := by
  have hchars : ("^" ++ text).toList = '^' :: text.toList := by
    rw [String.toList_append]
    rfl
  have hrun' := run_of_ofPattern hread'
  rw [ParseState.start, Cursor.ofString, hchars, List.length_cons,
    ParseState.run_startMark] at hrun'
  obtain ⟨raised, hraised, hrelated⟩ :=
    (ParseState.start_raised [ParseState.startMark .start] text).run _ ast (run_of_ofPattern hread)
  refine ⟨raised, hrelated, ?_⟩
  exact ParseState.unplaced_eq_of_run (ParseState.onBase_enclosed ..)
    (ParseState.onBase_enclosed _ _ (Position.start.after '^')) (Nat.lt_succ_self _)
    (Nat.lt_succ_self _) hraised hrun'

/-! ### What is asked for -/

/-- The mark in front of a pattern belongs to its first branch alone. -/
theorem Expr.raised_of_startMark {text : String} {e e' : Expr}
    (hexpr : Expr.ofPattern (.start false) text = .ok e)
    (hexpr' : Expr.ofPattern (.start false) ("^" ++ text) = .ok e') :
    ∃ rest later, e = .alts (.seqs rest :: later) ∧
      e'.unplaced = (Expr.alts (.seqs (.look .textStart :: rest) :: later)).unplaced := by
  obtain ⟨ast, m, hread, hmeaning⟩ := Expr.ofPattern_eq_ok hexpr
  obtain ⟨ast', m', hread', hmeaning'⟩ := Expr.ofPattern_eq_ok hexpr'
  obtain ⟨raised, hraised, hunplaced⟩ := Ast.raised_of_startMark hread hread'
  have hbase : Ast.toExprs (.start false) [ParseState.startMark .start].reverse =
      .ok ([.look .textStart], .start false) := rfl
  obtain ⟨rest, later, rfl, hexprRaised⟩ := hraised.toExpr hbase hmeaning
  refine ⟨rest, later, rfl, ?_⟩
  have hsame : ast'.meaning (.start false) = raised.meaning (.start false) := by
    rw [← Ast.meaning_unplaced, hunplaced, Ast.meaning_unplaced]
  rw [Ast.meaning_eq_some hmeaning', Ast.meaning_eq_some hexprRaised] at hsame
  exact congrArg Prod.fst (Option.some.inj hsame)

namespace Haystack

theorem ends_alts_ne_zero (h : Haystack) {e e' : Expr} {s : Nat} (later : List Expr)
    (hfirst : h.ends e' s ≠ 0 → h.ends e s ≠ 0) (hmatch : h.ends (.alts (e' :: later)) s ≠ 0) :
    h.ends (.alts (e :: later)) s ≠ 0 := by
  cases later with
  | nil => exact hfirst hmatch
  | cons e'' later =>
      change h.ends e' s ||| h.ends (.alts (e'' :: later)) s ≠ 0 at hmatch
      change h.ends e s ||| h.ends (.alts (e'' :: later)) s ≠ 0
      rw [Ne, Nat.or_eq_zero_iff, not_and_or] at hmatch ⊢
      exact hmatch.imp_left hfirst

/-- Whatever is matched with a mark for the beginning in front is matched without it. -/
theorem isMatch_of_startMark {h : Haystack} {text : String} {e e' : Expr}
    (hexpr : Expr.ofPattern (.start false) text = .ok e)
    (hexpr' : Expr.ofPattern (.start false) ("^" ++ text) = .ok e')
    (hmatch : h.isMatch e' = true) : h.isMatch e = true := by
  obtain ⟨rest, later, rfl, hunplaced⟩ := Expr.raised_of_startMark hexpr hexpr'
  rw [← isMatch_unplaced, hunplaced, isMatch_unplaced, isMatch_iff] at hmatch
  rw [isMatch_iff]
  refine h.ends_alts_ne_zero later (fun hfirst => ?_) hmatch
  rw [ends_seqs_cons] at hfirst
  exact ends_ne_zero_of_and hfirst

end Haystack

end FormatScan.Regex
