import FormatScan.Proofs.Regex.Enclosed.Pattern

/-!
# Parts beneath a pattern

A step asks for the part that was read last and for nothing below it. So a pattern that is read
without a fault is read in the same way on top of other parts, step by step, and what is read on top
of them has these parts in front of it, up to the first bar that is outside of all groups.
-/

namespace FormatScan.Regex

variable {base : List Ast}

def Parts.onto (parts : Parts) (base : List Ast) : Parts := ⟨parts.first, parts.parts ++ base⟩

def Ast.Behind (base : List Ast) (ast ast' : Ast) : Prop :=
  ∃ parts last, ast = Parts.toAst parts last ∧ ast' = (parts.onto base).toAst last

/-- The second is what the first is, with the parts of `base` in front of the first branch. -/
inductive Ast.Raised (base : List Ast) : Ast → Ast → Prop
  | sequence {ast ast' : Ast} (hbehind : ast.Behind base ast') : Raised base ast ast'
  | alternation {span : Span} {first first' : Ast} {more : List Ast}
      (hfirst : first.Behind base first') :
      Raised base (.alternation span (first :: more)) (.alternation span (first' :: more))

namespace ParseState

/-- What is read and what is open, without the parts of `base` and with them at the bottom: beneath
the sequence that is being read, in front of a group that is open, or in the first branch of an
alternation. -/
inductive Beneath (base : List Ast) : Parts → List Frame → Parts → List Frame → Prop
  | parts (parts : Parts) : Beneath base parts [] (parts.onto base) []
  | branches {parts : Parts} {p : Position} {branches : List Ast} {first first' : Ast}
      (hfirst : first.Behind base first') :
      Beneath base parts [.alternation p (branches ++ [first])]
        parts [.alternation p (branches ++ [first'])]
  | group {parts outer outer' : Parts} {span : Span} {kind : GroupKind} {verbose : Bool}
      {stack stack' : List Frame} (houter : Beneath base outer stack outer' stack') :
      Beneath base parts (.group outer span kind verbose :: stack)
        parts (.group outer' span kind verbose :: stack')
  | inner {parts outer outer' : Parts} {span : Span} {kind : GroupKind} {verbose : Bool}
      {stack stack' : List Frame} {p : Position} {branches : List Ast}
      (houter : Beneath base outer stack outer' stack') :
      Beneath base parts (.alternation p branches :: .group outer span kind verbose :: stack)
        parts (.alternation p branches :: .group outer' span kind verbose :: stack')

/-- The state `s'` is the state `s` but for the parts of `base` at the bottom. -/
structure Raised (base : List Ast) (s s' : ParseState) : Prop where
  cursor : s'.cursor = s.cursor
  verbose : s'.verbose = s.verbose
  names : s'.names = s.names
  beneath : Beneath base s.parts s.stack s'.parts s'.stack

variable {s s' : ParseState} {parts parts' : Parts} {stack stack' : List Frame}

/-! ### Changes on top -/

theorem Beneath.push (h : Beneath base parts stack parts' stack') (part : Ast) :
    Beneath base (parts.push part) stack (parts'.push part) stack' := by
  cases h with
  | parts => exact .parts (parts.push part)
  | branches hfirst => exact .branches hfirst
  | group houter => exact .group houter
  | inner houter => exact .inner houter

theorem Beneath.pop {part : Ast} {rest : List Ast} (h : Beneath base parts stack parts' stack')
    (hparts : parts.parts = part :: rest) :
    ∃ rest', parts'.parts = part :: rest' ∧
      Beneath base ⟨parts.first, rest⟩ stack ⟨parts'.first, rest'⟩ stack' := by
  cases h with
  | parts =>
      refine ⟨rest ++ base, ?_, .parts ⟨parts.first, rest⟩⟩
      rw [Parts.onto, hparts, List.cons_append]
  | branches hfirst => exact ⟨rest, hparts, .branches hfirst⟩
  | group houter => exact ⟨rest, hparts, .group houter⟩
  | inner houter => exact ⟨rest, hparts, .inner houter⟩

namespace Raised

theorem pastSpace (h : s.Raised base s') : s.pastSpace.Raised base s'.pastSpace := by
  rw [ParseState.pastSpace, ParseState.pastSpace, h.cursor, h.verbose]
  exact { h with cursor := rfl, verbose := rfl }

theorem enterGroup (h : s.Raised base s') (span : Span) (kind : GroupKind) (verbose : Bool)
    (c : Cursor) :
    (s.enterGroup span kind verbose c).Raised base (s'.enterGroup span kind verbose c) where
  cursor := rfl
  verbose := rfl
  names := h.names
  beneath := by
    rw [ParseState.enterGroup, ParseState.enterGroup, h.verbose]
    exact .group h.beneath

theorem openNamedGroup (h : s.Raised base s') (span : Span) (c : Cursor) :
    Mirrors (Raised base) (s.openNamedGroup span c) (s'.openNamedGroup span c) := by
  rw [ParseState.openNamedGroup, ParseState.openNamedGroup, h.names, h.verbose]
  refine .bind (.refl _) ?_
  rintro ⟨name, last⟩ _ rfl
  simp only
  split
  · exact .error _
  · split
    · exact .error _
    · have hentered := h.enterGroup span .capture s.verbose last.bump
      exact .ok { hentered with names := rfl }

theorem openFlagGroup (h : s.Raised base s') (span inner : Span) (c : Cursor) :
    Mirrors (Raised base) (s.openFlagGroup span inner c) (s'.openFlagGroup span inner c) := by
  rw [ParseState.openFlagGroup, ParseState.openFlagGroup, h.verbose]
  split
  · exact .error _
  · refine .bind (.refl _) ?_
    rintro ⟨items, last⟩ _ rfl
    simp only
    split
    · split
      · exact .error _
      · exact .ok { h with cursor := rfl, verbose := rfl, beneath := h.beneath.push _ }
    · exact .ok (h.enterGroup ..)

theorem openGroup (h : s.Raised base s') : Mirrors (Raised base) s.openGroup s'.openGroup := by
  rw [ParseState.openGroup, ParseState.openGroup, h.cursor, h.verbose]
  split
  · exact .error _
  · split
    · exact h.openNamedGroup _ _
    · split
      · exact h.openFlagGroup _ _ _
      · exact .ok (h.enterGroup ..)

theorem pushBranch (h : s.Raised base s') : s.pushBranch.Raised base s'.pushBranch := by
  obtain ⟨c, verbose, parts, stack, names⟩ := s
  obtain ⟨c', verbose', parts', stack', names'⟩ := s'
  obtain ⟨rfl, rfl, rfl, hbeneath⟩ := h
  change Beneath base parts stack parts' stack' at hbeneath
  refine ⟨rfl, rfl, rfl, ?_⟩
  cases hbeneath with
  | parts => exact @Beneath.branches _ _ _ [] _ _ ⟨parts, _, rfl, rfl⟩
  | branches hfirst => exact @Beneath.branches _ _ _ (_ :: _) _ _ hfirst
  | group houter => exact .inner houter
  | inner houter => exact .inner houter

theorem closeGroup (h : s.Raised base s') : Mirrors (Raised base) s.closeGroup s'.closeGroup := by
  obtain ⟨c, verbose, parts, stack, names⟩ := s
  obtain ⟨c', verbose', parts', stack', names'⟩ := s'
  obtain ⟨rfl, rfl, rfl, hbeneath⟩ := h
  change Beneath base parts stack parts' stack' at hbeneath
  cases hbeneath with
  | parts => exact .error _
  | branches hfirst => exact .error _
  | group houter => exact .ok ⟨rfl, rfl, rfl, houter.push _⟩
  | inner houter => exact .ok ⟨rfl, rfl, rfl, houter.push _⟩

/-! ### Repetitions -/

theorem popOperand (h : s.Raised base s') :
    Mirrors (fun x x' => x'.1 = x.1 ∧ Beneath base x.2 s.stack x'.2 s'.stack)
      s.popOperand s'.popOperand := by
  cases hparts : s.parts.parts with
  | nil =>
      rw [ParseState.popOperand, hparts]
      exact .error _
  | cons part rest =>
      obtain ⟨rest', hparts', hbeneath⟩ := h.beneath.pop hparts
      rw [popOperand_of_parts hparts, popOperand_of_parts hparts']
      split
      · exact .ok ⟨rfl, hbeneath⟩
      · exact .error _

theorem pushRepetition (h : s.Raised base s')
    (hbeneath : Beneath base parts s.stack parts' s'.stack) (part : Ast) (min : Nat)
    (max : Option Nat) (greedy : Bool) (c : Cursor) :
    (s.pushRepetition parts part min max greedy c).Raised base
      (s'.pushRepetition parts' part min max greedy c) :=
  { h with cursor := rfl, beneath := hbeneath.push _ }

theorem repeatSimple (h : s.Raised base s') (min : Nat) (max : Option Nat) :
    Mirrors (Raised base) (s.repeatSimple min max) (s'.repeatSimple min max) := by
  rw [ParseState.repeatSimple, ParseState.repeatSimple, h.cursor]
  refine h.popOperand.bind ?_
  rintro ⟨part, parts⟩ ⟨_, parts'⟩ ⟨rfl, hbeneath⟩
  exact .ok (h.pushRepetition hbeneath ..)

theorem repeatCounted (h : s.Raised base s') :
    Mirrors (Raised base) s.repeatCounted s'.repeatCounted := by
  rw [ParseState.repeatCounted, ParseState.repeatCounted, h.cursor, h.verbose]
  refine h.popOperand.bind ?_
  rintro ⟨part, parts⟩ ⟨_, parts'⟩ ⟨rfl, hbeneath⟩
  simp only
  split
  · exact .error _
  · refine .bind (.refl _) ?_
    rintro ⟨⟨min, max⟩, c⟩ _ rfl
    simp only
    split
    · exact .error _
    · split
      · exact .error _
      · exact .ok (h.pushRepetition hbeneath ..)

/-! ### Steps and runs -/

/-- Reading a sign does not look at what lies at the bottom. -/
theorem step (h : s.Raised base s') (ch : Char) :
    Mirrors (Raised base) (s.step ch) (s'.step ch) := by
  have hpart (read : Parsed (Ast × Cursor)) :
      Mirrors (Raised base)
        (read >>= fun x => pure { s with cursor := x.2, parts := s.parts.push x.1 })
        (read >>= fun x => pure
          { s' with cursor := x.2, verbose := s.verbose, parts := s'.parts.push x.1 }) := by
    refine .bind (.refl read) ?_
    rintro ⟨part, c⟩ _ rfl
    exact .ok { h with cursor := rfl, verbose := rfl, beneath := h.beneath.push part }
  have hplain : s'.readPlain ch = s.readPlain ch := by
    rw [readPlain, readPlain, h.cursor, h.verbose]
  rw [ParseState.step, ParseState.step, hplain, h.cursor, h.verbose]
  split_ifs
  · exact h.openGroup
  · exact h.closeGroup
  · exact .ok h.pushBranch
  · exact h.repeatSimple _ _
  · exact h.repeatSimple _ _
  · exact h.repeatSimple _ _
  · exact h.repeatCounted
  · exact hpart _
  · exact hpart _

/-- At the end the parts at the bottom come out in front of the first branch. -/
theorem finish (h : s.Raised base s') : Mirrors (Ast.Raised base) s.finish s'.finish := by
  obtain ⟨c, verbose, parts, stack, names⟩ := s
  obtain ⟨c', verbose', parts', stack', names'⟩ := s'
  obtain ⟨rfl, rfl, rfl, hbeneath⟩ := h
  change Beneath base parts stack parts' stack' at hbeneath
  cases hbeneath with
  | parts => exact .ok (.sequence ⟨parts, _, rfl, rfl⟩)
  | branches hfirst =>
      simp only [ParseState.finish, popBody, List.reverse_cons, List.reverse_append,
        List.append_assoc, List.singleton_append]
      exact .ok (.alternation hfirst)
  | group houter => exact .error _
  | inner houter => exact .error _

/-- Whatever pattern is read, it is read on top of other parts, too. -/
theorem run (h : s.Raised base s') (fuel : Nat) :
    Mirrors (Ast.Raised base) (s.run fuel) (s'.run fuel) := by
  induction fuel generalizing s s' with
  | zero => exact h.finish
  | succ fuel ih =>
      have hpast := h.pastSpace
      rw [run_add_one, run_add_one, hpast.cursor]
      split
      · exact hpast.finish
      · exact (hpast.step _).bind fun _ _ => ih

end Raised

end ParseState

/-! ### What is asked for -/

namespace Ast

variable {m m' : Modes} {es : List Expr} {e : Expr} {ast ast' : Ast}

theorem Behind.toExpr (h : ast.Behind base ast') (hbase : toExprs m base.reverse = .ok (es, m))
    (hexpr : ast.toExpr m = .ok (e, m')) :
    ∃ rest, e = .seqs rest ∧ ast'.toExpr m = .ok (.seqs (es ++ rest), m') := by
  obtain ⟨parts, last, rfl, rfl⟩ := h
  rw [toExpr_toAst] at hexpr
  obtain ⟨⟨rest, after⟩, hrest, hexpr⟩ := bind_eq_ok.1 hexpr
  cases hexpr
  refine ⟨rest, rfl, ?_⟩
  rw [toExpr_toAst, Parts.onto, List.reverse_append, toExprs_append _ hbase, hrest]
  rfl

/-- In front of the first branch is what the parts beneath ask for, and nothing else is changed. -/
theorem Raised.toExpr (h : ast.Raised base ast') (hbase : toExprs m base.reverse = .ok (es, m))
    (hexpr : ast.toExpr m = .ok (e, m')) :
    ∃ rest later, e = .alts (.seqs rest :: later) ∧
      ast'.toExpr m = .ok (.alts (.seqs (es ++ rest) :: later), m') := by
  cases h with
  | sequence hbehind =>
      obtain ⟨rest, rfl, hexpr'⟩ := hbehind.toExpr hbase hexpr
      exact ⟨rest, [], rfl, hexpr'⟩
  | @alternation span first first' more hfirst =>
      rw [Ast.toExpr] at hexpr
      obtain ⟨⟨all, last⟩, hall, hexpr⟩ := bind_eq_ok.1 hexpr
      cases hexpr
      obtain ⟨e, next, later, hfirstExpr, hlater, rfl⟩ := toExprs_cons_eq_ok hall
      obtain ⟨rest, rfl, hfirstExpr'⟩ := hfirst.toExpr hbase hfirstExpr
      refine ⟨rest, later, rfl, ?_⟩
      rw [Ast.toExpr, toExprs, hfirstExpr', ok_bind]
      simp only [hlater]
      rfl

end Ast

end FormatScan.Regex
