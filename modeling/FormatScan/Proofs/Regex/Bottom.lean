import FormatScan.Proofs.Fallible
import FormatScan.Regex.Parser
import Mathlib.Tactic.SplitIfs

/-!
# What lies at the bottom while a pattern is read

Groups, repetitions and alternations take away what was read last at most, and a bar closes a branch
as it stands. Parts that were read first and that another part covers therefore stay where they are:
the pattern is a sequence that begins with them, or an alternation whose first branch is.
-/

namespace FormatScan.Regex

def Parts.Covers (parts : Parts) (base : List Ast) : Prop :=
  ∃ above, above ≠ [] ∧ parts.parts = above ++ base

def Ast.StartsWith (base : List Ast) (ast : Ast) : Prop :=
  ∃ parts last, Parts.Covers parts base ∧ ast = parts.toAst last

namespace ParseState

variable {base : List Ast}

/-- The parts of `base` lie at the bottom, covered by another part: in the sequence that is being
read, in front of a group that is open, or in the first branch of an alternation. -/
inductive Grounded (base : List Ast) : Parts → List Frame → Prop
  | parts {parts : Parts} (hcovers : parts.Covers base) : Grounded base parts []
  | branches {parts : Parts} {p : Position} {branches : List Ast} {first : Ast}
      (hlast : [first] <:+ branches) (hfirst : first.StartsWith base) :
      Grounded base parts [.alternation p branches]
  | group {parts outer : Parts} {span : Span} {kind : GroupKind} {verbose : Bool}
      {stack : List Frame} (houter : Grounded base outer stack) :
      Grounded base parts (.group outer span kind verbose :: stack)
  | inner {parts outer : Parts} {span : Span} {kind : GroupKind} {verbose : Bool}
      {stack : List Frame} {p : Position} {branches : List Ast}
      (houter : Grounded base outer stack) :
      Grounded base parts (.alternation p branches :: .group outer span kind verbose :: stack)

inductive HasBottom (base : List Ast) : Ast → Prop
  | sequence {ast : Ast} (hstarts : ast.StartsWith base) : HasBottom base ast
  | alternation {span : Span} {first : Ast} {more : List Ast} (hfirst : first.StartsWith base)
      (hmore : more ≠ []) : HasBottom base (.alternation span (first :: more))

/-! ### Changes on top -/

theorem Grounded.push {parts : Parts} {stack : List Frame} (hgrounded : Grounded base parts stack)
    (part : Ast) : Grounded base (parts.push part) stack := by
  cases hgrounded with
  | parts hcovers =>
      obtain ⟨above, -, hparts⟩ := hcovers
      refine .parts ⟨part :: above, List.cons_ne_nil _ _, ?_⟩
      rw [Parts.push, hparts, List.cons_append]
  | branches hlast hfirst => exact .branches hlast hfirst
  | group houter => exact .group houter
  | inner houter => exact .inner houter

/-- The part on top may be replaced, which is what a repetition does. -/
theorem Grounded.replace {first : Position} {part : Ast} {rest : List Ast} {stack : List Frame}
    (hgrounded : Grounded base ⟨first, part :: rest⟩ stack) (part' : Ast) :
    Grounded base ⟨first, part' :: rest⟩ stack := by
  cases hgrounded with
  | parts hcovers =>
      obtain ⟨above, hne, hparts⟩ := hcovers
      cases above with
      | nil => exact absurd rfl hne
      | cons top above =>
          obtain ⟨-, hrest⟩ := List.cons.inj hparts
          exact .parts ⟨part' :: above, List.cons_ne_nil _ _, congrArg (part' :: ·) hrest⟩
  | branches hlast hfirst => exact .branches hlast hfirst
  | group houter => exact .group houter
  | inner houter => exact .inner houter

/-! ### What a step can do -/

variable {s s' : ParseState}

/-- A step reads a part, puts a repetition in the place of the last part, opens a group, closes one,
or ends a branch. -/
inductive Move (s s' : ParseState) : Prop
  | push (part : Ast) (hparts : s'.parts = s.parts.push part) (hstack : s'.stack = s.stack)
  | replace {first : Position} {part part' : Ast} {rest : List Ast}
      (hbefore : s.parts = ⟨first, part :: rest⟩) (hafter : s'.parts = ⟨first, part' :: rest⟩)
      (hstack : s'.stack = s.stack)
  | enter {span : Span} {kind : GroupKind} {verbose : Bool}
      (hstack : s'.stack = .group s.parts span kind verbose :: s.stack)
  | close (hclose : s.closeGroup = .ok s')
  | branch (hbranch : s' = s.pushBranch)

theorem move_of_openNamedGroup {span : Span} {c : Cursor}
    (hopen : s.openNamedGroup span c = .ok s') : Move s s' := by
  rw [openNamedGroup] at hopen
  obtain ⟨⟨name, last⟩, -, hopen⟩ := bind_eq_ok.1 hopen
  simp only [fail, error_bind, ite_error_eq_ok] at hopen
  obtain ⟨-, hopen⟩ := hopen
  split at hopen
  · cases hopen
  · cases hopen
    exact .enter rfl

theorem move_of_openFlagGroup {span inner : Span} {c : Cursor}
    (hopen : s.openFlagGroup span inner c = .ok s') : Move s s' := by
  rw [openFlagGroup] at hopen
  simp only [fail, error_bind, ite_error_eq_ok] at hopen
  obtain ⟨-, hopen⟩ := hopen
  obtain ⟨⟨items, last⟩, -, hopen⟩ := bind_eq_ok.1 hopen
  split at hopen
  · obtain ⟨-, hopen⟩ := ite_error_eq_ok.1 hopen
    cases hopen
    exact .push _ rfl rfl
  · cases hopen
    exact .enter rfl

theorem move_of_openGroup (hopen : s.openGroup = .ok s') : Move s s' := by
  rw [openGroup] at hopen
  split at hopen
  · cases hopen
  · split at hopen
    · exact move_of_openNamedGroup hopen
    · split at hopen
      · exact move_of_openFlagGroup hopen
      · cases hopen
        exact .enter rfl

theorem parts_eq_of_popOperand {part : Ast} {parts : Parts}
    (hpop : s.popOperand = .ok (part, parts)) :
    s.parts = ⟨parts.first, part :: parts.parts⟩ := by
  obtain ⟨cursor, verbose, ⟨first, all⟩, stack, names⟩ := s
  rw [popOperand] at hpop
  split at hpop
  · cases hpop
  · cases hpop
  · cases hpop
  · rename_i hall
    cases hpop
    exact congrArg (Parts.mk first) hall

theorem move_of_pushRepetition {part : Ast} {parts : Parts}
    (hpop : s.popOperand = .ok (part, parts)) (min : Nat) (max : Option Nat) (greedy : Bool)
    (c : Cursor) : Move s (s.pushRepetition parts part min max greedy c) :=
  .replace (parts_eq_of_popOperand hpop) rfl rfl

theorem move_of_repeatSimple {min : Nat} {max : Option Nat}
    (hrepeat : s.repeatSimple min max = .ok s') : Move s s' := by
  rw [repeatSimple] at hrepeat
  obtain ⟨⟨part, parts⟩, hpop, hrepeat⟩ := bind_eq_ok.1 hrepeat
  cases hrepeat
  exact move_of_pushRepetition hpop ..

theorem move_of_repeatCounted (hrepeat : s.repeatCounted = .ok s') : Move s s' := by
  rw [repeatCounted] at hrepeat
  obtain ⟨⟨part, parts⟩, hpop, hrepeat⟩ := bind_eq_ok.1 hrepeat
  simp only [fail, error_bind, ite_error_eq_ok, bind_eq_ok] at hrepeat
  obtain ⟨-, counts, -, -, -, hrepeat⟩ := hrepeat
  cases hrepeat
  exact move_of_pushRepetition hpop ..

/-- No step does anything else. -/
theorem move_of_step {ch : Char} (hstep : s.step ch = .ok s') : Move s s' := by
  rw [step] at hstep
  split_ifs at hstep
  · exact move_of_openGroup hstep
  · exact .close hstep
  · cases hstep
    exact .branch rfl
  · exact move_of_repeatSimple hstep
  · exact move_of_repeatSimple hstep
  · exact move_of_repeatSimple hstep
  · exact move_of_repeatCounted hstep
  · obtain ⟨⟨part, c⟩, -, hstep⟩ := bind_eq_ok.1 hstep
    cases hstep
    exact .push part rfl rfl
  · obtain ⟨⟨part, c⟩, -, hstep⟩ := bind_eq_ok.1 hstep
    cases hstep
    exact .push part rfl rfl

/-! ### What steps preserve -/

theorem grounded_closeGroup (hgrounded : Grounded base s.parts s.stack)
    (hclose : s.closeGroup = .ok s') : Grounded base s'.parts s'.stack := by
  obtain ⟨cursor, verbose, parts, stack, names⟩ := s
  cases hgrounded with
  | parts hcovers => cases hclose
  | branches hlast hfirst => cases hclose
  | group houter =>
      cases hclose
      exact houter.push _
  | inner houter =>
      cases hclose
      exact houter.push _

theorem grounded_pushBranch (hgrounded : Grounded base s.parts s.stack) :
    Grounded base s.pushBranch.parts s.pushBranch.stack := by
  obtain ⟨cursor, verbose, parts, stack, names⟩ := s
  cases hgrounded with
  | parts hcovers => exact .branches List.suffix_rfl ⟨parts, _, hcovers, rfl⟩
  | branches hlast hfirst => exact .branches (hlast.trans (List.suffix_cons _ _)) hfirst
  | group houter => exact .inner houter
  | inner houter => exact .inner houter

/-- The parts at the bottom stay there, whatever the step. -/
theorem Move.grounded (hmove : Move s s') (hgrounded : Grounded base s.parts s.stack) :
    Grounded base s'.parts s'.stack := by
  cases hmove with
  | push part hparts hstack =>
      rw [hparts, hstack]
      exact hgrounded.push part
  | replace hbefore hafter hstack =>
      rw [hbefore] at hgrounded
      rw [hafter, hstack]
      exact hgrounded.replace _
  | enter hstack =>
      rw [hstack]
      exact .group hgrounded
  | close hclose => exact grounded_closeGroup hgrounded hclose
  | branch hbranch =>
      rw [hbranch]
      exact grounded_pushBranch hgrounded

/-- At the end what lies at the bottom is part of the pattern. -/
theorem hasBottom_of_finish {ast : Ast} (hgrounded : Grounded base s.parts s.stack)
    (hfinish : s.finish = .ok ast) : HasBottom base ast := by
  obtain ⟨cursor, verbose, parts, stack, names⟩ := s
  cases hgrounded with
  | parts hcovers =>
      cases hfinish
      exact .sequence ⟨parts, _, hcovers, rfl⟩
  | branches hlast hfirst =>
      cases hfinish
      obtain ⟨later, hbranches⟩ := hlast
      rw [← hbranches, List.reverse_cons, List.reverse_append, List.reverse_singleton,
        List.append_assoc, List.singleton_append]
      exact .alternation hfirst (by simp)
  | group houter => cases hfinish
  | inner houter => cases hfinish

theorem run_nil (hverbose : s.verbose = false) (hrest : s.cursor.rest = []) (fuel : Nat) :
    s.run fuel = s.finish := by
  obtain ⟨⟨rest, p⟩, verbose, parts, stack, names⟩ := s
  cases hverbose
  cases hrest
  cases fuel <;> rfl

/-- However a pattern goes on, the parts that lie at the bottom are where it begins. -/
theorem hasBottom_of_run {ast : Ast} {fuel : Nat} (hgrounded : Grounded base s.parts s.stack)
    (hrun : s.run fuel = .ok ast) : HasBottom base ast := by
  -- The induction is on the fuel, and every step keeps the parts at the bottom.
  induction fuel generalizing s with
  | zero => exact hasBottom_of_finish hgrounded hrun
  | succ fuel ih =>
      rw [run] at hrun
      simp only at hrun
      split at hrun
      · refine hasBottom_of_finish ?_ hrun
        exact hgrounded
      · obtain ⟨next, hstep, hrun⟩ := bind_eq_ok.1 hrun
        exact ih ((move_of_step hstep).grounded hgrounded) hrun

end ParseState

end FormatScan.Regex
