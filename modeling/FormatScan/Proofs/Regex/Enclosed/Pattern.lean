import FormatScan.Proofs.Regex.Bottom
import FormatScan.Proofs.Regex.Enclosed.Operator
import FormatScan.Proofs.Regex.Sequence

/-!
# Patterns inside of a group

A pattern and the same pattern inside of a group with flags are read step by step, and the two
readings differ in one frame at the bottom of the stack. A closing parenthesis of the pattern itself
never gets to that frame, for on its own the pattern would be at fault; the last one closes it. A
comment that runs to the end leaves the group open, and then it is no pattern.
-/

namespace FormatScan.Regex

/-! ### Without places -/

def Parts.unplaced (parts : Parts) : Parts := ⟨.start, parts.parts.map Ast.unplaced⟩

def GroupKind.unplaced : GroupKind → GroupKind
  | .capture => .capture
  | .plain items => .plain (items.map FlagItem.unplaced)

namespace Parts

variable {parts parts' : Parts} {part part' : Ast}

theorem map_parts (hparts : parts'.unplaced = parts.unplaced) :
    parts'.parts.map Ast.unplaced = parts.parts.map Ast.unplaced :=
  congrArg Parts.parts hparts

theorem unplaced_push (hparts : parts'.unplaced = parts.unplaced)
    (hpart : part'.unplaced = part.unplaced) :
    (parts'.push part').unplaced = (parts.push part).unplaced := by
  have hpush (parts : Parts) (part : Ast) : (parts.push part).unplaced =
      ⟨.start, part.unplaced :: parts.parts.map Ast.unplaced⟩ := rfl
  rw [hpush, hpush, hpart, map_parts hparts]

theorem unplaced_toAst (parts : Parts) (last : Position) :
    (parts.toAst last).unplaced = parts.unplaced.toAst .start := by
  obtain ⟨first, all⟩ := parts
  rcases all with _ | ⟨part, _ | ⟨part', all⟩⟩
  · rfl
  · rfl
  · rw [toAst, Ast.unplaced, Ast.unplacedAll_eq_map, List.map_reverse]
    rfl

/-- Parts that differ in places only make patterns that differ in places only. -/
theorem toAst_unplaced (hparts : parts'.unplaced = parts.unplaced) (last last' : Position) :
    (parts'.toAst last').unplaced = (parts.toAst last).unplaced := by
  rw [unplaced_toAst, unplaced_toAst, hparts]

end Parts

theorem GroupKind.unplaced_toAst {kind kind' : GroupKind} {body body' : Ast}
    (hkind : kind'.unplaced = kind.unplaced) (hbody : body'.unplaced = body.unplaced)
    (span span' : Span) :
    (kind'.toAst span' body').unplaced = (kind.toAst span body).unplaced := by
  cases kind with
  | capture =>
      cases kind' with
      | capture => rw [toAst, toAst, Ast.unplaced, Ast.unplaced, hbody]
      | plain items' => cases hkind
  | plain items =>
      cases kind' with
      | capture => cases hkind
      | plain items' =>
          rw [toAst, toAst, Ast.unplaced, Ast.unplaced, hbody, GroupKind.plain.inj hkind]

theorem unplaced_alternation {branches branches' : List Ast}
    (hbranches : branches'.map Ast.unplaced = branches.map Ast.unplaced) (span span' : Span) :
    (Ast.alternation span' branches').unplaced = (Ast.alternation span branches).unplaced := by
  rw [Ast.unplaced, Ast.unplaced, Ast.unplacedAll_eq_map, Ast.unplacedAll_eq_map, hbranches]

def Ast.isOperand : Ast → Bool
  | .empty _ => false
  | .flags _ _ => false
  | _ => true

theorem Ast.isOperand_unplaced (ast : Ast) : ast.unplaced.isOperand = ast.isOperand := by
  cases ast <;> rfl

namespace ParseState

/-! ### The two readings -/

/-- The second stack has what the first one has, and under it the group around the pattern. -/
inductive Stacked (items : List FlagItem) : List Frame → List Frame → Prop
  | bottom {outer : Parts} {span : Span} {flags : List FlagItem} (houter : outer.parts = [])
      (hflags : flags.map FlagItem.unplaced = items.map FlagItem.unplaced) :
      Stacked items [] [.group outer span (.plain flags) false]
  | group {outer outer' : Parts} {span span' : Span} {kind kind' : GroupKind} {verbose : Bool}
      {stack stack' : List Frame} (houter : outer'.unplaced = outer.unplaced)
      (hkind : kind'.unplaced = kind.unplaced) (hbelow : Stacked items stack stack') :
      Stacked items (.group outer span kind verbose :: stack)
        (.group outer' span' kind' verbose :: stack')
  | alternation {p p' : Position} {branches branches' : List Ast} {stack stack' : List Frame}
      (hbranches : branches'.map Ast.unplaced = branches.map Ast.unplaced)
      (hgroup : ∀ q others rest, stack ≠ .alternation q others :: rest)
      (hbelow : Stacked items stack stack') :
      Stacked items (.alternation p branches :: stack) (.alternation p' branches' :: stack')

/-- The state `s` of reading a pattern, and the state `s'` of reading it inside of a group. -/
structure Enclosed (items : List FlagItem) (s s' : ParseState) : Prop where
  cursor : s.cursor.Enclosed s'.cursor
  verbose : s'.verbose = s.verbose
  parts : s'.parts.unplaced = s.parts.unplaced
  stack : Stacked items s.stack s'.stack
  names : s'.names.map Prod.fst = s.names.map Prod.fst

def Nexts (items : List FlagItem) (bound : Nat) (t t' : ParseState) : Prop :=
  t.Enclosed items t' ∧ t.cursor.rest.length < bound

variable {items : List FlagItem} {s s' : ParseState} {c c' : Cursor} {bound : Nat}

def pastSpace (s : ParseState) : ParseState :=
  { s with cursor := s.cursor.skipSpace s.verbose }

theorem run_add_one (s : ParseState) (fuel : Nat) :
    s.run (fuel + 1) = match s.pastSpace.cursor.head? with
      | none => s.pastSpace.finish
      | some ch => s.pastSpace.step ch >>= run fuel := rfl

theorem run_succ_of_head {ch : Char} (hhead : s.pastSpace.cursor.head? = some ch) (fuel : Nat) :
    s.run (fuel + 1) = s.pastSpace.step ch >>= run fuel := by
  rw [run_add_one, hhead]

theorem run_succ_of_end (hhead : s.pastSpace.cursor.head? = none) (fuel : Nat) :
    s.run (fuel + 1) = s.pastSpace.finish := by
  rw [run_add_one, hhead]

namespace Enclosed

theorem pastSpace (h : s.Enclosed items s') : s.pastSpace.Enclosed items s'.pastSpace := by
  have hcursor := h.cursor.skipSpace s.verbose
  rw [ParseState.pastSpace, ParseState.pastSpace, h.verbose]
  exact { h with cursor := hcursor, verbose := rfl }

theorem push (h : s.Enclosed items s') {part part' : Ast} (hcursor : c.Enclosed c')
    (hpart : part'.unplaced = part.unplaced) {verbose : Bool} :
    Enclosed items { s with cursor := c, verbose := verbose, parts := s.parts.push part }
      { s' with cursor := c', verbose := verbose, parts := s'.parts.push part' } :=
  { h with cursor := hcursor, verbose := rfl, parts := Parts.unplaced_push h.parts hpart }

theorem enterGroup (h : s.Enclosed items s') {kind kind' : GroupKind}
    (hkind : kind'.unplaced = kind.unplaced) (hcursor : c.Enclosed c') (span span' : Span)
    (verbose : Bool) : Enclosed items (s.enterGroup span kind verbose c)
      (s'.enterGroup span' kind' verbose c') where
  cursor := hcursor
  verbose := rfl
  parts := rfl
  stack := by
    rw [ParseState.enterGroup, ParseState.enterGroup, h.verbose]
    exact .group h.parts hkind h.stack
  names := h.names

end Enclosed

/-! ### Opening a group -/

theorem find?_name_isSome {names names' : List (String × Span)} (name : String)
    (hnames : names'.map Prod.fst = names.map Prod.fst) :
    (names'.find? (·.1 = name)).isSome = (names.find? (·.1 = name)).isSome := by
  have hfind (names : List (String × Span)) : (names.find? (·.1 = name)).isSome =
      ((names.map Prod.fst).find? (· = name)).isSome := by
    rw [List.find?_map, Option.isSome_map]
    rfl
  rw [hfind, hnames, ← hfind]

theorem openNamedGroup_enclosed {span span' : Span} (h : s.Enclosed items s')
    (hcursor : c.Enclosed c') (hbound : c.rest.length < bound) :
    Mirrors (Nexts items bound) (s.openNamedGroup span c) (s'.openNamedGroup span' c') := by
  rw [openNamedGroup, openNamedGroup]
  refine (follows_readGroupName hcursor (Nat.lt_succ_self _)
    (Nat.lt_succ_of_le hcursor.length_le) hbound).mirrors_bind ?_
  intro name name' last last' hname hlast hlength
  obtain rfl : name' = name := hname
  simp only
  by_cases hempty : (String.ofList name').isEmpty = true
  · rw [if_pos hempty]
    exact .error _
  rw [if_neg hempty, if_neg hempty]
  have hfind := find?_name_isSome (String.ofList name') h.names
  cases hearlier : s.names.find? (·.1 = String.ofList name') with
  | some earlier => exact .error _
  | none =>
      rw [hearlier, Option.isSome_none, Option.isSome_eq_false_iff, Option.isNone_iff_eq_none]
        at hfind
      rw [hfind]
      have hstop := last.length_bump_le
      have hentered : Enclosed items (s.enterGroup span .capture s.verbose last.bump)
          (s'.enterGroup span' .capture s.verbose last'.bump) := h.enterGroup rfl hlast.bump ..
      rw [h.verbose]
      refine .ok ⟨{ hentered with names := ?_ }, Nat.lt_of_le_of_lt hstop hlength⟩
      rw [List.map_cons, List.map_cons, h.names]

theorem openFlagGroup_enclosed {span span' inner inner' : Span} (h : s.Enclosed items s')
    (hcursor : c.Enclosed c') (hbound : c.rest.length < bound) :
    Mirrors (Nexts items bound) (s.openFlagGroup span inner c)
      (s'.openFlagGroup span' inner' c') := by
  rw [openFlagGroup, openFlagGroup]
  refine .unlessEnd hcursor ⟨_, rfl⟩ fun _ => ?_
  refine (mirrors_readFlags hcursor hbound).bind ?_
  rintro ⟨flags, last⟩ ⟨flags', last'⟩ ⟨hvalue, hlast, hlength, hsign⟩
  have hignore : flagState .ignoreWhitespace flags' = flagState .ignoreWhitespace flags := by
    rw [← flagState_unplaced, hvalue, flagState_unplaced]
  have hempty : flags'.isEmpty = flags.isEmpty := by
    rw [← List.isEmpty_map (f := FlagItem.unplaced), hvalue, List.isEmpty_map]
  have hstop : last.bump.rest.length < bound := Nat.lt_of_le_of_lt last.length_bump_le hlength
  simp only at hsign
  simp only [hsign, hignore, hempty, h.verbose]
  split
  · split
    · exact .error _
    · refine .ok ⟨h.push hlast.bump ?_, hstop⟩
      rw [Ast.unplaced, Ast.unplaced, hvalue]
  · have hkind : (GroupKind.plain flags').unplaced = (GroupKind.plain flags).unplaced :=
      congrArg GroupKind.plain hvalue
    exact .ok ⟨h.enterGroup hkind hlast.bump .., hstop⟩

theorem openGroup_enclosed (h : s.Enclosed items s') {ch : Char}
    (hhead : s.cursor.head? = some ch) :
    Mirrors (Nexts items s.cursor.rest.length) s.openGroup s'.openGroup := by
  have hinner := h.cursor.bumpSpace s.verbose
  have hlength := s.cursor.length_bumpSpace_lt s.verbose hhead
  rw [openGroup, openGroup, h.verbose]
  generalize s.cursor.bumpSpace s.verbose = c at hinner hlength
  generalize s'.cursor.bumpSpace s.verbose = c' at hinner
  cases hlook : lookAroundMarks.findSome? c.bumpIf? with
  | some last => exact .error _
  | none =>
      have hlook' : lookAroundMarks.findSome? c'.bumpIf? = none := by
        rw [List.findSome?_eq_none_iff] at hlook ⊢
        intro mark hmark
        have hplain : ∀ mark ∈ lookAroundMarks, ')' ∉ mark := by decide
        rcases hinner.bumpIf? mark (hplain mark hmark) with ⟨-, hnone⟩ | ⟨d, d', hsome, -⟩
        · exact hnone
        · rw [hlook mark hmark] at hsome
          cases hsome
      rw [hlook']
      simp only
      have hnamed {name name' : Cursor} (hname : name.Enclosed name')
          (hle : name.rest.length ≤ c.rest.length) :
          Mirrors (Nexts items s.cursor.rest.length) (s.openNamedGroup s.cursor.charSpan name)
            (s'.openNamedGroup s'.cursor.charSpan name') :=
        openNamedGroup_enclosed h hname (Nat.lt_of_le_of_lt hle hlength)
      rcases hinner.bumpIf? ['?', 'P', '<'] with ⟨hlong, hlong'⟩ | ⟨d, d', hlong, hlong', hcursor⟩
      · rcases hinner.bumpIf? ['?', '<'] with ⟨hshort, hshort'⟩ | ⟨d, d', hshort, hshort', hcursor⟩
        · rw [hlong, hlong', hshort, hshort']
          simp only [Option.or_none]
          rcases hinner.bumpIf? ['?'] with ⟨hmark, hmark'⟩ | ⟨d, d', hmark, hmark', hcursor⟩
          · rw [hmark, hmark']
            exact .ok ⟨h.enterGroup rfl hinner .., hlength⟩
          · have hle := Cursor.length_le_of_bumpIf? hmark
            rw [hmark, hmark']
            exact openFlagGroup_enclosed h hcursor (by omega)
        · rw [hlong, hlong', hshort, hshort']
          exact hnamed hcursor (Cursor.length_le_of_bumpIf? hshort)
      · rw [hlong, hlong']
        exact hnamed hcursor (Cursor.length_le_of_bumpIf? hlong)

/-! ### Branches and closing -/

theorem pushBranch_enclosed (h : s.Enclosed items s') :
    s.pushBranch.Enclosed items s'.pushBranch where
  cursor := h.cursor.bump
  verbose := h.verbose
  parts := rfl
  stack := by
    have hbranch := Parts.toAst_unplaced h.parts s.cursor.pos s'.cursor.pos
    rw [pushBranch, pushBranch]
    have hstack := h.stack
    generalize s.stack = stack at hstack
    generalize s'.stack = stack' at hstack
    cases hstack with
    | bottom houter hflags =>
        refine .alternation ?_ (fun _ _ _ heq => nomatch heq) (.bottom houter hflags)
        exact congrArg (· :: []) hbranch
    | group houter hkind hbelow =>
        refine .alternation ?_ (fun _ _ _ heq => nomatch heq) (.group houter hkind hbelow)
        exact congrArg (· :: []) hbranch
    | alternation hbranches hgroup hbelow =>
        refine .alternation ?_ hgroup hbelow
        rw [List.map_cons, List.map_cons, hbranch, hbranches]
  names := h.names

/-- What is closed is the group on top in both readings, if there is one in the first. -/
inductive Popped (items : List FlagItem) : Ast × List Frame → Ast × List Frame → Prop
  | bottom {body body' : Ast} {outer : Parts} {span : Span} {flags : List FlagItem}
      (hbody : body'.unplaced = body.unplaced) (houter : outer.parts = [])
      (hflags : flags.map FlagItem.unplaced = items.map FlagItem.unplaced) :
      Popped items (body, []) (body', [.group outer span (.plain flags) false])
  | group {body body' : Ast} {outer outer' : Parts} {span span' : Span} {kind kind' : GroupKind}
      {verbose : Bool} {stack stack' : List Frame} (hbody : body'.unplaced = body.unplaced)
      (houter : outer'.unplaced = outer.unplaced) (hkind : kind'.unplaced = kind.unplaced)
      (hbelow : Stacked items stack stack') :
      Popped items (body, .group outer span kind verbose :: stack)
        (body', .group outer' span' kind' verbose :: stack')

theorem popped_of_stacked {stack stack' : List Frame} {body body' : Ast}
    (hstack : Stacked items stack stack') (hbody : body'.unplaced = body.unplaced)
    (hgroup : ∀ q others rest, stack ≠ .alternation q others :: rest) :
    Popped items (body, stack) (body', stack') := by
  cases hstack with
  | bottom houter hflags => exact .bottom hbody houter hflags
  | group houter hkind hbelow => exact .group hbody houter hkind hbelow
  | alternation hbranches hgroup' hbelow => exact absurd rfl (hgroup _ _ _)

theorem popBody_enclosed (h : s.Enclosed items s') (last last' : Position) :
    Popped items (s.popBody last) (s'.popBody last') := by
  have hbody := Parts.toAst_unplaced h.parts last last'
  rw [popBody, popBody]
  have hstack := h.stack
  generalize s.stack = stack at hstack
  generalize s'.stack = stack' at hstack
  cases hstack with
  | bottom houter hflags => exact .bottom hbody houter hflags
  | group houter hkind hbelow => exact .group hbody houter hkind hbelow
  | alternation hbranches hgroup hbelow =>
      refine popped_of_stacked hbelow (unplaced_alternation ?_ ..) hgroup
      rw [List.map_reverse, List.map_reverse, List.map_cons, List.map_cons, hbody, hbranches]

/-- A group that was opened inside is closed alike. -/
theorem closeGroup_enclosed (h : s.Enclosed items s') {ch : Char}
    (hhead : s.cursor.head? = some ch) :
    Mirrors (Nexts items s.cursor.rest.length) s.closeGroup s'.closeGroup := by
  have hpop := popBody_enclosed h s.cursor.pos s'.cursor.pos
  rw [closeGroup, closeGroup]
  generalize s.popBody s.cursor.pos = popped at hpop
  generalize s'.popBody s'.cursor.pos = popped' at hpop
  cases hpop with
  | bottom hbody houter hflags => exact .error _
  | group hbody houter hkind hbelow =>
      refine .ok ⟨?_, Cursor.length_bump_lt hhead⟩
      exact
        { cursor := h.cursor.bump
          verbose := rfl
          parts := Parts.unplaced_push houter (GroupKind.unplaced_toAst hkind hbody ..)
          stack := hbelow
          names := h.names }

/-! ### Repetitions -/

theorem popOperand_of_parts {part : Ast} {rest : List Ast} (hparts : s.parts.parts = part :: rest) :
    s.popOperand = if part.isOperand then .ok (part, ⟨s.parts.first, rest⟩)
      else fail .repetitionMissing (.at s.cursor.pos) := by
  rw [popOperand, hparts]
  cases part <;> rfl

theorem popOperand_enclosed (h : s.Enclosed items s') :
    Mirrors (fun x x' => x'.1.unplaced = x.1.unplaced ∧ x'.2.unplaced = x.2.unplaced)
      s.popOperand s'.popOperand := by
  have hmap := Parts.map_parts h.parts
  cases hparts : s.parts.parts with
  | nil =>
      rw [popOperand, hparts]
      exact .error _
  | cons part rest =>
      rw [hparts] at hmap
      obtain ⟨part', rest', hparts', hpart, hrest⟩ := List.map_eq_cons_iff.1 hmap
      have hoperand : part'.isOperand = part.isOperand := by
        rw [← Ast.isOperand_unplaced, hpart, Ast.isOperand_unplaced]
      rw [popOperand_of_parts hparts, popOperand_of_parts hparts', hoperand]
      split
      · exact .ok ⟨hpart, congrArg (Parts.mk .start) hrest⟩
      · exact .error _

theorem pushRepetition_enclosed (h : s.Enclosed items s') {parts parts' : Parts} {part part' : Ast}
    (hparts : parts'.unplaced = parts.unplaced) (hpart : part'.unplaced = part.unplaced)
    (hcursor : c.Enclosed c') (min : Nat) (max : Option Nat) (greedy : Bool) :
    (s.pushRepetition parts part min max greedy c).Enclosed items
      (s'.pushRepetition parts' part' min max greedy c') := by
  refine { h with cursor := hcursor, parts := Parts.unplaced_push hparts ?_ }
  rw [Ast.unplaced, Ast.unplaced, hpart]

theorem repeatSimple_enclosed (h : s.Enclosed items s') {ch : Char}
    (hhead : s.cursor.head? = some ch) (min : Nat) (max : Option Nat) :
    Mirrors (Nexts items s.cursor.rest.length) (s.repeatSimple min max)
      (s'.repeatSimple min max) := by
  rw [repeatSimple, repeatSimple]
  refine (popOperand_enclosed h).bind ?_
  rintro ⟨part, parts⟩ ⟨part', parts'⟩ ⟨hpart, hparts⟩
  obtain ⟨hgreedy, hcursor, hlength⟩ := readGreed_enclosed h.cursor.bump
  have hshorter := Cursor.length_bump_lt hhead
  simp only [hgreedy]
  exact .ok ⟨pushRepetition_enclosed h hparts hpart hcursor .., Nat.lt_of_le_of_lt hlength hshorter⟩

theorem repeatCounted_enclosed (h : s.Enclosed items s') {ch : Char}
    (hhead : s.cursor.head? = some ch) :
    Mirrors (Nexts items s.cursor.rest.length) s.repeatCounted s'.repeatCounted := by
  rw [repeatCounted, repeatCounted, h.verbose]
  refine (popOperand_enclosed h).bind ?_
  rintro ⟨part, parts⟩ ⟨part', parts'⟩ ⟨hpart, hparts⟩
  have hinner := h.cursor.bumpSpace s.verbose
  have hshorter := s.cursor.length_bumpSpace_lt s.verbose hhead
  refine .unlessEnd hinner ⟨_, rfl⟩ fun _ => ?_
  refine (follows_readCounts hinner hshorter).mirrors_bind ?_
  rintro ⟨min, max⟩ counts' d d' hcounts hcursor hlength
  obtain rfl : counts' = (min, max) := hcounts
  simp only [Ne, hcursor.head?_iff '}']
  split
  · exact .error _
  obtain ⟨hgreedy, hlast, hle⟩ := readGreed_enclosed (hcursor.bumpSpace s.verbose)
  have hbehind := d.length_bumpSpace_le s.verbose
  simp only [hgreedy]
  split
  · exact .error _
  · have hstop : (readGreed (d.bumpSpace s.verbose)).2.rest.length < s.cursor.rest.length := by
      omega
    exact .ok ⟨pushRepetition_enclosed h hparts hpart hlast .., hstop⟩

/-! ### Steps and runs -/

theorem follows_readPlain (h : s.Enclosed items s') {ch : Char} (hhead : s.cursor.head? = some ch) :
    Follows Ast.unplaced s.cursor.rest.length (s.readPlain ch) (s'.readPlain ch) := by
  have hshorter := Cursor.length_bump_lt hhead
  rw [readPlain, readPlain, h.verbose]
  split_ifs
  · exact follows_readEscape h.cursor
  · exact .ok rfl h.cursor.bump hshorter
  · exact .ok rfl h.cursor.bump hshorter
  · exact .ok rfl h.cursor.bump hshorter
  · exact .ok rfl h.cursor.bump hshorter

/-- One step inside of the group does what it does without the group. -/
theorem step_enclosed (h : s.Enclosed items s') {ch : Char} (hhead : s.cursor.head? = some ch) :
    Mirrors (Nexts items s.cursor.rest.length) (s.step ch) (s'.step ch) := by
  have hpart {read read' : Parsed (Ast × Cursor)}
      (hread : Follows Ast.unplaced s.cursor.rest.length read read') :
      Mirrors (Nexts items s.cursor.rest.length)
        (read >>= fun x => pure { s with cursor := x.2, parts := s.parts.push x.1 })
        (read' >>= fun x => pure
          { s' with cursor := x.2, verbose := s.verbose, parts := s'.parts.push x.1 }) := by
    refine hread.mirrors_bind ?_
    intro part part' d d' hpart hcursor hlength
    exact .ok ⟨h.push hcursor hpart, hlength⟩
  rw [step, step, h.verbose]
  split_ifs
  · exact openGroup_enclosed h hhead
  · exact closeGroup_enclosed h hhead
  · exact .ok ⟨pushBranch_enclosed h, Cursor.length_bump_lt hhead⟩
  · exact repeatSimple_enclosed h hhead _ _
  · exact repeatSimple_enclosed h hhead _ _
  · exact repeatSimple_enclosed h hhead _ _
  · exact repeatCounted_enclosed h hhead
  · exact hpart (follows_readBracketed h.cursor)
  · exact hpart (follows_readPlain h hhead)

/-- Where the pattern ends on its own, the group around it is on top. -/
theorem popBody_of_finish (h : s.Enclosed items s') {ast : Ast} (hfinish : s.finish = .ok ast) :
    ∃ body outer span flags, s'.popBody s'.cursor.pos =
        (body, [.group outer span (.plain flags) false]) ∧ body.unplaced = ast.unplaced ∧
      outer.parts = [] ∧ flags.map FlagItem.unplaced = items.map FlagItem.unplaced := by
  have hpop := popBody_enclosed h s.cursor.pos s'.cursor.pos
  rw [finish] at hfinish
  generalize s.popBody s.cursor.pos = popped at hpop hfinish
  generalize s'.popBody s'.cursor.pos = popped' at hpop
  cases hpop with
  | bottom hbody houter hflags =>
      cases hfinish
      exact ⟨_, _, _, _, rfl, hbody, houter, hflags⟩
  | group hbody houter hkind hbelow => cases hfinish

/-- The closing parenthesis makes a group of what the pattern is on its own. -/
theorem run_closing (h : s.Enclosed items s') {ast ast' : Ast} {fuel : Nat}
    (hfinish : s.finish = .ok ast) (hrest : s'.cursor.rest = [')'])
    (hrun : s'.step ')' >>= run fuel = .ok ast') :
    ast'.unplaced = .group .nowhere (items.map FlagItem.unplaced) ast.unplaced := by
  obtain ⟨body, outer, span, flags, hpop, hbody, houter, hflags⟩ := popBody_of_finish h hfinish
  obtain ⟨t, hclose, hrun⟩ := bind_eq_ok.1 hrun
  have hstep : s'.closeGroup = .ok t := hclose
  rw [closeGroup, hpop] at hstep
  cases hstep
  have hend : s'.cursor.bump.rest = [] := by
    rw [Cursor.bump, hrest]
  rw [run_nil rfl hend, finish, popBody, Parts.push, houter] at hrun
  cases hrun
  change (Ast.group _ flags body).unplaced = _
  rw [Ast.unplaced, hbody, hflags]

/-- A group that is left open is no pattern. -/
theorem finish_ne_ok_of_finish (h : s.Enclosed items s') {ast ast' : Ast}
    (hfinish : s.finish = .ok ast) : s'.finish ≠ .ok ast' := by
  obtain ⟨body, outer, span, flags, hpop, -, -, -⟩ := popBody_of_finish h hfinish
  rw [finish, hpop]
  intro hok
  cases hok

/-- What is read inside of a group is the group around what is read without it. -/
theorem run_enclosed (h : s.Enclosed items s') {fuel fuel' : Nat} {ast ast' : Ast}
    (hfuel : s.cursor.rest.length < fuel) (hfuel' : s.cursor.rest.length + 1 < fuel')
    (hrun : s.run fuel = .ok ast) (hrun' : s'.run fuel' = .ok ast') :
    ast'.unplaced = .group .nowhere (items.map FlagItem.unplaced) ast.unplaced := by
  -- The induction is on the fuel of the first reading; a step of one is a step of the other.
  induction fuel generalizing s s' fuel' with
  | zero => exact absurd hfuel (Nat.not_lt_zero _)
  | succ fuel ih =>
      obtain ⟨fuel', rfl⟩ := Nat.exists_eq_succ_of_ne_zero (Nat.ne_zero_of_lt hfuel')
      have hpast := h.pastSpace
      have hle := s.cursor.length_skipSpace_le s.verbose
      cases hhead : s.pastSpace.cursor.head? with
      | none =>
          rw [run_succ_of_end hhead] at hrun
          have hnil := List.head?_eq_none_iff.1 hhead
          rcases hpast.cursor with hrest | ⟨-, hrest⟩
          · rw [hnil, List.nil_append] at hrest
            rw [run_succ_of_head (by rw [Cursor.head?, hrest]; rfl)] at hrun'
            exact run_closing hpast hrun hrest hrun'
          · rw [run_succ_of_end (by rw [Cursor.head?, hrest]; rfl)] at hrun'
            exact absurd hrun' (finish_ne_ok_of_finish hpast hrun)
      | some ch =>
          rw [run_succ_of_head hhead] at hrun
          rw [run_succ_of_head (hpast.cursor.head? hhead)] at hrun'
          obtain ⟨t, hstep, hrun⟩ := bind_eq_ok.1 hrun
          obtain ⟨t', hstep', hnext, hshorter⟩ := step_enclosed hpast hhead t hstep
          rw [hstep', ok_bind] at hrun'
          have hlength : t.cursor.rest.length < s.cursor.rest.length :=
            Nat.lt_of_lt_of_le hshorter hle
          exact ih hnext (by omega) (by omega) hrun hrun'

end ParseState

/-! ### Texts -/

def caselessGroup (text : String) : String := "(?i:" ++ text ++ ")"

def caselessItem : FlagItem := ⟨.nowhere, some .caseInsensitive⟩

theorem run_of_ofPattern {text : String} {ast : Ast} (hread : Ast.ofPattern text = .ok ast) :
    (ParseState.start text).run (text.toList.length + 1) = .ok ast := by
  rw [Ast.ofPattern] at hread
  obtain ⟨ast', hrun, hread⟩ := bind_eq_ok.1 hread
  obtain ⟨-, -, hread⟩ := bind_eq_ok.1 hread
  cases hread
  exact hrun

/-- The state behind the opening of the group. -/
theorem run_caselessGroup (text : String) (fuel : Nat) :
    ∃ s', (ParseState.start (caselessGroup text)).run (fuel + 1) = s'.run fuel ∧
      (ParseState.start text).Enclosed [caselessItem] s' := by
  have hchars : (caselessGroup text).toList = "(?i:".toList ++ (text.toList ++ [')']) := by
    rw [caselessGroup, String.toList_append, String.toList_append, List.append_assoc]
    rfl
  rw [ParseState.start, Cursor.ofString, hchars]
  refine ⟨_, rfl, ?_⟩
  exact
    { cursor := .inl rfl
      verbose := rfl
      parts := rfl
      stack := .bottom rfl rfl
      names := rfl }

/-- Inside of the group a pattern is what it is on its own. -/
theorem Ast.unplaced_of_caselessGroup {text : String} {ast ast' : Ast}
    (hread : Ast.ofPattern text = .ok ast)
    (hread' : Ast.ofPattern (caselessGroup text) = .ok ast') :
    ast'.unplaced = .group .nowhere [caselessItem] ast.unplaced := by
  have hlength : (caselessGroup text).toList.length = text.toList.length + 5 := by
    rw [caselessGroup, String.toList_append, String.toList_append, List.length_append,
      List.length_append, Nat.add_right_comm, Nat.add_comm]
    rfl
  have hrun' := run_of_ofPattern hread'
  rw [hlength] at hrun'
  obtain ⟨s', hopen, hstart⟩ := run_caselessGroup text (text.toList.length + 5)
  rw [hopen] at hrun'
  exact ParseState.run_enclosed hstart (Nat.lt_succ_self _) (Nat.add_lt_add_left (by decide) _)
    (run_of_ofPattern hread) hrun'

theorem Modes.apply_caselessItem : (Modes.start false).apply [caselessItem] = .start true := rfl

/-- What the group asks for is what the pattern asks for where case is of no account. -/
theorem Expr.unplaced_of_caselessGroup {text : String} {e e' : Expr}
    (hexpr : Expr.ofPattern (.start true) text = .ok e)
    (hexpr' : Expr.ofPattern (.start false) (caselessGroup text) = .ok e') :
    e'.unplaced = .group none e.unplaced := by
  obtain ⟨ast, m, hread, hmeaning⟩ := Expr.ofPattern_eq_ok hexpr
  obtain ⟨ast', m', hread', hmeaning'⟩ := Expr.ofPattern_eq_ok hexpr'
  have hgroup : ast'.meaning (.start false) = some (.group none e.unplaced, .start false) := by
    rw [← Ast.meaning_unplaced, Ast.unplaced_of_caselessGroup hread hread', Ast.meaning_group,
      Modes.apply_caselessItem, Ast.meaning_unplaced, Ast.meaning_eq_some hmeaning]
    rfl
  rw [Ast.meaning_eq_some hmeaning'] at hgroup
  exact congrArg Prod.fst (Option.some.inj hgroup)

/-- A pattern without regard to case matches what its text matches inside of the group. -/
theorem Haystack.isMatch_of_caselessGroup {text : String} {e e' : Expr}
    (hexpr : Expr.ofPattern (.start true) text = .ok e)
    (hexpr' : Expr.ofPattern (.start false) (caselessGroup text) = .ok e') (h : Haystack) :
    h.isMatch e' = h.isMatch e :=
  calc h.isMatch e' = h.isMatch e'.unplaced := (h.isMatch_unplaced e').symm
    _ = h.isMatch (.group none e.unplaced) := by rw [Expr.unplaced_of_caselessGroup hexpr hexpr']
    _ = h.isMatch e.unplaced := rfl
    _ = h.isMatch e := h.isMatch_unplaced e

end FormatScan.Regex
