import FormatScan.Proofs.Regex.Enclosed.Escape
import FormatScan.Regex.Bracket

/-!
# Character classes inside of a group

A character class ends at its own bracket, so that a closing parenthesis behind the text never has a
part in it.
-/

namespace FormatScan.Regex

variable {c c' d : Cursor} {verbose : Bool} {bound : Nat} {start start' : Position}

/-! ### Without places -/

def ClassItems.unplaced (u : ClassItems) : ClassItems :=
  ⟨.nowhere, u.items.map ClassSet.unplaced⟩

def ClassFrame.unplaced : ClassFrame → ClassFrame
  | .opened outer _ negated => .opened outer.unplaced .nowhere negated
  | .op kind left => .op kind left.unplaced

namespace ClassItems

variable {u u' : ClassItems} {item item' : ClassSet}

theorem unplaced_push (hitems : u'.unplaced = u.unplaced) (hitem : item'.unplaced = item.unplaced) :
    (u'.push item').unplaced = (u.push item).unplaced := by
  have hmap : u'.items.map ClassSet.unplaced = u.items.map ClassSet.unplaced :=
    congrArg ClassItems.items hitems
  have hpush (u : ClassItems) (item : ClassSet) : (u.push item).unplaced =
      ⟨.nowhere, item.unplaced :: u.items.map ClassSet.unplaced⟩ := rfl
  rw [hpush, hpush, hitem, hmap]

theorem unplaced_toSet (u : ClassItems) : u.toSet.unplaced = u.unplaced.toSet := by
  obtain ⟨span, items⟩ := u
  rcases items with _ | ⟨item, _ | ⟨item', items⟩⟩
  · rfl
  · rfl
  · rw [toSet, ClassSet.unplaced, ClassSet.unplacedAll_eq_map, List.map_reverse]
    rfl

theorem isEmpty_items (hitems : u'.unplaced = u.unplaced) :
    u'.items.isEmpty = u.items.isEmpty := by
  have hmap : u'.items.map ClassSet.unplaced = u.items.map ClassSet.unplaced :=
    congrArg ClassItems.items hitems
  rw [Bool.eq_iff_iff, List.isEmpty_iff, List.isEmpty_iff, ← List.map_eq_nil_iff, hmap,
    List.map_eq_nil_iff]

end ClassItems

/-! ### Opening a class -/

theorem follows_readDashes {fuel fuel' : Nat} {u u' : ClassItems} (h : c.Enclosed c')
    (hfuel : c.rest.length < fuel) (hfuel' : c'.rest.length < fuel')
    (hitems : u'.unplaced = u.unplaced) (hbound : c.rest.length < bound) :
    Follows ClassItems.unplaced bound (readDashes verbose start u fuel c)
      (readDashes verbose start' u' fuel' c') := by
  induction fuel generalizing fuel' c c' u u' with
  | zero => exact absurd hfuel (Nat.not_lt_zero _)
  | succ fuel ih =>
      obtain ⟨fuel', rfl⟩ := Nat.exists_eq_succ_of_ne_zero (Nat.ne_zero_of_lt hfuel')
      rw [readDashes, readDashes]
      simp only [h.head?_iff '-']
      by_cases hdash : c.head? = some '-'
      · rw [if_pos hdash, if_pos hdash]
        have hshorter := c.length_bumpSpace_lt verbose hdash
        have hshorter' := c'.length_bumpSpace_lt verbose (h.head? hdash)
        have hnext := h.bumpSpace verbose
        refine .unlessEnd hnext ⟨_, rfl⟩ fun _ => ?_
        exact ih hnext (by omega) (by omega) (ClassItems.unplaced_push hitems rfl) (by omega)
      · rw [if_neg hdash, if_neg hdash]
        exact .ok hitems h hbound

def openedUnplaced (opened : Span × Bool × ClassItems) : Bool × ClassItems :=
  (opened.2.1, opened.2.2.unplaced)

theorem follows_openBracket (h : c.Enclosed c') {ch : Char} (hhead : c.head? = some ch) :
    Follows openedUnplaced c.rest.length (openBracket verbose c) (openBracket verbose c') := by
  have hshorter := c.length_bumpSpace_lt verbose hhead
  have hinner := h.bumpSpace verbose
  rw [openBracket, openBracket]
  generalize c.bumpSpace verbose = e at hshorter hinner
  generalize c'.bumpSpace verbose = e' at hinner
  simp only [hinner.head?_beq '^']
  generalize (e.head? == some '^') = negated
  refine .unlessEnd hinner ⟨_, rfl⟩ fun _ => ?_
  have hopen : (if negated = true then e.bumpSpace verbose else e).Enclosed
      (if negated = true then e'.bumpSpace verbose else e') := by
    split
    · exact hinner.bumpSpace verbose
    · exact hinner
  have hlength : (if negated = true then e.bumpSpace verbose else e).rest.length <
      c.rest.length := by
    have hle := e.length_bumpSpace_le verbose
    split <;> omega
  generalize (if negated = true then e.bumpSpace verbose else e) = first at hopen hlength
  generalize (if negated = true then e'.bumpSpace verbose else e') = first' at hopen
  refine .unlessEnd hopen ⟨_, rfl⟩ fun _ => ?_
  refine .bind (follows_readDashes hopen (Nat.lt_succ_self _) (Nat.lt_succ_self _) rfl hlength) ?_
  intro u u' last last' hitems hlast hbehind
  simp only [ClassItems.isEmpty_items hitems, hlast.head?_beq ']']
  have hle := last.length_bumpSpace_le verbose
  split
  · refine .unlessEnd (hlast.bumpSpace verbose) ⟨_, rfl⟩ fun _ => ?_
    refine .ok (congrArg (Prod.mk negated) ?_) (hlast.bumpSpace verbose) (by omega)
    exact ClassItems.unplaced_push hitems rfl
  · exact .ok (congrArg (Prod.mk negated) hitems) hlast hbehind

/-! ### Classes of ASCII characters -/

theorem takeWhile_enclosed (test : Char → Bool) (h : c.Enclosed c') :
    (Cursor.takeWhile test c.rest c.pos).2.Enclosed (Cursor.takeWhile test c'.rest c'.pos).2 ∧
      (Cursor.takeWhile test c.rest c.pos).2.rest.length ≤ c.rest.length ∧
      ((Cursor.takeWhile test c.rest c.pos).2.isEnd = false →
        (Cursor.takeWhile test c'.rest c'.pos).1 = (Cursor.takeWhile test c.rest c.pos).1) := by
  obtain ⟨rest, p⟩ := c
  obtain ⟨rest', p'⟩ := c'
  induction rest generalizing rest' p p' with
  | nil =>
      refine ⟨?_, Nat.le_refl _, fun hend => nomatch hend⟩
      rcases h with rfl | ⟨-, rfl⟩
      · simp only [List.nil_append, Cursor.takeWhile]
        split
        · exact .inr ⟨rfl, rfl⟩
        · exact .inl rfl
      · exact .inr ⟨rfl, rfl⟩
  | cons ch rest ih =>
      rcases h with rfl | ⟨hnil, -⟩
      · simp only [List.cons_append, Cursor.takeWhile]
        obtain ⟨hcursor, hlength, htaken⟩ :=
          ih (p.after ch) (rest ++ [')']) (p'.after ch) (.inl rfl)
        split
        · exact ⟨hcursor, Nat.le_succ_of_le hlength, fun hend => congrArg (ch :: ·) (htaken hend)⟩
        · exact ⟨.inl rfl, Nat.le_refl _, fun _ => rfl⟩
      · cases hnil

theorem isEnd_eq_false_of_bumpIf? {t : Char} {text : List Char}
    (hbump : c.bumpIf? (t :: text) = some d) : c.isEnd = false := by
  obtain ⟨_ | ⟨ch, rest⟩, p⟩ := c
  · cases hbump
  · rfl

theorem readAsciiClass?_enclosed (h : c.Enclosed c') :
    (readAsciiClass? c = none ∧ readAsciiClass? c' = none) ∨
      ∃ item item' d d', readAsciiClass? c = some (item, d) ∧
        readAsciiClass? c' = some (item', d') ∧ item'.unplaced = item.unplaced ∧ d.Enclosed d' ∧
        d.rest.length < c.rest.length := by
  rw [readAsciiClass?, readAsciiClass?]
  rcases h.bumpIf? ['[', ':'] with ⟨hopen, hopen'⟩ | ⟨e, e', hopen, hopen', hinner⟩
  · rw [hopen, hopen']
    exact .inl ⟨rfl, rfl⟩
  · have hlength := Cursor.length_lt_of_bumpIf? hopen
    rw [hopen, hopen']
    simp only [Option.bind_eq_bind, Option.bind_some, hinner.head?_beq '^']
    generalize (e.head? == some '^') = negated
    have hstart : (if negated = true then e.bump else e).Enclosed
        (if negated = true then e'.bump else e') := by
      split
      · exact hinner.bump
      · exact hinner
    have hle : (if negated = true then e.bump else e).rest.length ≤ e.rest.length := by
      split
      · exact e.length_bump_le
      · exact Nat.le_refl _
    generalize (if negated = true then e.bump else e) = first at hstart hle
    generalize (if negated = true then e'.bump else e') = first' at hstart
    obtain ⟨hlast, hbehind, hname⟩ := takeWhile_enclosed (· != ':') hstart
    generalize Cursor.takeWhile (· != ':') first.rest first.pos = read at hlast hbehind hname
    generalize Cursor.takeWhile (· != ':') first'.rest first'.pos = read' at hlast hname
    obtain ⟨name, last⟩ := read
    obtain ⟨name', last'⟩ := read'
    simp only at hlast hbehind hname ⊢
    rcases hlast.bumpIf? [':', ']'] with ⟨hclose, hclose'⟩ | ⟨d, d', hclose, hclose', hcursor⟩
    · rw [hclose, hclose']
      exact .inl ⟨rfl, rfl⟩
    · have hshorter := Cursor.length_lt_of_bumpIf? hclose
      rw [hclose, hclose', hname (isEnd_eq_false_of_bumpIf? hclose)]
      simp only [Option.bind_some]
      cases AsciiKind.ofName? (String.ofList name) with
      | none => exact .inl ⟨rfl, rfl⟩
      | some kind => exact .inr ⟨_, _, d, d', rfl, rfl, rfl, hcursor, by omega⟩

/-! ### Items -/

theorem follows_readClassAtom (h : c.Enclosed c') :
    Follows Ast.unplaced c.rest.length (readClassAtom verbose c) (readClassAtom verbose c') := by
  rw [readClassAtom, readClassAtom]
  cases hhead : c.head? with
  | none => exact .fail _ _
  | some ch =>
      rw [h.head? hhead]
      simp only
      split
      · exact follows_readEscape h
      · exact .ok rfl h.bump (Cursor.length_bump_lt hhead)

/-- What is read off a part up to places is read off every part that is the same up to places. -/
theorem exists_ok_of_unplaced {α β : Type} {read : Ast → Parsed α} {f : α → β} {ast ast' : Ast}
    {a : α} (hread : ∀ ast, (read ast.unplaced).toOption.map f = (read ast).toOption.map f)
    (hast : ast'.unplaced = ast.unplaced) (hok : read ast = .ok a) :
    ∃ a', read ast' = .ok a' ∧ f a' = f a := by
  have hoption := hread ast'
  rw [hast, hread ast, hok] at hoption
  cases hok' : read ast' with
  | error e =>
      rw [hok'] at hoption
      cases hoption
  | ok a' =>
      rw [hok'] at hoption
      exact ⟨a', rfl, (Option.some.inj hoption).symm⟩

theorem ClassSet.map_ofAst_unplaced (ast : Ast) :
    (ClassSet.ofAst ast.unplaced).toOption.map ClassSet.unplaced =
      (ClassSet.ofAst ast).toOption.map ClassSet.unplaced := by
  cases ast <;> rfl

theorem Literal.map_ofAst_unplaced (ast : Ast) :
    (Literal.ofAst ast.unplaced).toOption.map Literal.unplaced =
      (Literal.ofAst ast).toOption.map Literal.unplaced := by
  cases ast <;> rfl

theorem Cursor.peekPastBlank?_append {ch : Char} (chars : List Char) (hch : ch ≠ ')')
    (hblank : Text.isBlank ch = false) (hmark : ch ≠ '#') :
    peekPastBlank? (chars ++ [')']) = some ch ↔ peekPastBlank? chars = some ch := by
  have hstop : [')'].dropWhile Text.isBlank = [')'] := rfl
  have hparenthesis : some ')' ≠ some ch := fun heq => hch (Option.some.inj heq).symm
  -- The look falls back on the first sign, which is `ch` only if the text begins with it.
  have hfirst (hhead : chars.head? = some ch) : chars.dropWhile Text.isBlank = chars := by
    cases chars with
    | nil => rfl
    | cons first rest =>
        cases hhead
        exact List.dropWhile_cons_of_neg (by simp [hblank])
  rw [peekPastBlank?, peekPastBlank?, List.dropWhile_append, hstop]
  rcases hdrop : chars.dropWhile Text.isBlank with _ | ⟨first, rest⟩
  · refine iff_of_false hparenthesis fun hhead => ?_
    rw [hfirst hhead] at hdrop
    rw [hdrop] at hhead
    cases hhead
  · simp only [List.isEmpty_cons, Bool.false_eq_true, if_false, List.cons_append]
    by_cases hfirstMark : first = '#'
    · subst hfirstMark
      simp only [List.dropWhile_append, hstop]
      rcases rest.dropWhile Text.isBlank with _ | ⟨second, others⟩
      · simp only [List.isEmpty_nil, if_true]
        refine iff_of_false hparenthesis fun hhead => ?_
        rw [hfirst hhead] at hdrop
        rw [hdrop] at hhead
        exact hmark (Option.some.inj hhead).symm
      · exact Iff.rfl
    · simp

theorem Cursor.Enclosed.peekSpace?_iff (h : c.Enclosed c') {ch : Char} (hch : ch ≠ ')')
    (hblank : Text.isBlank ch = false) (hmark : ch ≠ '#') :
    c'.peekSpace? verbose = some ch ↔ c.peekSpace? verbose = some ch := by
  rcases h.cases with ⟨first, rest, p, p', rfl, rfl⟩ | ⟨hnil, hrest⟩
  · rw [peekSpace?, peekSpace?]
    cases verbose with
    | true => exact peekPastBlank?_append rest hch hblank hmark
    | false =>
        cases rest with
        | nil =>
            refine iff_of_false ?_ fun hpeek => nomatch hpeek
            exact fun heq => hch (Option.some.inj heq).symm
        | cons second rest => exact Iff.rfl
  · have htail : c'.rest.tail = c.rest.tail := by
      rcases hrest with hrest | hrest
      · rw [hrest, hnil]
        rfl
      · rw [hrest, hnil]
    simp only [peekSpace?, peek?, htail]

/-- An item of a class is read alike. Whether a dash makes a range depends on the sign behind it,
and the parenthesis is none of the signs that matter there. -/
theorem follows_readClassItem {unclosed unclosed' : PatternError} (h : c.Enclosed c') :
    Follows ClassSet.unplaced c.rest.length (readClassItem verbose unclosed c)
      (readClassItem verbose unclosed' c') := by
  rw [readClassItem, readClassItem]
  refine .bind (follows_readClassAtom h) ?_
  intro low low' d d' hlow hcursor hlength
  have hskip := hcursor.skipSpace verbose
  have hle := d.length_skipSpace_le verbose
  simp only
  generalize d.skipSpace verbose = e at hskip hle
  generalize d'.skipSpace verbose = e' at hskip
  refine .unlessEnd hskip ⟨_, rfl⟩ fun _ => ?_
  have hplain : (e'.head? ≠ some '-' ∨ e'.peekSpace? verbose = some ']' ∨
      e'.peekSpace? verbose = some '-') ↔ (e.head? ≠ some '-' ∨
        e.peekSpace? verbose = some ']' ∨ e.peekSpace? verbose = some '-') := by
    rw [Ne, hskip.head?_iff '-', hskip.peekSpace?_iff (by decide) rfl (by decide),
      hskip.peekSpace?_iff (by decide) rfl (by decide)]
  simp only [hplain]
  split
  · rintro ⟨item, last⟩ hitem
    obtain ⟨item, hof, hitem⟩ := bind_eq_ok.1 hitem
    cases hitem
    obtain ⟨item', hof', hvalue⟩ := exists_ok_of_unplaced ClassSet.map_ofAst_unplaced hlow hof
    have hstop : e.rest.length < c.rest.length := by omega
    rw [hof']
    exact ⟨(item', e'), rfl, hvalue, hskip, hstop⟩
  · have hnext := hskip.bumpSpace verbose
    have hbehind := e.length_bumpSpace_le verbose
    refine .unlessEnd hnext ⟨_, rfl⟩ fun _ => ?_
    refine .bind (follows_readClassAtom hnext) ?_
    rintro high high' last last' hhigh hlast hshorter ⟨item, stop⟩ hitem
    obtain ⟨l, hl, hitem⟩ := bind_eq_ok.1 hitem
    obtain ⟨r, hr, hitem⟩ := bind_eq_ok.1 hitem
    obtain ⟨l', hl', hleft⟩ := exists_ok_of_unplaced Literal.map_ofAst_unplaced hlow hl
    obtain ⟨r', hr', hright⟩ := exists_ok_of_unplaced Literal.map_ofAst_unplaced hhigh hr
    have hlow' : l'.char = l.char := (congrArg Literal.char hleft :)
    have hhigh' : r'.char = r.char := (congrArg Literal.char hright :)
    simp only [hl', hr', ok_bind, hlow', hhigh']
    split at hitem
    · cases hitem
    · rename_i hordered
      cases hitem
      rw [if_neg hordered]
      have hlength' : last.rest.length < c.rest.length := by omega
      refine ⟨(_, last'), rfl, ?_, hlast, hlength'⟩
      rw [ClassSet.unplaced, ClassSet.unplaced, hleft, hright]

/-! ### Whole classes -/

/-- Operators do the same to classes that differ in places only. -/
theorem unplaced_applyOp {right right' : ClassSet} {stack stack' : List ClassFrame}
    (hright : right'.unplaced = right.unplaced)
    (hstack : stack'.map ClassFrame.unplaced = stack.map ClassFrame.unplaced) :
    (applyOp right' stack').1.unplaced = (applyOp right stack).1.unplaced ∧
      (applyOp right' stack').2.map ClassFrame.unplaced =
        (applyOp right stack).2.map ClassFrame.unplaced := by
  cases stack with
  | nil =>
      rw [List.map_eq_nil_iff.1 hstack]
      exact ⟨hright, rfl⟩
  | cons frame stack =>
      cases stack' with
      | nil => cases hstack
      | cons frame' stack' =>
          obtain ⟨hframe, hrest⟩ := List.cons.inj hstack
          cases frame with
          | opened outer span negated =>
              cases frame' with
              | opened outer' span' negated' => exact ⟨hright, hstack⟩
              | op kind' left' => cases hframe
          | op kind left =>
              cases frame' with
              | opened outer' span' negated' => cases hframe
              | op kind' left' =>
                  obtain ⟨rfl, hleft⟩ := ClassFrame.op.inj hframe
                  refine ⟨?_, hrest⟩
                  rw [applyOp, applyOp, ClassSet.unplaced, ClassSet.unplaced, hleft, hright]

theorem opened_of_unplaced {frames frames' : List ClassFrame} {outer : ClassItems} {span : Span}
    {negated : Bool} (hframes : frames'.map ClassFrame.unplaced =
      (ClassFrame.opened outer span negated :: frames).map ClassFrame.unplaced) :
    ∃ outer' span' rest', frames' = .opened outer' span' negated :: rest' ∧
      outer'.unplaced = outer.unplaced ∧
      rest'.map ClassFrame.unplaced = frames.map ClassFrame.unplaced := by
  obtain ⟨frame', rest', rfl, hframe, hrest⟩ := List.map_eq_cons_iff.1 hframes
  cases frame' with
  | op kind left => cases hframe
  | opened outer' span' negated' =>
      obtain ⟨houter, -, rfl⟩ := ClassFrame.opened.inj hframe
      exact ⟨outer', span', rest', rfl, houter, hrest⟩

/-- A parenthesis does not double the last sign of the text into an operator. -/
theorem doubled_enclosed (h : c.Enclosed c') {ch : Char} (hhead : c.head? = some ch) :
    (if c'.peek? = some ch then SetOp.ofChar? ch else none) =
      if c.peek? = some ch then SetOp.ofChar? ch else none := by
  rcases h.cases with ⟨first, rest, p, p', rfl, rfl⟩ | ⟨hnil, -⟩
  · cases rest with
    | cons second rest => rfl
    | nil =>
        have hpeek : (Cursor.mk [first] p).peek? ≠ some ch := fun hsome => nomatch hsome
        rw [if_neg hpeek]
        split
        · rename_i hparenthesis
          rw [← Option.some.inj hparenthesis]
          rfl
        · rfl
  · rw [Cursor.head?, hnil] at hhead
    cases hhead

/-- Two ways to go on with a class that follow each other wherever less than `e` is left to read,
with the same items and at the same depth. -/
def GoesOnAlike (bound : Nat) (e : Cursor)
    (next next' : Cursor → ClassItems → List ClassFrame → Parsed (Ast × Cursor)) : Prop :=
  ∀ {d d' : Cursor} {v v' : ClassItems} {frames frames' : List ClassFrame}, d.Enclosed d' →
    d.rest.length < e.rest.length → v'.unplaced = v.unplaced →
    frames'.map ClassFrame.unplaced = frames.map ClassFrame.unplaced →
    Follows Ast.unplaced bound (next d v frames) (next' d' v' frames')

section

variable {bound : Nat} {e e' : Cursor} {u u' : ClassItems} {stack stack' : List ClassFrame}
  {next next' : Cursor → ClassItems → List ClassFrame → Parsed (Ast × Cursor)}

theorem isEmpty_of_unplaced
    (hstack : stack'.map ClassFrame.unplaced = stack.map ClassFrame.unplaced) :
    stack'.isEmpty = stack.isEmpty := by
  rw [← List.isEmpty_map (f := ClassFrame.unplaced), hstack, List.isEmpty_map]

/-- At an opening bracket: a named class, or a class inside of the class. -/
theorem follows_classOpening (hgo : GoesOnAlike bound e next next') (h : e.Enclosed e')
    (hhead : e.head? = some '[') (hitems : u'.unplaced = u.unplaced)
    (hstack : stack'.map ClassFrame.unplaced = stack.map ClassFrame.unplaced) :
    Follows Ast.unplaced bound
      (match if stack.isEmpty then none else readAsciiClass? e with
        | some (item, c) => next c (u.push item) stack
        | none => openBracket verbose e >>= fun opened =>
            next opened.2 opened.1.2.2 (.opened u opened.1.1 opened.1.2.1 :: stack))
      (match if stack'.isEmpty then none else readAsciiClass? e' with
        | some (item, c) => next' c (u'.push item) stack'
        | none => openBracket verbose e' >>= fun opened =>
            next' opened.2 opened.1.2.2 (.opened u' opened.1.1 opened.1.2.1 :: stack')) := by
  have hnested : Follows Ast.unplaced bound
      (openBracket verbose e >>= fun opened =>
        next opened.2 opened.1.2.2 (.opened u opened.1.1 opened.1.2.1 :: stack))
      (openBracket verbose e' >>= fun opened =>
        next' opened.2 opened.1.2.2 (.opened u' opened.1.1 opened.1.2.1 :: stack')) := by
    refine .bind (follows_openBracket h hhead) ?_
    intro opened opened' d d' hopened hcursor hlength
    obtain ⟨hnegated, hinner⟩ := Prod.mk.inj hopened
    refine hgo hcursor hlength hinner ?_
    rw [List.map_cons, List.map_cons, hstack, ClassFrame.unplaced, ClassFrame.unplaced, hitems,
      hnegated]
  rw [isEmpty_of_unplaced hstack]
  cases stack.isEmpty with
  | true => exact hnested
  | false =>
      rcases readAsciiClass?_enclosed h with
        ⟨hread, hread'⟩ | ⟨item, item', d, d', hread, hread', hitem, hcursor, hlength⟩
      · simp only [hread, hread']
        exact hnested
      · simp only [hread, hread']
        exact hgo hcursor hlength (ClassItems.unplaced_push hitems hitem) hstack

/-- At a closing bracket: the end of the class, or of a class inside of it. -/
theorem follows_classClosing (hgo : GoesOnAlike bound e next next') (h : e.Enclosed e')
    (hpassed : e.bump.rest.length < e.rest.length) (hbound : e.rest.length ≤ bound)
    {body body' : ClassSet} {frames frames' : List ClassFrame} {error error' : PatternError}
    (hbody : body'.unplaced = body.unplaced) :
    frames'.map ClassFrame.unplaced = frames.map ClassFrame.unplaced → Follows Ast.unplaced bound
      (match frames with
        | .opened outer span negated :: rest =>
          if rest.isEmpty then .ok (.bracketed (e.bump.spanFrom span.first) negated body, e.bump)
          else next e.bump
            (outer.push (.bracketed (e.bump.spanFrom span.first) negated body)) rest
        | _ => .error error)
      (match frames' with
        | .opened outer span negated :: rest =>
          if rest.isEmpty then
            .ok (.bracketed (e'.bump.spanFrom span.first) negated body', e'.bump)
          else next' e'.bump
            (outer.push (.bracketed (e'.bump.spanFrom span.first) negated body')) rest
        | _ => .error error') := by
  intro hframes
  cases frames with
  | nil => exact .error _
  | cons frame rest =>
      cases frame with
      | op kind left => exact .error _
      | opened outer span negated =>
          obtain ⟨outer', span', rest', rfl, houter, hrest⟩ := opened_of_unplaced hframes
          have hclass (span span' : Span) :
              (ClassSet.bracketed span' negated body').unplaced =
                (ClassSet.bracketed span negated body).unplaced := by
            rw [ClassSet.unplaced, ClassSet.unplaced, hbody]
          simp only [isEmpty_of_unplaced hrest]
          split
          · refine .ok ?_ h.bump (by omega)
            rw [Ast.unplaced, Ast.unplaced, hbody]
          · apply hgo h.bump hpassed _ hrest
            exact ClassItems.unplaced_push houter (hclass ..)

end

/-- The two readings of a class are at the same depth in it, with the same items before them. -/
theorem follows_readClass {fuel fuel' : Nat} {u u' : ClassItems} {stack stack' : List ClassFrame}
    (h : c.Enclosed c') (hfuel : c.rest.length < fuel) (hfuel' : c.rest.length < fuel')
    (hitems : u'.unplaced = u.unplaced)
    (hstack : stack'.map ClassFrame.unplaced = stack.map ClassFrame.unplaced) :
    Follows Ast.unplaced c.rest.length (readClass verbose fuel c u stack)
      (readClass verbose fuel' c' u' stack') := by
  induction fuel generalizing fuel' c c' u u' stack stack' with
  | zero => exact absurd hfuel (Nat.not_lt_zero _)
  | succ fuel ih =>
      obtain ⟨fuel', rfl⟩ := Nat.exists_eq_succ_of_ne_zero (Nat.ne_zero_of_lt hfuel')
      rw [readClass, readClass]
      have hskip := h.skipSpace verbose
      have hle := c.length_skipSpace_le verbose
      generalize c.skipSpace verbose = e at hskip hle
      generalize c'.skipSpace verbose = e' at hskip
      -- Whatever comes next is shorter than the text, and what was read is within its bound.
      have hgo :
          GoesOnAlike c.rest.length e (readClass verbose fuel) (readClass verbose fuel') := by
        intro d d' v v' frames frames' hcursor hlength hpart hframes
        exact (ih hcursor (by omega) (by omega) hpart hframes).mono (by omega)
      cases hhead : e.head? with
      | none => exact .error _
      | some ch =>
          simp only [hskip.head? hhead]
          have hpassed := Cursor.length_bump_lt hhead
          have hset : u'.toSet.unplaced = u.toSet.unplaced := by
            rw [u'.unplaced_toSet, u.unplaced_toSet, hitems]
          obtain ⟨hbody, hframes⟩ := unplaced_applyOp hset hstack
          by_cases hopening : ch = '['
          · rw [if_pos hopening, if_pos hopening]
            exact follows_classOpening hgo hskip (hopening ▸ hhead) hitems hstack
          rw [if_neg hopening, if_neg hopening]
          by_cases hclosing : ch = ']'
          · rw [if_pos hclosing, if_pos hclosing]
            exact follows_classClosing hgo hskip hpassed hle hbody hframes
          rw [if_neg hclosing, if_neg hclosing]
          rw [doubled_enclosed hskip hhead]
          cases if e.peek? = some ch then SetOp.ofChar? ch else none with
          | some kind =>
              have hbehind := e.bump.length_bump_le
              refine hgo hskip.bump.bump (by omega) rfl ?_
              rw [List.map_cons, List.map_cons, hframes, ClassFrame.unplaced, ClassFrame.unplaced,
                hbody]
          | none =>
              refine .bind (follows_readClassItem hskip) ?_
              intro item item' d d' hitem hcursor hlength
              exact hgo hcursor hlength (ClassItems.unplaced_push hitems hitem) hstack

theorem follows_readBracketed (h : c.Enclosed c') :
    Follows Ast.unplaced c.rest.length (readBracketed verbose c) (readBracketed verbose c') :=
  follows_readClass h (Nat.lt_succ_self _) (Nat.lt_succ_of_le h.length_le) rfl rfl

end FormatScan.Regex
