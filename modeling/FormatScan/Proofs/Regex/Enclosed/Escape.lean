import FormatScan.Proofs.Regex.Enclosed.Cursor

/-!
# Escapes inside of a group

An escape that is complete on its own is the same escape with a closing parenthesis behind the text:
where a sign is missing the parenthesis does not stand in for it.
-/

namespace FormatScan.Regex

/-! ### Numbers -/

variable {c c' d : Cursor} {verbose : Bool} {bound : Nat} {start start' : Position} {ch : Char}

theorem follows_readHexDigits (h : c.Enclosed c') (hbound : c.rest.length < bound) (value : Nat)
    (count : Nat) : Follows id bound (readHexDigits verbose value count c)
      (readHexDigits verbose value count c') := by
  induction count generalizing c c' value with
  | zero => exact .ok rfl h hbound
  | succ count ih =>
      rw [readHexDigits, readHexDigits]
      cases hhead : c.head? with
      | none => exact .fail _ _
      | some ch =>
          rw [h.head? hhead]
          simp only
          cases hexValue? ch with
          | none => exact .fail _ _
          | some digit =>
              have hshorter := c.length_bumpSpace_lt verbose hhead
              exact ih (h.bumpSpace verbose) (by omega) _

/-- The end of the text is no end of a number between braces. -/
theorem readBracedHexDigits_enclosed {fuel : Nat} (fuel' : Nat) {value number : Option Nat}
    (h : c.Enclosed c') (hfuel : c.rest.length < fuel) (hfuel' : c'.rest.length < fuel')
    (hread : readBracedHexDigits verbose value fuel c = .ok (number, d)) (hend : d.isEnd = false) :
    ∃ d', readBracedHexDigits verbose value fuel' c' = .ok (number, d') ∧ d.Enclosed d' ∧
      d.rest.length ≤ c.rest.length := by
  induction fuel generalizing fuel' c c' value with
  | zero => exact absurd hfuel (Nat.not_lt_zero _)
  | succ fuel ih =>
      obtain ⟨fuel', rfl⟩ := Nat.exists_eq_succ_of_ne_zero (Nat.ne_zero_of_lt hfuel')
      rw [readBracedHexDigits] at hread
      rw [readBracedHexDigits]
      cases hhead : c.head? with
      | none =>
          rw [hhead] at hread
          cases hread
          rw [Cursor.isEnd, List.isEmpty_eq_false_iff] at hend
          exact absurd (List.head?_eq_none_iff.1 hhead) hend
      | some ch =>
          rw [h.head? hhead]
          rw [hhead] at hread
          simp only at hread ⊢
          by_cases hbrace : ch = '}'
          · rw [if_pos hbrace] at hread ⊢
            cases hread
            exact ⟨c', rfl, h, Nat.le_refl _⟩
          · rw [if_neg hbrace] at hread ⊢
            cases hdigit : hexValue? ch with
            | none =>
                rw [hdigit] at hread
                cases hread
            | some digit =>
                rw [hdigit] at hread
                simp only at hread ⊢
                have hshorter := c.length_bumpSpace_lt verbose hhead
                have hshorter' := c'.length_bumpSpace_lt verbose (h.head? hhead)
                obtain ⟨d', hd', hcursor, hlength⟩ :=
                  ih fuel' (h.bumpSpace verbose) (by omega) (by omega) hread
                exact ⟨d', hd', hcursor, by omega⟩

theorem follows_readHex (h : c.Enclosed c') (hhead : c.head? = some ch) (kind : Char) :
    Follows Literal.unplaced c.rest.length (readHex verbose start kind c)
      (readHex verbose start' kind c') := by
  have hshorter := c.length_bumpSpace_lt verbose hhead
  have hinner := h.bumpSpace verbose
  rw [readHex, readHex]
  generalize c.bumpSpace verbose = e at hshorter hinner
  generalize c'.bumpSpace verbose = e' at hinner
  cases hletter : e.head? with
  | none => exact .fail _ _
  | some letter =>
      rw [hinner.head? hletter]
      split
      · exact .fail _ _
      · rintro ⟨l, d⟩ hread
        obtain ⟨⟨number, last⟩, hnumber, hread⟩ := bind_eq_ok.1 hread
        simp only [fail, ite_error_eq_ok, Bool.not_eq_true] at hread
        obtain ⟨hend, hread⟩ := hread
        have hbrace := e.length_bumpSpace_lt verbose hletter
        have hbrace' := e'.length_bumpSpace_lt verbose (hinner.head? hletter)
        obtain ⟨last', hnumber', hlast, hlength⟩ := readBracedHexDigits_enclosed
          (e'.rest.length + 1) (hinner.bumpSpace verbose) (by omega) (by omega) hnumber hend
        have hbehind := last.length_bumpSpace_le verbose
        rw [hnumber', ok_bind]
        simp only [hlast.isEnd_eq_false hend]
        revert hread
        cases number with
        | none => exact fun hread => nomatch hread
        | some value =>
            simp only
            cases scalar? value with
            | none => exact fun hread => nomatch hread
            | some char =>
                rintro ⟨⟩
                have hstop : (last.bumpSpace verbose).rest.length < c.rest.length := by omega
                exact ⟨_, rfl, rfl, hlast.bumpSpace verbose, hstop⟩
      · refine .bind (follows_readHexDigits hinner hshorter 0 _) ?_
        intro value value' last last' hvalue hlast hlength
        obtain rfl : value' = value := hvalue
        simp only
        cases scalar? value' with
        | none => exact .fail _ _
        | some char => exact .ok rfl hlast hlength

/-! ### Properties -/

theorem readBraced_enclosed (verbose : Bool) (fuel fuel' : Nat) (h : c.Enclosed c')
    (hfuel : c.rest.length < fuel) (hfuel' : c'.rest.length < fuel')
    (hend : (readBraced verbose fuel c).2.isEnd = false) :
    (readBraced verbose fuel' c').1 = (readBraced verbose fuel c).1 ∧
      (readBraced verbose fuel c).2.Enclosed (readBraced verbose fuel' c').2 ∧
      (readBraced verbose fuel c).2.rest.length ≤ c.rest.length := by
  induction fuel generalizing fuel' c c' with
  | zero => exact absurd hfuel (Nat.not_lt_zero _)
  | succ fuel ih =>
      obtain ⟨fuel', rfl⟩ := Nat.exists_eq_succ_of_ne_zero (Nat.ne_zero_of_lt hfuel')
      rw [readBraced] at hend ⊢
      rw [readBraced]
      cases hhead : c.head? with
      | none =>
          rw [hhead, Cursor.isEnd, List.isEmpty_eq_false_iff] at hend
          exact absurd (List.head?_eq_none_iff.1 hhead) hend
      | some ch =>
          rw [hhead] at hend
          rw [h.head? hhead]
          simp only at hend ⊢
          by_cases hbrace : ch = '}'
          · rw [if_pos hbrace, if_pos hbrace]
            exact ⟨rfl, h, Nat.le_refl _⟩
          · simp only [if_neg hbrace] at hend ⊢
            have hshorter := c.length_bumpSpace_lt verbose hhead
            have hshorter' := c'.length_bumpSpace_lt verbose (h.head? hhead)
            obtain ⟨htext, hcursor, hlength⟩ :=
              ih fuel' (h.bumpSpace verbose) (by omega) (by omega) hend
            exact ⟨congrArg (ch :: ·) htext, hcursor, by omega⟩

theorem follows_readProperty (h : c.Enclosed c') (hhead : c.head? = some ch) (kind : Char) :
    Follows PropertyClass.unplaced c.rest.length (readProperty verbose start kind c)
      (readProperty verbose start' kind c') := by
  have hshorter := c.length_bumpSpace_lt verbose hhead
  have hinner := h.bumpSpace verbose
  rw [readProperty, readProperty]
  generalize c.bumpSpace verbose = e at hshorter hinner
  generalize c'.bumpSpace verbose = e' at hinner
  cases hletter : e.head? with
  | none => exact .fail _ _
  | some letter =>
      rw [hinner.head? hletter]
      simp only
      have hbehind := e.length_bumpSpace_lt verbose hletter
      have hbehind' := e'.length_bumpSpace_lt verbose (hinner.head? hletter)
      by_cases hbrace : letter = '{'
      · rw [if_pos hbrace, if_pos hbrace]
        have htext := readBraced_enclosed verbose (e.rest.length + 1) (e'.rest.length + 1)
          (hinner.bumpSpace verbose) (by omega) (by omega)
        generalize readBraced verbose (e.rest.length + 1) (e.bumpSpace verbose) = read at htext
        generalize readBraced verbose (e'.rest.length + 1) (e'.bumpSpace verbose) = read' at htext
        obtain ⟨text, last⟩ := read
        obtain ⟨text', last'⟩ := read'
        simp only at htext ⊢
        cases hend : last.isEnd with
        | true => exact .fail _ _
        | false =>
            obtain ⟨rfl, hlast, hlength⟩ := htext hend
            have hbump := last.length_bump_le
            rw [hlast.isEnd_eq_false hend]
            exact .ok rfl hlast.bump (by omega)
      · rw [if_neg hbrace, if_neg hbrace]
        by_cases hslash : letter = '\\'
        · rw [if_pos hslash]
          exact .fail _ _
        · rw [if_neg hslash, if_neg hslash]
          exact .ok rfl (hinner.bumpSpace verbose) (by omega)

/-! ### Assertions -/

theorem readBoundaryName_enclosed (verbose : Bool) (fuel fuel' : Nat) (h : c.Enclosed c')
    (hfuel : c.rest.length < fuel) (hfuel' : c'.rest.length < fuel') :
    (readBoundaryName verbose fuel' c').1 = (readBoundaryName verbose fuel c).1 ∧
      (readBoundaryName verbose fuel c).2.Enclosed (readBoundaryName verbose fuel' c').2 ∧
      (readBoundaryName verbose fuel c).2.rest.length ≤ c.rest.length := by
  induction fuel generalizing fuel' c c' with
  | zero => exact absurd hfuel (Nat.not_lt_zero _)
  | succ fuel ih =>
      obtain ⟨fuel', rfl⟩ := Nat.exists_eq_succ_of_ne_zero (Nat.ne_zero_of_lt hfuel')
      rw [readBoundaryName, readBoundaryName]
      cases hhead : c.head? with
      | none =>
          have hstop : isBoundaryNameChar ')' = false := rfl
          have hnil := List.head?_eq_none_iff.1 hhead
          rcases h with hrest | ⟨-, hrest⟩
          · have hparenthesis : c'.head? = some ')' := by rw [Cursor.head?, hrest, hnil]; rfl
            rw [hparenthesis]
            simp only [hstop]
            exact ⟨rfl, .inl hrest, Nat.le_refl _⟩
          · have hend : c'.head? = none := by rw [Cursor.head?, hrest]; rfl
            rw [hend]
            exact ⟨rfl, .inr ⟨hnil, hrest⟩, Nat.le_refl _⟩
      | some ch =>
          rw [h.head? hhead]
          simp only
          by_cases hname : isBoundaryNameChar ch = true
          · rw [if_pos hname, if_pos hname]
            have hshorter := c.length_bumpSpace_lt verbose hhead
            have hshorter' := c'.length_bumpSpace_lt verbose (h.head? hhead)
            obtain ⟨htext, hcursor, hlength⟩ :=
              ih fuel' (h.bumpSpace verbose) (by omega) (by omega)
            exact ⟨congrArg (ch :: ·) htext, hcursor, Nat.le_trans hlength (Nat.le_of_lt hshorter)⟩
          · rw [if_neg hname, if_neg hname]
            exact ⟨rfl, h, Nat.le_refl _⟩

/-- What the name between the braces behind `\b` is read as. -/
theorem readBoundary?_enclosed (start' : Position) {boundary : Option (Assertion × Cursor)}
    (h : c.Enclosed c') (hhead : c.head? = some ch)
    (hread : readBoundary? verbose start c = .ok boundary) :
    (boundary = none ∧ readBoundary? verbose start' c' = .ok none) ∨
      ∃ kind d d', boundary = some (kind, d) ∧
        readBoundary? verbose start' c' = .ok (some (kind, d')) ∧ d.Enclosed d' ∧
        d.rest.length < c.rest.length := by
  have hshorter := c.length_bumpSpace_lt verbose hhead
  have hinner := h.bumpSpace verbose
  rw [readBoundary?] at hread
  rw [readBoundary?]
  simp only at hread ⊢
  generalize c.bumpSpace verbose = e at hread hshorter hinner
  generalize c'.bumpSpace verbose = e' at hinner
  cases hletter : e.head? with
  | none =>
      rw [hletter] at hread
      cases hread
  | some letter =>
      rw [hletter] at hread
      rw [hinner.head? hletter]
      simp only at hread ⊢
      by_cases hname : (!isBoundaryNameChar letter) = true
      · rw [if_pos hname] at hread ⊢
        cases hread
        exact .inl ⟨rfl, rfl⟩
      · rw [if_neg hname] at hread ⊢
        obtain ⟨htext, hlast, hlength⟩ := readBoundaryName_enclosed verbose
          (e.rest.length + 1) (e'.rest.length + 1) hinner (by omega) (by omega)
        generalize readBoundaryName verbose (e.rest.length + 1) e = read
          at hread htext hlast hlength
        generalize readBoundaryName verbose (e'.rest.length + 1) e' = read' at htext hlast
        obtain ⟨name, last⟩ := read
        obtain ⟨name', last'⟩ := read'
        simp only at hread htext hlast hlength ⊢
        subst htext
        by_cases hbrace : last.head? = some '}'
        · rw [if_pos hbrace] at hread
          rw [if_pos (hlast.head? hbrace)]
          cases hkind : Assertion.ofBoundaryName? (String.ofList name') with
          | none =>
              rw [hkind] at hread
              cases hread
          | some kind =>
              rw [hkind] at hread
              cases hread
              have hbump := last.length_bump_le
              exact .inr ⟨kind, _, _, rfl, rfl, hlast.bump, by omega⟩
        · rw [if_neg hbrace] at hread
          cases hread

theorem follows_readSimpleEscape (h : c.Enclosed c') (hbound : c.rest.length < bound) :
    Follows Ast.unplaced bound (readSimpleEscape verbose start ch c)
      (readSimpleEscape verbose start' ch c') := by
  rw [readSimpleEscape, readSimpleEscape]
  by_cases hescapable : isEscapable ch = true
  · simp only [if_pos hescapable]
    exact .ok rfl h hbound
  · simp only [if_neg hescapable]
    cases controlEscape? ch with
    | some char => exact .ok rfl h hbound
    | none =>
        cases Assertion.ofLetter? ch with
        | none => exact .fail _ _
        | some kind =>
            have hbrace : (decide (ch = 'b') && decide (c'.head? = some '{')) =
                (decide (ch = 'b') && decide (c.head? = some '{')) := by
              simp only [h.head?_iff '{']
            simp only [hbrace]
            by_cases hboundary : (decide (ch = 'b') && decide (c.head? = some '{')) = true
            · rw [if_pos hboundary, if_pos hboundary]
              have hhead : c.head? = some '{' := by
                rw [Bool.and_eq_true, decide_eq_true_eq, decide_eq_true_eq] at hboundary
                exact hboundary.2
              rintro ⟨a, d⟩ hread
              obtain ⟨boundary, hname, hread⟩ := bind_eq_ok.1 hread
              rcases readBoundary?_enclosed start' h hhead hname with
                ⟨rfl, hname'⟩ | ⟨special, last, last', rfl, hname', hlast, hlength⟩
              · cases hread
                rw [hname']
                exact ⟨_, rfl, rfl, h, hbound⟩
              · cases hread
                rw [hname']
                exact ⟨_, rfl, rfl, hlast, Nat.lt_trans hlength hbound⟩
            · rw [if_neg hboundary, if_neg hboundary]
              exact .ok rfl h hbound

/-- The letter alone decides about the class. -/
theorem PerlClass.ofLetter?_eq_map (span : Span) (letter : Char) :
    PerlClass.ofLetter? span letter =
      (PerlClass.ofLetter? .nowhere letter).map fun cls => { cls with span } := by
  unfold ofLetter?
  split <;> rfl

/-- What an escape is read as. -/
theorem follows_readEscape (h : c.Enclosed c') :
    Follows Ast.unplaced c.rest.length (readEscape verbose c) (readEscape verbose c') := by
  have hinner := h.bump
  have hshorter := c.length_bump_le
  rw [readEscape, readEscape]
  generalize c.bump = e at hshorter hinner
  generalize c'.bump = e' at hinner
  cases hletter : e.head? with
  | none =>
      simp only
      exact .fail _ _
  | some letter =>
      simp only [hinner.head? hletter]
      have hbehind := e.length_bump_lt hletter
      by_cases hdigit : letter.isDigit = true
      · rw [if_pos hdigit]
        exact .fail _ _
      · rw [if_neg hdigit, if_neg hdigit]
        split_ifs
        · refine ((follows_readHex hinner hletter letter).mono hshorter).bind ?_
          intro l l' d d' hvalue hcursor hlength
          exact .ok (congrArg Ast.literal hvalue) hcursor hlength
        · refine ((follows_readProperty hinner hletter letter).mono hshorter).bind ?_
          intro cls cls' d d' hvalue hcursor hlength
          exact .ok (congrArg Ast.property hvalue) hcursor hlength
        · rw [PerlClass.ofLetter?_eq_map (e.bump.spanFrom c.pos),
            PerlClass.ofLetter?_eq_map (e'.bump.spanFrom c'.pos)]
          cases PerlClass.ofLetter? .nowhere letter with
          | some cls => exact .ok rfl hinner.bump (by omega)
          | none => exact follows_readSimpleEscape hinner.bump (by omega)

end FormatScan.Regex
