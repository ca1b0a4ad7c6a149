import FormatScan.Proofs.Regex.Enclosed.Bracket
import FormatScan.Regex.Parser

/-!
# Names, flags and counts inside of a group

What belongs to an operator is read in the same way inside of a group. Names, flags and counts have
signs of their own behind them, so that none of them goes on into a closing parenthesis.
-/

namespace FormatScan.Regex.ParseState

variable {c c' : Cursor} {verbose : Bool} {bound fuel fuel' : Nat} {start start' : Position}

/-! ### Names -/

theorem follows_readGroupName {isFirst : Bool} (h : c.Enclosed c') (hfuel : c.rest.length < fuel)
    (hfuel' : c.rest.length < fuel') (hbound : c.rest.length < bound) :
    Follows id bound (readGroupName isFirst fuel c) (readGroupName isFirst fuel' c') := by
  induction fuel generalizing fuel' c c' isFirst with
  | zero => exact absurd hfuel (Nat.not_lt_zero _)
  | succ fuel ih =>
      obtain ⟨fuel', rfl⟩ := Nat.exists_eq_succ_of_ne_zero (Nat.ne_zero_of_lt hfuel')
      rw [readGroupName, readGroupName]
      cases hhead : c.head? with
      | none => exact .fail _ _
      | some ch =>
          simp only [h.head? hhead]
          have hshorter := Cursor.length_bump_lt hhead
          by_cases hclose : ch = '>'
          · rw [if_pos hclose, if_pos hclose]
            exact .ok rfl h hbound
          rw [if_neg hclose, if_neg hclose]
          by_cases hname : (!isNameChar isFirst ch) = true
          · rw [if_pos hname]
            exact .fail _ _
          rw [if_neg hname, if_neg hname]
          refine .bind (ih h.bump (by omega) (by omega) (by omega)) ?_
          intro name name' d d' hvalue hcursor hlength
          exact .ok (congrArg (ch :: ·) hvalue) hcursor hlength

/-! ### Flags -/

theorem find?_flag_isNone {items items' : List FlagItem} (flag : Option Flag)
    (hitems : items'.map FlagItem.unplaced = items.map FlagItem.unplaced) :
    (items'.find? (·.flag = flag)).isSome = (items.find? (·.flag = flag)).isSome := by
  have hfind (items : List FlagItem) : (items.find? (·.flag = flag)).isSome =
      ((items.map FlagItem.unplaced).find? (·.flag = flag)).isSome := by
    rw [List.find?_map, Option.isSome_map]
    rfl
  rw [hfind, hitems, ← hfind]

theorem follows_readFlags {items items' : List FlagItem} {dangling dangling' : Option Span}
    (h : c.Enclosed c') (hfuel : c.rest.length < fuel) (hfuel' : c.rest.length < fuel')
    (hbound : c.rest.length < bound)
    (hitems : items'.map FlagItem.unplaced = items.map FlagItem.unplaced)
    (hdangling : dangling'.isSome = dangling.isSome) :
    Follows (List.map FlagItem.unplaced) bound (readFlags items dangling fuel c)
      (readFlags items' dangling' fuel' c') := by
  induction fuel generalizing fuel' c c' items items' dangling dangling' with
  | zero => exact absurd hfuel (Nat.not_lt_zero _)
  | succ fuel ih =>
      obtain ⟨fuel', rfl⟩ := Nat.exists_eq_succ_of_ne_zero (Nat.ne_zero_of_lt hfuel')
      simp only [readFlags]
      cases hhead : c.head? with
      | none => exact .fail _ _
      | some ch =>
          simp only [h.head? hhead]
          have hshorter := Cursor.length_bump_lt hhead
          by_cases hstop : ch = ':' ∨ ch = ')'
          · rw [if_pos hstop, if_pos hstop]
            cases dangling with
            | some span => exact .fail _ _
            | none =>
                rw [Option.isSome_none, Option.isSome_eq_false_iff, Option.isNone_iff_eq_none]
                  at hdangling
                rw [hdangling]
                refine .ok ?_ h hbound
                rw [List.map_reverse, List.map_reverse, hitems]
          rw [if_neg hstop, if_neg hstop]
          by_cases hunknown : ((Flag.ofChar? ch).isNone && ch != '-') = true
          · rw [if_pos hunknown]
            exact .fail _ _
          rw [if_neg hunknown, if_neg hunknown]
          have hfind := find?_flag_isNone (Flag.ofChar? ch) hitems
          cases hearlier : items.find? (·.flag = Flag.ofChar? ch) with
          | some earlier => exact .fail _ _
          | none =>
              rw [hearlier, Option.isSome_none, Option.isSome_eq_false_iff,
                Option.isNone_iff_eq_none] at hfind
              simp only [hfind]
              refine ih h.bump (by omega) (by omega) (by omega) ?_ ?_
              · rw [List.map_cons, List.map_cons, hitems]
                rfl
              · split <;> rfl

/-- Flags end in front of a colon or a parenthesis. -/
theorem isEnd_eq_false_of_readFlags {items all : List FlagItem} {dangling : Option Span}
    {d : Cursor} (hread : readFlags items dangling fuel c = .ok (all, d)) : d.isEnd = false := by
  induction fuel generalizing c items dangling with
  | zero => cases hread
  | succ fuel ih =>
      simp only [readFlags] at hread
      split at hread
      · cases hread
      · rename_i ch hhead
        by_cases hstop : ch = ':' ∨ ch = ')'
        · rw [if_pos hstop] at hread
          cases dangling with
          | some span => cases hread
          | none =>
              cases hread
              rw [Cursor.isEnd, List.isEmpty_eq_false_iff]
              intro hnil
              rw [Cursor.head?, hnil] at hhead
              cases hhead
        · rw [if_neg hstop] at hread
          simp only [fail, ite_error_eq_ok] at hread
          obtain ⟨-, hread⟩ := hread
          split at hread
          · cases hread
          · exact ih hread

/-- The flags of a group, which the sign behind them ends. -/
theorem mirrors_readFlags (h : c.Enclosed c') (hbound : c.rest.length < bound) :
    Mirrors (fun x x' => x'.1.map FlagItem.unplaced = x.1.map FlagItem.unplaced ∧
        x.2.Enclosed x'.2 ∧ x.2.rest.length < bound ∧ x'.2.head? = x.2.head?)
      (readFlags [] none (c.rest.length + 1) c) (readFlags [] none (c'.rest.length + 1) c') := by
  intro x hread
  have hflags : Follows (List.map FlagItem.unplaced) bound
      (readFlags [] none (c.rest.length + 1) c) (readFlags [] none (c'.rest.length + 1) c') :=
    follows_readFlags h (Nat.lt_succ_self _) (Nat.lt_succ_of_le h.length_le) hbound rfl rfl
  obtain ⟨x', hread', hvalue, hcursor, hlength⟩ := hflags x hread
  have hhead := hcursor.head?_of_isEnd (isEnd_eq_false_of_readFlags hread)
  exact ⟨x', hread', hvalue, hcursor, hlength, hhead⟩

/-! ### Counts -/

theorem skipBlanks_enclosed (verbose : Bool) (fuel' : Nat) (h : c.Enclosed c')
    (hfuel : c.rest.length < fuel) (hfuel' : c.rest.length < fuel') :
    (skipBlanks verbose fuel c).Enclosed (skipBlanks verbose fuel' c') ∧
      (skipBlanks verbose fuel c).rest.length ≤ c.rest.length := by
  induction fuel generalizing fuel' c c' with
  | zero => exact absurd hfuel (Nat.not_lt_zero _)
  | succ fuel ih =>
      obtain ⟨fuel', rfl⟩ := Nat.exists_eq_succ_of_ne_zero (Nat.ne_zero_of_lt hfuel')
      rw [skipBlanks, skipBlanks]
      cases hhead : c.head? with
      | none =>
          have hstop : ¬(c'.head?.map Text.isBlank).getD false = true := by
            have hnil := List.head?_eq_none_iff.1 hhead
            rcases h with hrest | ⟨-, hrest⟩
            · rw [Cursor.head?, hrest, hnil]
              decide
            · rw [Cursor.head?, hrest]
              decide
          rw [if_neg hstop]
          exact ⟨h, Nat.le_refl _⟩
      | some ch =>
          rw [h.head? hhead]
          split
          · have hshorter := c.length_bumpSpace_lt verbose hhead
            obtain ⟨hcursor, hlength⟩ :=
              ih fuel' (h.bumpSpace verbose) (by omega) (by omega)
            exact ⟨hcursor, by omega⟩
          · exact ⟨h, Nat.le_refl _⟩

theorem readDigits_enclosed (verbose : Bool) (fuel' : Nat) (h : c.Enclosed c')
    (hfuel : c.rest.length < fuel) (hfuel' : c.rest.length < fuel') :
    (readDigits verbose fuel' c').1 = (readDigits verbose fuel c).1 ∧
      (readDigits verbose fuel c).2.Enclosed (readDigits verbose fuel' c').2 ∧
      (readDigits verbose fuel c).2.rest.length ≤ c.rest.length := by
  induction fuel generalizing fuel' c c' with
  | zero => exact absurd hfuel (Nat.not_lt_zero _)
  | succ fuel ih =>
      obtain ⟨fuel', rfl⟩ := Nat.exists_eq_succ_of_ne_zero (Nat.ne_zero_of_lt hfuel')
      rw [readDigits, readDigits]
      cases hhead : c.head? with
      | none =>
          have hnil := List.head?_eq_none_iff.1 hhead
          rcases h with hrest | ⟨-, hrest⟩
          · have hparenthesis : c'.head? = some ')' := by rw [Cursor.head?, hrest, hnil]; rfl
            rw [hparenthesis]
            exact ⟨rfl, .inl hrest, Nat.le_refl _⟩
          · have hend : c'.head? = none := by rw [Cursor.head?, hrest]; rfl
            rw [hend]
            exact ⟨rfl, .inr ⟨hnil, hrest⟩, Nat.le_refl _⟩
      | some ch =>
          rw [h.head? hhead]
          simp only
          split
          · have hshorter := c.length_bumpSpace_lt verbose hhead
            obtain ⟨hdigits, hcursor, hlength⟩ :=
              ih fuel' (h.bumpSpace verbose) (by omega) (by omega)
            refine ⟨congrArg (ch :: ·) hdigits, hcursor, ?_⟩
            exact Nat.le_trans hlength (Nat.le_of_lt hshorter)
          · exact ⟨rfl, h, Nat.le_refl _⟩

theorem readCount_enclosed (verbose : Bool) (h : c.Enclosed c') :
    Mirrors Eq (readCount verbose c).1 (readCount verbose c').1 ∧
      (readCount verbose c).2.Enclosed (readCount verbose c').2 ∧
      (readCount verbose c).2.rest.length ≤ c.rest.length := by
  rw [readCount, readCount]
  obtain ⟨hfirst, hle⟩ := skipBlanks_enclosed false _ h (Nat.lt_succ_self _)
    (Nat.lt_succ_of_le h.length_le)
  generalize skipBlanks false (c.rest.length + 1) c = e at hfirst hle
  generalize skipBlanks false (c'.rest.length + 1) c' = e' at hfirst
  obtain ⟨hdigits, hlast, hlength⟩ := readDigits_enclosed verbose _ hfirst
    (Nat.lt_succ_self _) (Nat.lt_succ_of_le hfirst.length_le)
  generalize readDigits verbose (e.rest.length + 1) e = read at hdigits hlast hlength
  generalize readDigits verbose (e'.rest.length + 1) e' = read' at hdigits hlast
  obtain ⟨digits, last⟩ := read
  obtain ⟨digits', last'⟩ := read'
  obtain rfl : digits' = digits := hdigits
  obtain ⟨hcursor, hbehind⟩ := skipBlanks_enclosed verbose _ hlast (Nat.lt_succ_self _)
    (Nat.lt_succ_of_le hlast.length_le)
  refine ⟨?_, hcursor, Nat.le_trans hbehind (Nat.le_trans hlength hle)⟩
  simp only
  split_ifs
  · exact .error _
  · exact .error _
  · exact .ok rfl

theorem follows_readCounts (h : c.Enclosed c') (hbound : c.rest.length < bound) :
    Follows id bound (readCounts verbose start c) (readCounts verbose start' c') := by
  rw [readCounts, readCounts]
  obtain ⟨hlow, hcursor, hlength⟩ := readCount_enclosed verbose h
  generalize readCount verbose c = read at hlow hcursor hlength
  generalize readCount verbose c' = read' at hlow hcursor
  obtain ⟨low, d⟩ := read
  obtain ⟨low', d'⟩ := read'
  simp only at hlow hcursor hlength ⊢
  refine .unlessEnd hcursor ⟨_, rfl⟩ fun _ => ?_
  simp only [hcursor.head?_iff ',']
  split
  · have hnext := hcursor.bumpSpace verbose
    have hle := d.length_bumpSpace_le verbose
    generalize d.bumpSpace verbose = e at hnext hle
    generalize d'.bumpSpace verbose = e' at hnext
    refine .unlessEnd hnext ⟨_, rfl⟩ fun _ => ?_
    simp only [hnext.head?_iff '}']
    split
    · refine Mirrors.bind hlow ?_
      rintro min min' rfl
      have hstop : e.rest.length < bound := by omega
      exact Follows.ok rfl hnext hstop
    · refine Mirrors.bind hlow ?_
      rintro min min' rfl
      obtain ⟨hhigh, hlast, hshorter⟩ := readCount_enclosed verbose hnext
      refine Mirrors.bind hhigh ?_
      rintro max max' rfl
      have hstop : (readCount verbose e).2.rest.length < bound := by omega
      exact Follows.ok rfl hlast hstop
  · refine Mirrors.bind hlow ?_
    rintro min min' rfl
    have hstop : d.rest.length < bound := by omega
    exact Follows.ok rfl hcursor hstop

theorem readGreed_enclosed (h : c.Enclosed c') :
    (readGreed c').1 = (readGreed c).1 ∧ (readGreed c).2.Enclosed (readGreed c').2 ∧
      (readGreed c).2.rest.length ≤ c.rest.length := by
  rw [readGreed, readGreed]
  simp only [h.head?_iff '?']
  split
  · exact ⟨rfl, h.bump, c.length_bump_le⟩
  · exact ⟨rfl, h, Nat.le_refl _⟩

end FormatScan.Regex.ParseState
