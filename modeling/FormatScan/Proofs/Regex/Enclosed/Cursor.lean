import FormatScan.Proofs.Regex.Unplaced
import Mathlib.Tactic.SplitIfs

/-!
# Reading inside of a group

A text is read twice: on its own, and with a closing parenthesis behind it. What is read on its own
without an error is read in the same way inside of the group, up to the places, and the parenthesis
stays behind it. The one exception is a comment that runs to the end of the text: it takes the
parenthesis with it, and then both readings stand at the end.
-/

namespace FormatScan.Regex

namespace Cursor

/-- The cursor `c'` has what `c` has and a closing parenthesis behind it, or both stand at the
end. -/
def Enclosed (c c' : Cursor) : Prop :=
  c'.rest = c.rest ++ [')'] ∨ c.rest = [] ∧ c'.rest = []

variable {c c' d : Cursor} {ch : Char} {verbose : Bool}

/-! ### Steps of the cursor -/

theorem length_skipBlank_le (inComment : Bool) (rest : List Char) (p : Position) :
    (skipBlank inComment rest p).rest.length ≤ rest.length := by
  induction rest generalizing inComment p with
  | nil => exact Nat.le_refl 0
  | cons ch rest ih =>
      rw [skipBlank, List.length_cons]
      split_ifs
      · exact Nat.le_succ_of_le (ih ..)
      · exact Nat.le_succ_of_le (ih ..)
      · exact Nat.le_succ_of_le (ih ..)
      · exact Nat.le_refl _

theorem length_skipSpace_le (verbose : Bool) (c : Cursor) :
    (c.skipSpace verbose).rest.length ≤ c.rest.length := by
  rw [skipSpace]
  split
  · exact length_skipBlank_le ..
  · exact Nat.le_refl _

theorem length_bump_lt (hhead : c.head? = some ch) : c.bump.rest.length < c.rest.length := by
  obtain ⟨rest, p⟩ := c
  cases rest with
  | nil => cases hhead
  | cons ch rest => exact Nat.lt_succ_self _

theorem length_bump_le (c : Cursor) : c.bump.rest.length ≤ c.rest.length := by
  obtain ⟨_ | ⟨ch, rest⟩, p⟩ := c
  · exact Nat.le_refl _
  · exact Nat.le_succ _

theorem length_bumpSpace_le (verbose : Bool) (c : Cursor) :
    (c.bumpSpace verbose).rest.length ≤ c.rest.length :=
  Nat.le_trans (length_skipSpace_le ..) (length_bump_le c)

theorem length_bumpSpace_lt (verbose : Bool) (hhead : c.head? = some ch) :
    (c.bumpSpace verbose).rest.length < c.rest.length :=
  Nat.lt_of_le_of_lt (length_skipSpace_le ..) (length_bump_lt hhead)

theorem length_le_of_bumpIf? {text : List Char} (hbump : c.bumpIf? text = some d) :
    d.rest.length ≤ c.rest.length := by
  induction text generalizing c with
  | nil =>
      cases hbump
      exact Nat.le_refl _
  | cons t text ih =>
      rw [bumpIf?] at hbump
      split at hbump
      · exact Nat.le_trans (ih hbump) c.length_bump_le
      · cases hbump

theorem length_lt_of_bumpIf? {t : Char} {text : List Char}
    (hbump : c.bumpIf? (t :: text) = some d) : d.rest.length < c.rest.length := by
  rw [bumpIf?] at hbump
  split at hbump
  · rename_i hhead
    exact Nat.lt_of_le_of_lt (length_le_of_bumpIf? hbump) (length_bump_lt hhead)
  · cases hbump

namespace Enclosed

/-- Both texts go on with the same sign, or the one inside is at its end. -/
theorem cases (h : c.Enclosed c') :
    (∃ ch rest p p', c = ⟨ch :: rest, p⟩ ∧ c' = ⟨ch :: (rest ++ [')']), p'⟩) ∨
      c.rest = [] ∧ (c'.rest = [')'] ∨ c'.rest = []) := by
  obtain ⟨rest, p⟩ := c
  obtain ⟨rest', p'⟩ := c'
  rcases h with h | ⟨hnil, h⟩
  · cases rest with
    | nil => exact .inr ⟨rfl, .inl h⟩
    | cons ch rest => exact .inl ⟨ch, rest, p, p', rfl, congrArg (Cursor.mk · p') h⟩
  · exact .inr ⟨hnil, .inr h⟩

theorem head? (h : c.Enclosed c') (hhead : c.head? = some ch) : c'.head? = some ch := by
  rcases h.cases with ⟨ch', rest, p, p', rfl, rfl⟩ | ⟨hnil, -⟩
  · exact hhead
  · rw [Cursor.head?, hnil] at hhead
    cases hhead

theorem head?_iff (h : c.Enclosed c') (ch : Char) (hch : ch ≠ ')' := by decide) :
    c'.head? = some ch ↔ c.head? = some ch := by
  rcases h.cases with ⟨ch', rest, p, p', rfl, rfl⟩ | ⟨hnil, hrest | hrest⟩
  · exact Iff.rfl
  · simp [Cursor.head?, hnil, hrest, hch.symm]
  · simp [Cursor.head?, hnil, hrest]

theorem head?_beq (h : c.Enclosed c') (ch : Char) (hch : ch ≠ ')' := by decide) :
    (c'.head? == some ch) = (c.head? == some ch) := by
  rw [Bool.eq_iff_iff, beq_iff_eq, beq_iff_eq, h.head?_iff ch hch]

theorem isEnd_eq_false (h : c.Enclosed c') (hend : c.isEnd = false) : c'.isEnd = false := by
  rcases h.cases with ⟨ch', rest, p, p', rfl, rfl⟩ | ⟨hnil, -⟩
  · rfl
  · rw [isEnd, hnil] at hend
    cases hend

theorem head?_of_isEnd (h : c.Enclosed c') (hend : c.isEnd = false) : c'.head? = c.head? := by
  rcases h.cases with ⟨ch', rest, p, p', rfl, rfl⟩ | ⟨hnil, -⟩
  · rfl
  · rw [isEnd, hnil] at hend
    cases hend

theorem length_le (h : c.Enclosed c') : c.rest.length ≤ c'.rest.length := by
  rcases h with h | ⟨hnil, -⟩
  · simp [h]
  · simp [hnil]

theorem bump (h : c.Enclosed c') : c.bump.Enclosed c'.bump := by
  rcases h.cases with ⟨ch', rest, p, p', rfl, rfl⟩ | ⟨hnil, hrest⟩
  · exact .inl rfl
  · obtain ⟨rest, p⟩ := c
    obtain ⟨rest', p'⟩ := c'
    cases hnil
    rcases hrest with rfl | rfl
    · exact .inr ⟨rfl, rfl⟩
    · exact .inr ⟨rfl, rfl⟩

/-- Only a comment that runs to the end passes over the parenthesis. -/
theorem skipBlank (inComment : Bool) (rest : List Char) (p p' : Position) :
    (Cursor.skipBlank inComment rest p).Enclosed
      (Cursor.skipBlank inComment (rest ++ [')']) p') := by
  induction rest generalizing inComment p p' with
  | nil =>
      cases inComment with
      | false => exact .inl rfl
      | true => exact .inr ⟨rfl, rfl⟩
  | cons ch rest ih =>
      rw [List.cons_append, Cursor.skipBlank, Cursor.skipBlank]
      split_ifs
      · exact ih ..
      · exact ih ..
      · exact ih ..
      · exact .inl rfl

theorem skipSpace (h : c.Enclosed c') (verbose : Bool) :
    (c.skipSpace verbose).Enclosed (c'.skipSpace verbose) := by
  cases verbose with
  | false => exact h
  | true =>
      rcases h with h | ⟨hnil, h⟩
      · rw [Cursor.skipSpace, Cursor.skipSpace, h]
        exact skipBlank ..
      · rw [Cursor.skipSpace, Cursor.skipSpace, hnil, h]
        exact .inr ⟨rfl, rfl⟩

theorem bumpSpace (h : c.Enclosed c') (verbose : Bool) :
    (c.bumpSpace verbose).Enclosed (c'.bumpSpace verbose) :=
  h.bump.skipSpace verbose

/-- A text without a closing parenthesis is met in both or in neither. -/
theorem bumpIf? (h : c.Enclosed c') (text : List Char) (htext : ')' ∉ text := by decide) :
    (c.bumpIf? text = none ∧ c'.bumpIf? text = none) ∨
      ∃ d d', c.bumpIf? text = some d ∧ c'.bumpIf? text = some d' ∧ d.Enclosed d' := by
  induction text generalizing c c' with
  | nil => exact .inr ⟨c, c', rfl, rfl, h⟩
  | cons t text ih =>
      have ht : t ≠ ')' := fun heq => htext (heq ▸ List.mem_cons_self)
      rw [Cursor.bumpIf?, Cursor.bumpIf?]
      simp only [h.head?_iff t ht]
      split_ifs with hhead
      · exact ih h.bump fun hmem => htext (List.mem_cons_of_mem _ hmem)
      · exact .inl ⟨rfl, rfl⟩

end Enclosed

end Cursor

/-! ### Readings -/

/-- Whatever the first reading gives, the second one gives something that `r` relates to it. -/
def Mirrors {α : Type} (r : α → α → Prop) (read read' : Parsed α) : Prop :=
  ∀ a, read = .ok a → ∃ a', read' = .ok a' ∧ r a a'

namespace Mirrors

variable {α β : Type} {r : α → α → Prop} {q : β → β → Prop} {read read' : Parsed α}

theorem ok {a a' : α} (h : r a a') : Mirrors r (.ok a) (.ok a') := by
  intro b hok
  cases hok
  exact ⟨a', rfl, h⟩

theorem error (e : PatternError) : Mirrors r (.error e) read' := by
  intro a hok
  cases hok

theorem refl (read : Parsed α) : Mirrors (fun a a' => a' = a) read read :=
  fun a hok => ⟨a, hok, rfl⟩

theorem bind {next next' : α → Parsed β} (hread : Mirrors r read read')
    (hnext : ∀ a a', r a a' → Mirrors q (next a) (next' a')) :
    Mirrors q (read >>= next) (read' >>= next') := by
  intro b hok
  obtain ⟨a, ha, hok⟩ := bind_eq_ok.1 hok
  obtain ⟨a', ha', h⟩ := hread a ha
  rw [ha']
  exact hnext a a' h b hok

/-- A reading that fails at the end of the text goes on elsewhere. -/
theorem unlessEnd {c c' : Cursor} {stop stop' : Parsed α} (h : c.Enclosed c')
    (hstop : ∃ e, stop = .error e) (hgo : c.isEnd = false → Mirrors r read read') :
    Mirrors r (if c.isEnd = true then stop else read)
      (if c'.isEnd = true then stop' else read') := by
  cases hend : c.isEnd with
  | true =>
      obtain ⟨e, rfl⟩ := hstop
      exact error e
  | false =>
      rw [h.isEnd_eq_false hend]
      exact hgo hend

end Mirrors

/-- Both readings give the same, up to what `f` leaves out, and stop at the same sign; what is left
is shorter than `bound`. -/
def Follows {α β : Type} (f : α → β) (bound : Nat) :
    Parsed (α × Cursor) → Parsed (α × Cursor) → Prop :=
  Mirrors fun x x' => f x'.1 = f x.1 ∧ x.2.Enclosed x'.2 ∧ x.2.rest.length < bound

namespace Follows

variable {α β γ δ : Type} {f : α → β} {g : γ → δ} {q : γ → γ → Prop} {bound bound' : Nat}
  {read read' : Parsed (α × Cursor)}

theorem ok {a a' : α} {d d' : Cursor} (hvalue : f a' = f a) (hcursor : d.Enclosed d')
    (hlength : d.rest.length < bound) : Follows f bound (.ok (a, d)) (.ok (a', d')) :=
  Mirrors.ok ⟨hvalue, hcursor, hlength⟩

theorem error (e : PatternError) : Follows f bound (.error e) read' :=
  Mirrors.error e

theorem fail (fault : Fault) (span : Span) : Follows f bound (fail fault span) read' :=
  Mirrors.error _

theorem mirrors_bind {next next' : α × Cursor → Parsed γ} (hread : Follows f bound read read')
    (hnext : ∀ a a' d d', f a' = f a → d.Enclosed d' → d.rest.length < bound →
      Mirrors q (next (a, d)) (next' (a', d'))) :
    Mirrors q (read >>= next) (read' >>= next') :=
  Mirrors.bind hread fun x x' h => hnext x.1 x'.1 x.2 x'.2 h.1 h.2.1 h.2.2

theorem bind {next next' : α × Cursor → Parsed (γ × Cursor)} (hread : Follows f bound read read')
    (hnext : ∀ a a' d d', f a' = f a → d.Enclosed d' → d.rest.length < bound →
      Follows g bound' (next (a, d)) (next' (a', d'))) :
    Follows g bound' (read >>= next) (read' >>= next') :=
  hread.mirrors_bind hnext

theorem unlessEnd {c c' : Cursor} {stop stop' : Parsed (α × Cursor)} (h : c.Enclosed c')
    (hstop : ∃ e, stop = .error e) (hgo : c.isEnd = false → Follows f bound read read') :
    Follows f bound (if c.isEnd = true then stop else read)
      (if c'.isEnd = true then stop' else read') :=
  Mirrors.unlessEnd h hstop hgo

theorem mono (hread : Follows f bound read read') (hle : bound ≤ bound') :
    Follows f bound' read read' := by
  intro x hok
  obtain ⟨x', hx', hvalue, hcursor, hlength⟩ := hread x hok
  exact ⟨x', hx', hvalue, hcursor, Nat.lt_of_lt_of_le hlength hle⟩

end Follows

end FormatScan.Regex
