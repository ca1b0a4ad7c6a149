import FormatScan.Proofs.Regex.Escaped
import FormatScan.Proofs.Regex.Matching
import FormatScan.Proofs.Regex.Sequence

/-!
# How an expression opens

The expression of a signature opens with the bytes at the beginning of the format. Whatever is put
behind them, they are read as parts of their own, and what the expression asks for opens with these
bytes up to the first bar that is outside of all groups. Only such a bar sets a marker free of them.
-/

namespace FormatScan

open Regex

namespace Anchoring

/-- The bytes stand where they are looked for. -/
def Finds : Anchoring → List UInt8 → ByteArray → Prop
  | .start, head, bytes => head <+: bytes.data.toList
  | .unanchored, head, bytes => head <:+: bytes.data.toList

instance (anchoring : Anchoring) (head : List UInt8) (bytes : ByteArray) :
    Decidable (anchoring.Finds head bytes) :=
  match anchoring with
  | .start => inferInstanceAs (Decidable (head <+: bytes.data.toList))
  | .unanchored => inferInstanceAs (Decidable (head <:+: bytes.data.toList))

def openingText (anchoring : Anchoring) (head : List UInt8) : List Char :=
  (Signature.anchor anchoring).toList ++ head.flatMap escapeByte

def openingParts : Anchoring → List UInt8 → List Ast
  | .start, head => ParseState.startMark .start :: byteLiterals (Position.start.after '^') head
  | .unanchored, head => byteLiterals .start head

def opening : Anchoring → List UInt8 → List Expr
  | .start, head => .look .textStart :: head.map fun b => .byte (.single b.toNat)
  | .unanchored, head => head.map fun b => .byte (.single b.toNat)

variable {anchoring : Anchoring} {head : List UInt8}

theorem opening_ne_nil (hne : head ≠ []) : anchoring.opening head ≠ [] := by
  cases anchoring with
  | start => exact List.cons_ne_nil _ _
  | unanchored => simpa [opening] using hne

theorem behindBar?_opening (hne : head ≠ []) :
    (Expr.seqs (anchoring.opening head)).behindBar? = none := by
  rcases head with _ | ⟨b, _ | ⟨b', head⟩⟩
  · exact absurd rfl hne
  · cases anchoring <;> rfl
  · cases anchoring <;> rfl

/-! ### Reading the opening -/

theorem toExprs_openingParts (anchoring : Anchoring) (head : List UInt8) :
    Ast.toExprs (.start false) (anchoring.openingParts head) =
      .ok (anchoring.opening head, .start false) := by
  cases anchoring with
  | start =>
      rw [openingParts, Ast.toExprs, ParseState.toExpr_startMark, ok_bind]
      simp only [toExprs_byteLiterals, ok_bind]
      rfl
  | unanchored => exact toExprs_byteLiterals .start head

theorem length_openingParts_le (anchoring : Anchoring) (head : List UInt8) :
    (anchoring.openingParts head).length ≤ (anchoring.openingText head).length := by
  cases anchoring with
  | start =>
      have hmark : (Signature.anchor .start).toList.length = 1 := rfl
      rw [openingParts, openingText, List.length_cons, length_byteLiterals, List.length_append,
        length_escapes, hmark]
      omega
  | unanchored =>
      rw [openingParts, openingText, length_byteLiterals, List.length_append, length_escapes]
      omega

def opened (anchoring : Anchoring) (head : List UInt8) (rest : List Char) : ParseState :=
  ⟨⟨rest, Position.start.afterAll (anchoring.openingText head)⟩, false,
    ⟨.start, (anchoring.openingParts head).reverse⟩, [], []⟩

/-- Reading goes through the opening whatever follows it. -/
theorem run_opening (anchoring : Anchoring) (head : List UInt8) (rest : List Char) (fuel : Nat) :
    ParseState.run (fuel + (anchoring.openingParts head).length)
        ⟨⟨anchoring.openingText head ++ rest, .start⟩, false, .empty .start, [], []⟩ =
      (anchoring.opened head rest).run fuel := by
  cases anchoring with
  | start =>
      have htext : openingText .start head ++ rest =
          '^' :: (head.flatMap escapeByte ++ rest) := rfl
      rw [htext, openingParts, List.length_cons, length_byteLiterals, ← Nat.add_assoc,
        ParseState.run_startMark, ParseState.run_escapes, opened, openingParts,
        List.reverse_cons]
      rfl
  | unanchored =>
      have htext : openingText .unanchored head ++ rest = head.flatMap escapeByte ++ rest := rfl
      rw [htext, openingParts, length_byteLiterals, ParseState.run_escapes, opened, openingParts,
        Parts.empty, List.append_nil]
      rfl

/-- A pattern that opens with the bytes is read on from behind them. -/
theorem exists_run_opened {pattern : String} {rest : List Char}
    (hpattern : pattern.toList = anchoring.openingText head ++ rest) :
    ∃ fuel, rest.length < fuel ∧
      (ParseState.start pattern).run ((ParseState.start pattern).cursor.rest.length + 1) =
        (anchoring.opened head rest).run fuel := by
  have hlength := anchoring.length_openingParts_le head
  have hstart : ParseState.start pattern =
      ⟨⟨anchoring.openingText head ++ rest, .start⟩, false, .empty .start, [], []⟩ := by
    rw [ParseState.start, Cursor.ofString, hpattern]
  have hfuel : (anchoring.openingText head ++ rest).length + 1 =
      ((anchoring.openingText head).length - (anchoring.openingParts head).length + rest.length +
        1) + (anchoring.openingParts head).length := by
    rw [List.length_append]
    omega
  rw [hstart, hfuel, run_opening]
  exact ⟨_, by omega, rfl⟩

/-- A pattern that can be read can be read from behind its opening on. -/
theorem run_opened_of_ofPattern {pattern : String} {rest : List Char} {ast : Ast}
    (hpattern : pattern.toList = anchoring.openingText head ++ rest)
    (hread : Ast.ofPattern pattern = .ok ast) :
    ∃ fuel, rest.length < fuel ∧ (anchoring.opened head rest).run fuel = .ok ast := by
  obtain ⟨fuel, hfuel, hopened⟩ := exists_run_opened hpattern
  rw [Ast.ofPattern] at hread
  obtain ⟨ast', hrun, hread⟩ := bind_eq_ok.1 hread
  obtain ⟨-, -, hread⟩ := bind_eq_ok.1 hread
  cases hread
  exact ⟨fuel, hfuel, hopened.symm.trans hrun⟩

/-! ### Opening parts are not nested -/

theorem isFlat_of_mem_byteLiterals {p : Position} {text : List UInt8} {part : Ast}
    (hpart : part ∈ byteLiterals p text) : part.IsFlat := by
  induction text generalizing p with
  | nil => cases hpart
  | cons b text ih =>
      rcases List.mem_cons.1 hpart with rfl | hpart
      · exact fun _ _ => rfl
      · exact ih hpart

theorem isFlat_of_mem_openingParts {part : Ast} (hpart : part ∈ anchoring.openingParts head) :
    part.IsFlat := by
  cases anchoring with
  | start =>
      rcases List.mem_cons.1 hpart with rfl | hpart
      · exact fun _ _ => rfl
      · exact isFlat_of_mem_byteLiterals hpart
  | unanchored => exact isFlat_of_mem_byteLiterals hpart

theorem isFlat_gap (p : Position) : (ParseState.gap p).IsFlat := by
  intro depth hdepth
  have hnest : depth < nestLimit := Nat.lt_of_le_of_lt hdepth (by decide)
  rw [ParseState.gap, Ast.checkDepth, deeper, if_pos hnest]
  rfl

/-! ### What comes of the opening -/

variable {pattern : String} {e : Expr}

/-- The opening is accepted if it stands alone. -/
theorem ofPattern_openingText (hpattern : pattern.toList = anchoring.openingText head) :
    Expr.ofPattern (.start false) pattern = .ok (.seqs (anchoring.opening head)) := by
  have hnothing : pattern.toList = anchoring.openingText head ++ [] :=
    hpattern.trans (List.append_nil _).symm
  obtain ⟨fuel, -, hrun⟩ := exists_run_opened hnothing
  exact Ast.ofPattern_of_run hrun rfl rfl rfl rfl (fun _ => isFlat_of_mem_openingParts)
    (anchoring.toExprs_openingParts head)

theorem ofPattern_opening (hpattern : pattern.toList = anchoring.openingText head)
    (hexpr : Expr.ofPattern (.start false) pattern = .ok e) :
    e = .seqs (anchoring.opening head) :=
  (Except.ok.inj ((ofPattern_openingText hpattern).symm.trans hexpr)).symm

/-- The state in which the bytes behind the opening are read as well. -/
theorem run_gap_of_ofPattern {ast : Ast} {more : List Char}
    (hpattern : pattern.toList = anchoring.openingText head ++ '.' :: '*' :: '?' :: more)
    (hread : Ast.ofPattern pattern = .ok ast) :
    ∃ fuel p q, more.length ≤ fuel ∧ ParseState.run fuel
      ⟨⟨more, p⟩, false,
        ⟨.start, ParseState.gap q :: (anchoring.openingParts head).reverse⟩, [], []⟩ = .ok ast := by
  obtain ⟨fuel, hfuel, hrun⟩ := run_opened_of_ofPattern hpattern hread
  obtain ⟨fuel, rfl⟩ : ∃ fuel', fuel = fuel' + 2 := by
    simp only [List.length_cons] at hfuel
    exact ⟨fuel - 2, by omega⟩
  rw [opened, ParseState.run_gap] at hrun
  simp only [List.length_cons] at hfuel
  exact ⟨fuel, _, _, by omega, hrun⟩

def openingAndTail (anchoring : Anchoring) (head tail : List UInt8) : List Expr :=
  anchoring.opening head ++ .repeated 0 none false (.byte .full) ::
    tail.map fun b => .byte (.single b.toNat)

/-- The opening is accepted with exact bytes behind it. -/
theorem ofPattern_openingAndTail {tail : List UInt8}
    (hpattern : pattern.toList =
      anchoring.openingText head ++ '.' :: '*' :: '?' :: tail.flatMap escapeByte) :
    Expr.ofPattern (.start false) pattern = .ok (.seqs (anchoring.openingAndTail head tail)) := by
  obtain ⟨fuel, hfuel, hrun⟩ := exists_run_opened hpattern
  simp only [List.length_cons, length_escapes] at hfuel
  obtain ⟨fuel, rfl⟩ : ∃ fuel', fuel = fuel' + tail.length + 2 :=
    ⟨fuel - tail.length - 2, by omega⟩
  rw [opened, ParseState.run_gap, ← List.append_nil (tail.flatMap escapeByte),
    ParseState.run_escapes] at hrun
  generalize Position.start.afterAll (anchoring.openingText head) = q at hrun
  generalize q.afterAll ['.', '*', '?'] = p at hrun
  have hexprs : Ast.toExprs (.start false)
      (anchoring.openingParts head ++ ParseState.gap q :: byteLiterals p tail) =
        .ok (anchoring.openingAndTail head tail, .start false) := by
    rw [Ast.toExprs_append _ (anchoring.toExprs_openingParts head), Ast.toExprs,
      ParseState.toExpr_gap, ok_bind]
    simp only [toExprs_byteLiterals, ok_bind]
    rfl
  refine Ast.ofPattern_of_run hrun rfl rfl rfl ?_ ?_ hexprs
  · rw [List.reverse_append, List.reverse_cons, List.append_assoc, List.singleton_append]
    rfl
  · intro part hpart
    rcases List.mem_append.1 hpart with hpart | hpart
    · exact isFlat_of_mem_openingParts hpart
    · rcases List.mem_cons.1 hpart with rfl | hpart
      · exact isFlat_gap _
      · exact isFlat_of_mem_byteLiterals hpart

/-- With exact bytes behind the opening there is no bar. -/
theorem ofPattern_escapes {tail : List UInt8}
    (hpattern : pattern.toList =
      anchoring.openingText head ++ '.' :: '*' :: '?' :: tail.flatMap escapeByte)
    (hexpr : Expr.ofPattern (.start false) pattern = .ok e) :
    e = .seqs (anchoring.openingAndTail head tail) :=
  (Except.ok.inj ((ofPattern_openingAndTail hpattern).symm.trans hexpr)).symm

/-- Whatever is behind the opening, it belongs to a sequence that begins with the opening, or to
one that ends at a bar. -/
theorem ofPattern_gap (more : List Char)
    (hpattern : pattern.toList = anchoring.openingText head ++ '.' :: '*' :: '?' :: more)
    (hexpr : Expr.ofPattern (.start false) pattern = .ok e) :
    ∃ es, es ≠ [] ∧ (e = .seqs (anchoring.opening head ++ es) ∨
      ∃ later, e = .alt (.seqs (anchoring.opening head ++ es)) later) := by
  obtain ⟨ast, m', hread, hexpr⟩ := Expr.ofPattern_eq_ok hexpr
  obtain ⟨fuel, p, q, -, hrun⟩ := run_gap_of_ofPattern hpattern hread
  have hcovers : Parts.Covers
      ⟨.start, ParseState.gap q :: (anchoring.openingParts head).reverse⟩
      (anchoring.openingParts head).reverse :=
    ⟨[ParseState.gap q], List.cons_ne_nil _ _, rfl⟩
  have hbottom := ParseState.hasBottom_of_run (.parts hcovers) hrun
  have hexprs := anchoring.toExprs_openingParts head
  rw [← List.reverse_reverse (anchoring.openingParts head)] at hexprs
  exact Ast.seqs_or_alt_of_hasBottom hbottom hexprs hexpr

/-! ### Matches of the opening -/

/-- A match of what begins with the opening has the bytes where they are looked for. -/
theorem finds_of_isMatch {h : Haystack} {es : List Expr}
    (hmatch : h.isMatch (.seqs (anchoring.opening head ++ es)) = true) :
    anchoring.Finds head h.bytes := by
  have hopening := Haystack.ends_seqs_ne_zero_of_append (Haystack.isMatch_iff.1 hmatch)
  cases anchoring with
  | start =>
      rw [opening, Haystack.ends_seqs_cons] at hopening
      obtain ⟨i, hi, htext⟩ := Haystack.exists_prefix_of_ends_bytes hopening
      have hzero : i = 0 := by
        simp only [Haystack.ends, Haystack.lookAt, Nat.testBit_and, Bool.and_eq_true] at hi
        exact Nat.testBit_one_eq_true_iff_self_eq_zero.1 hi.2
      rw [hzero] at htext
      exact htext
  | unanchored =>
      obtain ⟨i, -, htext⟩ := Haystack.exists_prefix_of_ends_bytes hopening
      exact htext.isInfix.trans (List.drop_suffix i _).isInfix

/-- Where nothing else is asked for, the bytes are all that it takes. -/
theorem isMatch_opening_iff {h : Haystack} :
    h.isMatch (.seqs (anchoring.opening head)) = true ↔ anchoring.Finds head h.bytes := by
  constructor
  · intro hmatch
    rw [← List.append_nil (anchoring.opening head)] at hmatch
    exact finds_of_isMatch hmatch
  · intro hfinds
    rw [Haystack.isMatch_iff]
    cases anchoring with
    | start =>
        rw [opening, Haystack.ends_seqs_cons]
        have hzero : (h.ends (.look .textStart) h.places).testBit 0 = true := by
          rw [Haystack.ends, Haystack.lookAt, Nat.testBit_and, h.testBit_places]
          rfl
        exact Haystack.ends_bytes_ne_zero hzero hfinds
    | unanchored =>
        obtain ⟨before, behind, hbytes⟩ := hfinds
        have hplace : h.places.testBit before.length = true := by
          rw [h.testBit_places, decide_eq_true_iff, Haystack.size, ByteArray.size,
            ← Array.length_toList, ← hbytes, List.append_assoc, List.length_append]
          exact Nat.le_add_right _ _
        have htext : head <+: h.bytesFrom before.length := by
          rw [Haystack.bytesFrom, ← hbytes, List.append_assoc, List.drop_left]
          exact List.prefix_append _ _
        exact Haystack.ends_bytes_ne_zero hplace htext

end Anchoring

end FormatScan
