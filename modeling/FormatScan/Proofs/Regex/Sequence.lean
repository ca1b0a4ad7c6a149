import FormatScan.Proofs.Regex.Bottom
import FormatScan.Regex.Meaning

/-!
# What a sequence asks for

A sequence asks for what its parts ask for, one after the other, and the modes go on from part to
part. A pattern with known parts at its bottom therefore begins with what these parts ask for, up to
the first bar if there is one outside of all groups.
-/

namespace FormatScan.Regex

/-- The expression behind the first bar, if a bar is outside of all groups. -/
def Expr.behindBar? : Expr → Option Expr
  | .alt _ later => some later
  | _ => none

theorem Expr.behindBar?_seqs_append {es es' : List Expr} (hne : es ≠ []) (hne' : es' ≠ []) :
    (Expr.seqs (es ++ es')).behindBar? = none := by
  rcases es with _ | ⟨e, _ | ⟨e'', es⟩⟩
  · exact absurd rfl hne
  · cases es' with
    | nil => exact absurd rfl hne'
    | cons e' es' => rfl
  · rfl

theorem Expr.ofPattern_eq_ok {m : Modes} {pattern : String} {e : Expr}
    (hpattern : Expr.ofPattern m pattern = .ok e) :
    ∃ ast m', Ast.ofPattern pattern = .ok ast ∧ ast.toExpr m = .ok (e, m') := by
  rw [Expr.ofPattern] at hpattern
  obtain ⟨ast, hread, hpattern⟩ := bind_eq_ok.1 hpattern
  obtain ⟨⟨e', m'⟩, hexpr, hpattern⟩ := bind_eq_ok.1 hpattern
  cases hpattern
  exact ⟨ast, m', hread, hexpr⟩

namespace Ast

variable {m m' m'' : Modes} {es es' : List Expr} {e : Expr} {ast part : Ast} {parts : List Ast}

theorem toExprs_cons_eq_ok (hparts : toExprs m (part :: parts) = .ok (es, m'')) :
    ∃ e m' rest, part.toExpr m = .ok (e, m') ∧ toExprs m' parts = .ok (rest, m'') ∧
      es = e :: rest := by
  rw [toExprs] at hparts
  obtain ⟨⟨e, m'⟩, hpart, hparts⟩ := bind_eq_ok.1 hparts
  obtain ⟨⟨rest, last⟩, hrest, hparts⟩ := bind_eq_ok.1 hparts
  cases hparts
  exact ⟨e, m', rest, hpart, hrest, rfl⟩

theorem length_toExprs (hparts : toExprs m parts = .ok (es, m')) : es.length = parts.length := by
  induction parts generalizing m es with
  | nil =>
      cases hparts
      rfl
  | cons part parts ih =>
      obtain ⟨e, next, rest, -, hrest, rfl⟩ := toExprs_cons_eq_ok hparts
      rw [List.length_cons, List.length_cons, ih hrest]

/-- Parts in a row ask one after the other, with the modes that those in front have left. -/
theorem toExprs_append (parts' : List Ast) (hparts : toExprs m parts = .ok (es, m')) :
    toExprs m (parts ++ parts') =
      toExprs m' parts' >>= fun result => .ok (es ++ result.1, result.2) := by
  induction parts generalizing m es with
  | nil =>
      cases hparts
      rw [List.nil_append]
      cases toExprs m' parts' <;> rfl
  | cons part parts ih =>
      obtain ⟨e, next, rest, hpart, hrest, rfl⟩ := toExprs_cons_eq_ok hparts
      rw [List.cons_append, toExprs, hpart, ok_bind]
      simp only [ih hrest]
      cases toExprs m' parts' <;> rfl

/-- A sequence asks for what its parts ask for. -/
theorem toExpr_toAst (parts : Parts) (last : Position) :
    (parts.toAst last).toExpr m =
      toExprs m parts.parts.reverse >>= fun result => .ok (.seqs result.1, result.2) := by
  obtain ⟨first, parts⟩ := parts
  rcases parts with _ | ⟨part, _ | ⟨part', parts⟩⟩
  · rfl
  · have hsingle : toExprs m [part] =
        part.toExpr m >>= fun result => .ok ([result.1], result.2) := by
      rw [toExprs]
      rfl
    rw [Parts.toAst, List.reverse_singleton, hsingle]
    cases part.toExpr m <;> rfl
  · rw [Parts.toAst, toExpr]
    rfl

/-! ### Parts that are not nested -/

/-- The part is not nested deeper than its place in a sequence allows. -/
def IsFlat (part : Ast) : Prop := ∀ depth ≤ 1, part.checkDepth depth = .ok ()

theorem checkDepthAll_of_isFlat (hflat : ∀ part ∈ parts, part.IsFlat) :
    checkDepthAll 1 parts = .ok () := by
  induction parts with
  | nil => rfl
  | cons part parts ih =>
      obtain ⟨hpart, hparts⟩ := List.forall_mem_cons.1 hflat
      rw [checkDepthAll, hpart 1 (Nat.le_refl 1), ok_bind, ih hparts]

theorem checkDepth_toAst (hflat : ∀ part ∈ parts, part.IsFlat) (first last : Position) :
    ((Parts.mk first parts).toAst last).checkDepth 0 = .ok () := by
  rcases parts with _ | ⟨part, _ | ⟨part', parts⟩⟩
  · rfl
  · exact hflat part (List.mem_singleton_self part) 0 (Nat.zero_le 1)
  · have hdeeper (span : Span) : deeper 0 span = .ok 1 := rfl
    rw [Parts.toAst, checkDepth, hdeeper, ok_bind]
    exact checkDepthAll_of_isFlat fun part hpart => hflat part (List.mem_reverse.1 hpart)

/-- A pattern is accepted if it is read as parts that are not nested and that all ask for
something. -/
theorem ofPattern_of_run {pattern : String} {s : ParseState} {fuel : Nat}
    (hrun : (ParseState.start pattern).run ((ParseState.start pattern).cursor.rest.length + 1) =
      s.run fuel)
    (hverbose : s.verbose = false) (hrest : s.cursor.rest = []) (hstack : s.stack = [])
    (hparts : s.parts.parts = parts.reverse) (hflat : ∀ part ∈ parts, part.IsFlat)
    (hexprs : toExprs m parts = .ok (es, m')) : Expr.ofPattern m pattern = .ok (.seqs es) := by
  have hflat' : ∀ part ∈ s.parts.parts, part.IsFlat := by
    intro part hpart
    rw [hparts] at hpart
    exact hflat part (List.mem_reverse.1 hpart)
  have hread : Ast.ofPattern pattern = .ok (s.parts.toAst s.cursor.pos) := by
    unfold Ast.ofPattern
    simp only
    rw [hrun, ParseState.run_nil hverbose hrest, ParseState.finish, ParseState.popBody, hstack,
      ok_bind, checkDepth_toAst hflat', ok_bind]
    rfl
  rw [Expr.ofPattern, hread, ok_bind, toExpr_toAst, hparts, List.reverse_reverse, hexprs]
  rfl

/-! ### Known parts at the bottom -/

variable {base : List Ast}

/-- A sequence on top of given parts asks for what these ask for, and then for more. -/
theorem StartsWith.toExpr (hstarts : ast.StartsWith base)
    (hbase : toExprs m base.reverse = .ok (es, m')) (hexpr : ast.toExpr m = .ok (e, m'')) :
    ∃ es', es' ≠ [] ∧ e = .seqs (es ++ es') := by
  obtain ⟨parts, last, ⟨above, hne, hparts⟩, rfl⟩ := hstarts
  rw [toExpr_toAst, hparts, List.reverse_append, toExprs_append above.reverse hbase] at hexpr
  obtain ⟨⟨all, last'⟩, hall, hexpr⟩ := bind_eq_ok.1 hexpr
  obtain ⟨⟨es', after⟩, hes, hall⟩ := bind_eq_ok.1 hall
  cases hall
  cases hexpr
  refine ⟨es', ?_, rfl⟩
  intro hnil
  apply hne
  have hlength := length_toExprs hes
  rw [hnil, List.length_reverse] at hlength
  exact List.length_eq_zero_iff.1 hlength.symm

/-- What a pattern asks for begins with what its bottom asks for, or does so up to the first
bar. -/
theorem seqs_or_alt_of_hasBottom (hbottom : ParseState.HasBottom base ast)
    (hbase : toExprs m base.reverse = .ok (es, m')) (hexpr : ast.toExpr m = .ok (e, m'')) :
    ∃ es', es' ≠ [] ∧ (e = .seqs (es ++ es') ∨ ∃ later, e = .alt (.seqs (es ++ es')) later) := by
  cases hbottom with
  | sequence hstarts =>
      obtain ⟨es', hne, he⟩ := hstarts.toExpr hbase hexpr
      exact ⟨es', hne, .inl he⟩
  | @alternation span first more hfirst hmore =>
      rw [Ast.toExpr] at hexpr
      obtain ⟨⟨all, last⟩, hall, hexpr⟩ := bind_eq_ok.1 hexpr
      cases hexpr
      -- The modes at the beginning hold for the first branch, so it is the one that is known.
      obtain ⟨e', next, rest, hfirstExpr, hrest, rfl⟩ := toExprs_cons_eq_ok hall
      obtain ⟨es', hne, rfl⟩ := hfirst.toExpr hbase hfirstExpr
      refine ⟨es', hne, .inr ?_⟩
      cases rest with
      | nil => exact absurd (List.length_eq_zero_iff.1 (length_toExprs hrest).symm) hmore
      | cons e'' rest => exact ⟨.alts (e'' :: rest), rfl⟩

end Ast

end FormatScan.Regex
