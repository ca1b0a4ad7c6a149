import FormatScan.Proofs.Fallible
import FormatScan.Regex.Ends
import FormatScan.Regex.Meaning

/-!
# Patterns without places

The parts of a pattern keep the places where they were read, for reports. What a pattern asks of
bytes does not depend on them: with all places taken out of it, it asks for the same.
-/

namespace FormatScan.Regex

def Span.nowhere : Span := .at .start

def FlagItem.unplaced (item : FlagItem) : FlagItem := { item with span := .nowhere }

def Literal.unplaced (l : Literal) : Literal := { l with span := .nowhere }

def PropertyClass.unplaced (cls : PropertyClass) : PropertyClass := { cls with span := .nowhere }

def PerlClass.unplaced (cls : PerlClass) : PerlClass := { cls with span := .nowhere }

mutual

def ClassSet.unplaced : ClassSet → ClassSet
  | .empty _ => .empty .nowhere
  | .literal l => .literal l.unplaced
  | .range _ low high => .range .nowhere low.unplaced high.unplaced
  | .ascii _ negated kind => .ascii .nowhere negated kind
  | .property cls => .property cls.unplaced
  | .perl cls => .perl cls.unplaced
  | .bracketed _ negated body => .bracketed .nowhere negated body.unplaced
  | .union _ items => .union .nowhere (ClassSet.unplacedAll items)
  | .op _ kind left right => .op .nowhere kind left.unplaced right.unplaced

def ClassSet.unplacedAll : List ClassSet → List ClassSet
  | [] => []
  | item :: rest => item.unplaced :: ClassSet.unplacedAll rest

end

mutual

def Ast.unplaced : Ast → Ast
  | .empty _ => .empty .nowhere
  | .flags _ items => .flags .nowhere (items.map FlagItem.unplaced)
  | .literal l => .literal l.unplaced
  | .dot _ => .dot .nowhere
  | .assertion _ kind => .assertion .nowhere kind
  | .property cls => .property cls.unplaced
  | .perl cls => .perl cls.unplaced
  | .bracketed _ negated body => .bracketed .nowhere negated body.unplaced
  | .repetition _ min max greedy body => .repetition .nowhere min max greedy body.unplaced
  | .capture _ body => .capture .nowhere body.unplaced
  | .group _ items body => .group .nowhere (items.map FlagItem.unplaced) body.unplaced
  | .alternation _ branches => .alternation .nowhere (Ast.unplacedAll branches)
  | .concat _ parts => .concat .nowhere (Ast.unplacedAll parts)

def Ast.unplacedAll : List Ast → List Ast
  | [] => []
  | part :: rest => part.unplaced :: Ast.unplacedAll rest

end

def Expr.unplaced : Expr → Expr
  | .seq first second => .seq first.unplaced second.unplaced
  | .alt left right => .alt left.unplaced right.unplaced
  | .repeated min max greedy body => .repeated min max greedy body.unplaced
  | .group _ body => .group none body.unplaced
  | e => e

theorem ClassSet.unplacedAll_eq_map (items : List ClassSet) :
    unplacedAll items = items.map unplaced := by
  induction items with
  | nil => rfl
  | cons item rest ih => rw [unplacedAll, ih, List.map_cons]

theorem Ast.unplacedAll_eq_map (parts : List Ast) : unplacedAll parts = parts.map unplaced := by
  induction parts with
  | nil => rfl
  | cons part rest ih => rw [unplacedAll, ih, List.map_cons]

/-! ### Meaning -/

theorem flagState_unplaced (flag : Flag) (items : List FlagItem) :
    flagState flag (items.map FlagItem.unplaced) = flagState flag items := by
  have hgo (value : Bool) :
      flagState.go flag value (items.map FlagItem.unplaced) = flagState.go flag value items := by
    induction items generalizing value with
    | nil => rfl
    | cons item rest ih =>
        rw [List.map_cons, flagState.go, flagState.go]
        simp only [ih]
        rfl
  exact hgo true

theorem Modes.apply_unplaced (m : Modes) (items : List FlagItem) :
    m.apply (items.map FlagItem.unplaced) = m.apply items := by
  simp only [apply, flagState_unplaced]

theorem toOption_bind {α β : Type} (x : Parsed α) (f : α → Parsed β) :
    (x >>= f).toOption = x.toOption.bind fun a => (f a).toOption := by
  cases x <;> rfl

theorem toOption_pure {α : Type} (a : α) : (pure a : Parsed α).toOption = some a := rfl

theorem Modes.toOption_checkText (m : Modes) (span span' : Span) (set : ByteSet) :
    (m.checkText span set).toOption = (m.checkText span' set).toOption := by
  rw [checkText, checkText]
  split <;> rfl

theorem Literal.toOption_classByte_unplaced (l : Literal) :
    l.unplaced.classByte.toOption = l.classByte.toOption := by
  rw [classByte, classByte]
  have hbyte : l.unplaced.byte? = l.byte? := rfl
  have hchar : l.unplaced.char = l.char := rfl
  rw [hbyte, hchar]
  split
  · rfl
  · split <;> rfl

theorem PropertyClass.toOption_ranges_unplaced (m : Modes) (cls : PropertyClass) :
    (cls.unplaced.ranges m).toOption = (cls.ranges m).toOption := by
  have hquery : cls.unplaced.query = cls.query := rfl
  rw [PropertyClass.ranges, PropertyClass.ranges, hquery]
  split
  · rfl
  · split <;> rfl

mutual

theorem ClassSet.toOption_bytes_unplaced (m : Modes) (set : ClassSet) :
    (set.unplaced.bytes m).toOption = (set.bytes m).toOption := by
  cases set with
  | empty span => rfl
  | literal l =>
      simp only [unplaced, bytes, toOption_bind, Literal.toOption_classByte_unplaced, toOption_pure]
  | range span low high =>
      simp only [unplaced, bytes, toOption_bind, Literal.toOption_classByte_unplaced, toOption_pure]
  | ascii span negated kind => exact m.toOption_checkText ..
  | property cls => rfl
  | perl cls => exact m.toOption_checkText ..
  | bracketed span negated body =>
      simp only [unplaced, bytes, toOption_bind, ClassSet.toOption_bytes_unplaced m body,
        m.toOption_checkText .nowhere span]
  | union span items => exact ClassSet.toOption_bytesOfAll_unplaced m items
  | op span kind left right =>
      simp only [unplaced, bytes, toOption_bind, ClassSet.toOption_bytes_unplaced m left,
        ClassSet.toOption_bytes_unplaced m right, toOption_pure]

theorem ClassSet.toOption_bytesOfAll_unplaced (m : Modes) (items : List ClassSet) :
    (bytesOfAll m (unplacedAll items)).toOption = (bytesOfAll m items).toOption := by
  cases items with
  | nil => rfl
  | cons item rest =>
      simp only [unplacedAll, bytesOfAll, toOption_bind, ClassSet.toOption_bytes_unplaced m item,
        ClassSet.toOption_bytesOfAll_unplaced m rest, toOption_pure]

end

mutual

theorem ClassSet.toOption_addRanges_unplaced (m : Modes) (there : Unicode.Ranges) (set : ClassSet) :
    (set.unplaced.addRanges m there).toOption = (set.addRanges m there).toOption := by
  cases set with
  | empty span => rfl
  | literal l => rfl
  | range span low high => rfl
  | ascii span negated kind => rfl
  | property cls =>
      simp only [unplaced, addRanges, toOption_bind, PropertyClass.toOption_ranges_unplaced,
        toOption_pure]
  | perl cls => rfl
  | bracketed span negated body =>
      simp only [unplaced, addRanges, toOption_bind, ClassSet.toOption_addRanges_unplaced m [] body,
        toOption_pure]
  | union span items => exact ClassSet.toOption_addAllRanges_unplaced m there items
  | op span kind left right =>
      simp only [unplaced, addRanges, toOption_bind, ClassSet.toOption_addRanges_unplaced m [] left,
        ClassSet.toOption_addRanges_unplaced m [] right, toOption_pure]

theorem ClassSet.toOption_addAllRanges_unplaced (m : Modes) (there : Unicode.Ranges)
    (items : List ClassSet) :
    (addAllRanges m there (unplacedAll items)).toOption =
      (addAllRanges m there items).toOption := by
  cases items with
  | nil => rfl
  | cons item rest =>
      simp only [unplacedAll, addAllRanges, toOption_bind,
        ClassSet.toOption_addRanges_unplaced m there item,
        fun ranges => ClassSet.toOption_addAllRanges_unplaced m ranges rest]

end

theorem Literal.toOption_toExpr_unplaced (m : Modes) (l : Literal) :
    (l.unplaced.toExpr m).toOption = (l.toExpr m).toOption := by
  have hbyte : l.unplaced.byte? = l.byte? := rfl
  have hchar : l.unplaced.char = l.char := rfl
  rw [toExpr, toExpr, hbyte, hchar]
  split
  · simp only [toOption_bind, m.toOption_checkText l.unplaced.span l.span]
  · rfl

theorem Modes.toOption_dot (m : Modes) (span span' : Span) :
    (m.dot span).toOption = (m.dot span').toOption := by
  rw [dot, dot]
  split
  · rfl
  · simp only [toOption_bind, m.toOption_checkText span span']

/-- What reading a part gives, without places. -/
def Ast.meaning (m : Modes) (ast : Ast) : Option (Expr × Modes) :=
  (ast.toExpr m).toOption.map fun result => (result.1.unplaced, result.2)

def Ast.meanings (m : Modes) (parts : List Ast) : Option (List Expr × Modes) :=
  (Ast.toExprs m parts).toOption.map fun result => (result.1.map Expr.unplaced, result.2)

theorem Expr.unplaced_seqs (es : List Expr) : (seqs es).unplaced = seqs (es.map unplaced) := by
  induction es with
  | nil => rfl
  | cons e rest ih =>
      cases rest with
      | nil => rfl
      | cons e' rest => exact congrArg (Expr.seq e.unplaced) ih

theorem Expr.unplaced_alts (es : List Expr) : (alts es).unplaced = alts (es.map unplaced) := by
  induction es with
  | nil => rfl
  | cons e rest ih =>
      cases rest with
      | nil => rfl
      | cons e' rest => exact congrArg (Expr.alt e.unplaced) ih

theorem Ast.meaning_repetition (m : Modes) (span : Span) (min : Nat) (max : Option Nat)
    (greedy : Bool) (body : Ast) :
    (repetition span min max greedy body).meaning m = (body.meaning m).map fun result =>
      (.repeated min max (greedy != m.swapGreed) result.1, result.2) := by
  rw [meaning, meaning, toExpr, toOption_bind]
  cases (body.toExpr m).toOption <;> rfl

theorem Ast.meaning_capture (m : Modes) (span : Span) (body : Ast) :
    (capture span body).meaning m =
      (body.meaning m).map fun result => (.group none result.1, m) := by
  rw [meaning, meaning, toExpr, toOption_bind]
  cases (body.toExpr m).toOption <;> rfl

theorem Ast.meaning_group (m : Modes) (span : Span) (items : List FlagItem) (body : Ast) :
    (group span items body).meaning m =
      (body.meaning (m.apply items)).map fun result => (.group none result.1, m) := by
  rw [meaning, meaning, toExpr, toOption_bind]
  cases (body.toExpr (m.apply items)).toOption <;> rfl

theorem Ast.meaning_alternation (m : Modes) (span : Span) (branches : List Ast) :
    (alternation span branches).meaning m =
      (meanings m branches).map fun result => (.alts result.1, result.2) := by
  rw [meaning, meanings, toExpr, toOption_bind]
  cases (toExprs m branches).toOption with
  | none => rfl
  | some result => exact congrArg (fun e => some (e, result.2)) (Expr.unplaced_alts result.1)

theorem Ast.meaning_concat (m : Modes) (span : Span) (parts : List Ast) :
    (concat span parts).meaning m =
      (meanings m parts).map fun result => (.seqs result.1, result.2) := by
  rw [meaning, meanings, toExpr, toOption_bind]
  cases (toExprs m parts).toOption with
  | none => rfl
  | some result => exact congrArg (fun e => some (e, result.2)) (Expr.unplaced_seqs result.1)

theorem Ast.meanings_cons (m : Modes) (part : Ast) (rest : List Ast) :
    meanings m (part :: rest) = (part.meaning m).bind fun first =>
      (meanings first.2 rest).map fun others => (first.1 :: others.1, others.2) := by
  rw [meanings, meaning, toExprs, toOption_bind]
  cases (part.toExpr m).toOption with
  | none => rfl
  | some first =>
      simp only [Option.bind_some, Option.map_some, toOption_bind, meanings]
      cases (toExprs first.2 rest).toOption <;> rfl

mutual

/-- The places of the parts have no bearing on what they ask for. -/
theorem Ast.meaning_unplaced (m : Modes) (ast : Ast) : ast.unplaced.meaning m = ast.meaning m := by
  cases ast with
  | empty span => rfl
  | flags span items => simp only [unplaced, meaning, toExpr, Modes.apply_unplaced]
  | literal l =>
      simp only [unplaced, meaning, toExpr, toOption_bind, Literal.toOption_toExpr_unplaced]
  | dot span => simp only [unplaced, meaning, toExpr, toOption_bind, m.toOption_dot .nowhere span]
  | assertion span kind => rfl
  | property cls =>
      simp only [unplaced, meaning, toExpr, toOption_bind, PropertyClass.toOption_ranges_unplaced]
  | perl cls =>
      simp only [unplaced, meaning, toExpr]
      split
      · rfl
      · simp only [toOption_bind, m.toOption_checkText cls.unplaced.span cls.span]
        rfl
  | bracketed span negated body =>
      simp only [unplaced, meaning, toExpr]
      split
      · simp only [ClassSet.ranges, toOption_bind, ClassSet.toOption_addRanges_unplaced]
      · simp only [toOption_bind, m.toOption_checkText .nowhere span,
          ClassSet.toOption_bytes_unplaced]
  | repetition span min max greedy body =>
      rw [unplaced, meaning_repetition, meaning_repetition, Ast.meaning_unplaced m body]
  | capture span body =>
      rw [unplaced, meaning_capture, meaning_capture, Ast.meaning_unplaced m body]
  | group span items body =>
      rw [unplaced, meaning_group, meaning_group, Modes.apply_unplaced,
        Ast.meaning_unplaced (m.apply items) body]
  | alternation span branches =>
      rw [unplaced, meaning_alternation, meaning_alternation, Ast.meanings_unplaced m branches]
  | concat span parts =>
      rw [unplaced, meaning_concat, meaning_concat, Ast.meanings_unplaced m parts]

theorem Ast.meanings_unplaced (m : Modes) (parts : List Ast) :
    meanings m (unplacedAll parts) = meanings m parts := by
  cases parts with
  | nil => rfl
  | cons part rest =>
      rw [unplacedAll, meanings_cons, meanings_cons, Ast.meaning_unplaced m part]
      simp only [fun m' => Ast.meanings_unplaced m' rest]

end

theorem Ast.meaning_eq_some {m m' : Modes} {ast : Ast} {e : Expr}
    (hexpr : ast.toExpr m = .ok (e, m')) : ast.meaning m = some (e.unplaced, m') := by
  rw [meaning, hexpr]
  rfl

/-! ### Matches -/

theorem Expr.bare_unplaced (e : Expr) : e.unplaced.bare = e.bare.unplaced := by
  induction e with
  | group capture body ih => exact ih
  | _ => rfl

namespace Haystack

/-- Places in a pattern do not matter to a match. -/
theorem ends_unplaced (h : Haystack) (e : Expr) (s : Nat) : h.ends e.unplaced s = h.ends e s := by
  induction e generalizing s with
  | empty => rfl
  | byte set => rfl
  | scalar set => rfl
  | look condition => rfl
  | seq first second ih ih' => simp only [Expr.unplaced, ends, ih, ih']
  | alt left right ih ih' => simp only [Expr.unplaced, ends, ih, ih']
  | repeated min max greedy body ih =>
      have hbody : h.ends body.unplaced = h.ends body := funext ih
      simp only [Expr.unplaced, ends, hbody, Expr.bare_unplaced]
      cases max with
      | some max => rfl
      | none => cases body.bare <;> rfl
  | group capture body ih => exact ih s

theorem isMatch_unplaced (h : Haystack) (e : Expr) : h.isMatch e.unplaced = h.isMatch e := by
  rw [isMatch, isMatch, ends_unplaced]

end Haystack

end FormatScan.Regex
