import FormatScan.Proofs.Json.Layout
import FormatScan.Proofs.Json.Scalars

/-!
# Reading back what was written

A text of a value is read as this value, whatever white space is in it, but that the members of an
object come out in the order of their names. Floating-point numbers are left aside, and so are whole
numbers of more than 64 bits and values that go deeper than the reader does.
-/

namespace FormatScan.Json

variable {blank gap rest : List Char} {place : Place} {fuel depth : Nat}

/-! ### Values that can be read back -/

mutual

/-- There are no floating-point numbers in a value, and the whole ones fit into 64 bits. -/
def Exact : Json → Prop
  | .nat n => n ≤ maxNat
  | .negative n => n < 0 ∧ n.natAbs ≤ UInt64.size / 2
  | .float _ => False
  | .array items => ExactAll items
  | .object members => ExactMembers members
  | _ => True

def ExactAll : List Json → Prop
  | [] => True
  | item :: rest => item.Exact ∧ ExactAll rest

def ExactMembers : List (String × Json) → Prop
  | [] => True
  | (_, value) :: rest => value.Exact ∧ ExactMembers rest

end

mutual

def levels : Json → Nat
  | .array items => levelsAll items + 1
  | .object members => levelsMembers members + 1
  | _ => 0

def levelsAll : List Json → Nat
  | [] => 0
  | item :: rest => max item.levels (levelsAll rest)

def levelsMembers : List (String × Json) → Nat
  | [] => 0
  | (_, value) :: rest => max value.levels (levelsMembers rest)

end

mutual

def ordered : Json → Json
  | .array items => .array (orderedAll items)
  | .object members => .ofMembers (orderedMembers members)
  | value => value

def orderedAll : List Json → List Json
  | [] => []
  | item :: rest => item.ordered :: orderedAll rest

def orderedMembers : List (String × Json) → List (String × Json)
  | [] => []
  | (name, value) :: rest => (name, value.ordered) :: orderedMembers rest

end

theorem exactAll_iff {items : List Json} : ExactAll items ↔ ∀ item ∈ items, item.Exact := by
  induction items with
  | nil => exact iff_of_true trivial fun item hitem => nomatch hitem
  | cons item items ih => rw [ExactAll, ih, List.forall_mem_cons]

theorem exactMembers_iff {members : List (String × Json)} :
    ExactMembers members ↔ ∀ m ∈ members, m.2.Exact := by
  induction members with
  | nil => exact iff_of_true trivial fun m hm => nomatch hm
  | cons m members ih => rw [ExactMembers, ih, List.forall_mem_cons]

theorem levelsAll_le_iff {items : List Json} {bound : Nat} :
    levelsAll items ≤ bound ↔ ∀ item ∈ items, item.levels ≤ bound := by
  induction items with
  | nil => exact iff_of_true (Nat.zero_le bound) fun item hitem => nomatch hitem
  | cons item items ih => rw [levelsAll, Nat.max_le, ih, List.forall_mem_cons]

theorem levelsMembers_le_iff {members : List (String × Json)} {bound : Nat} :
    levelsMembers members ≤ bound ↔ ∀ m ∈ members, m.2.levels ≤ bound := by
  induction members with
  | nil => exact iff_of_true (Nat.zero_le bound) fun m hm => nomatch hm
  | cons m members ih => rw [levelsMembers, Nat.max_le, ih, List.forall_mem_cons]

theorem orderedAll_eq_map (items : List Json) : orderedAll items = items.map ordered := by
  induction items with
  | nil => rfl
  | cons item items ih => rw [orderedAll, ih, List.map_cons]

theorem orderedMembers_eq_map (members : List (String × Json)) :
    orderedMembers members = members.map fun m => (m.1, m.2.ordered) := by
  induction members with
  | nil => rfl
  | cons m members ih => rw [orderedMembers, ih, List.map_cons]

/-! ### White space -/

theorem skipSpace_of_not_blank {ch : Char} (hch : ch.isWhitespace = false) (rest : List Char)
    (place : Place) : Cursor.skipSpace ⟨ch :: rest, place⟩ = ⟨ch :: rest, place⟩ := by
  have hne (other : Char) (hother : other.isWhitespace = true) : ch ≠ other := by
    rintro rfl
    exact Bool.false_ne_true (hch.symm.trans hother)
  rw [Cursor.skipSpace, Cursor.skipSpace.go, if_neg (hne '\n' rfl), if_neg]
  rintro (h | h | h)
  · exact hne ' ' rfl h
  · exact hne '\t' rfl h
  · exact hne '\r' rfl h

theorem skipSpace_cons {ch : Char} (hch : ch.isWhitespace = true) (rest : List Char)
    (place : Place) :
    ∃ place', Cursor.skipSpace ⟨ch :: rest, place⟩ = Cursor.skipSpace ⟨rest, place'⟩ := by
  simp only [Cursor.skipSpace]
  rw [Cursor.skipSpace.go]
  by_cases hline : ch = '\n'
  · exact ⟨_, if_pos hline⟩
  · have hspace : ch = ' ' ∨ ch = '\t' ∨ ch = '\r' := by
      simpa [Char.isWhitespace, hline, or_assoc] using hch
    rw [if_neg hline]
    exact ⟨_, if_pos hspace⟩

/-- White space is skipped up to a character that is none. -/
theorem skipSpace_append (hblank : Blank blank) {ch : Char} (hch : ch.isWhitespace = false)
    (rest : List Char) (place : Place) :
    ∃ place', Cursor.skipSpace ⟨blank ++ ch :: rest, place⟩ = ⟨ch :: rest, place'⟩ := by
  induction blank generalizing place with
  | nil => exact ⟨place, skipSpace_of_not_blank hch rest place⟩
  | cons first blank ih =>
      have hskip := ih fun other hother => hblank other (List.mem_cons_of_mem _ hother)
      obtain ⟨place', hfirst⟩ := skipSpace_cons (hblank first List.mem_cons_self)
        (blank ++ ch :: rest) place
      rw [List.cons_append, hfirst]
      exact hskip place'

theorem Blank.append {front back : List Char} (hfront : Blank front) (hback : Blank back) :
    Blank (front ++ back) :=
  List.forall_mem_append.2 ⟨hfront, hback⟩

theorem isEnd_skipSpace (hblank : Blank blank) (place : Place) :
    (Cursor.skipSpace ⟨blank, place⟩).isEnd = true := by
  induction blank generalizing place with
  | nil => rfl
  | cons first blank ih =>
      have hskip := ih fun other hother => hblank other (List.mem_cons_of_mem _ hother)
      obtain ⟨place', hfirst⟩ := skipSpace_cons (hblank first List.mem_cons_self) blank place
      rw [hfirst]
      exact hskip place'

theorem ends_of_isWhitespace {ch : Char} (hch : ch.isWhitespace = true) (rest : List Char) :
    Ends (ch :: rest) := by
  intro other hother
  rw [← Option.some.inj hother]
  exact .inr (.inr (.inr hch))

/-- White space may go before a comma and before a closing bracket. -/
theorem ends_blank_append (hblank : Blank blank) {ch : Char}
    (hch : ch = ',' ∨ ch = ']' ∨ ch = '\x7d') (rest : List Char) : Ends (blank ++ ch :: rest) := by
  cases blank with
  | nil =>
      intro other hother
      rw [← Option.some.inj hother]
      exact hch.imp_right (Or.imp_right .inl)
  | cons first blank => exact ends_of_isWhitespace (hblank first List.mem_cons_self) _

theorem IsGap.ends (hgap : IsGap false gap) (rest : List Char) : Ends (gap ++ rest) := by
  obtain ⟨before, behind, hbefore, -, rfl⟩ := hgap
  rw [List.append_assoc]
  exact ends_blank_append hbefore (.inl rfl) _

theorem IsItems.ends {items : List Json} {text : List Char} (htext : IsItems false items text)
    (rest : List Char) : Ends (text ++ rest) := by
  cases items with
  | nil =>
      obtain ⟨blank, hblank, rfl⟩ := htext
      rw [List.append_assoc]
      exact ends_blank_append hblank (.inr (.inl rfl)) rest
  | cons item items =>
      obtain ⟨gap, front, back, hgap, -, -, rfl⟩ := htext
      rw [List.append_assoc]
      exact hgap.ends _

/-- At least the closing bracket is there, so that fuel is left for it. -/
theorem IsItems.length_pos {isFirst : Bool} {items : List Json} {text : List Char}
    (htext : IsItems isFirst items text) : 0 < text.length := by
  induction items generalizing isFirst text with
  | nil =>
      obtain ⟨blank, -, rfl⟩ := htext
      simp
  | cons item items ih =>
      obtain ⟨gap, front, back, -, -, hback, rfl⟩ := htext
      have hpos := ih hback
      rw [List.length_append, List.length_append]
      omega

theorem IsMembers.ends {members : List (String × Json)} {text : List Char}
    (htext : IsMembers false members text) (rest : List Char) : Ends (text ++ rest) := by
  match members with
  | [] =>
      obtain ⟨blank, hblank, rfl⟩ := htext
      rw [List.append_assoc]
      exact ends_blank_append hblank (.inr (.inr rfl)) rest
  | (name, value) :: members =>
      obtain ⟨gap, before, behind, front, back, hgap, -, -, -, -, rfl⟩ := htext
      rw [List.append_assoc]
      exact hgap.ends _

/-! ### The beginning of a value -/

/-- A character that is neither blank nor the end of a list. -/
def Begins (ch : Char) : Prop := ch.isWhitespace = false ∧ ch ≠ ']'

instance (ch : Char) : Decidable (Begins ch) := inferInstanceAs (Decidable (_ ∧ _))

theorem begins_of_isDigit {ch : Char} (hch : ch.isDigit = true) : Begins ch := by
  constructor
  · rw [Char.isWhitespace]
    simp only [Bool.or_eq_false_iff, decide_eq_false_iff_not, and_assoc]
    refine ⟨?_, ?_, ?_, ?_⟩ <;> rintro rfl <;> cases hch
  · rintro rfl
    cases hch

theorem exists_toDigits_eq_cons (n : Nat) :
    ∃ ch digits, (toString n).toList = ch :: digits ∧ ch.isDigit = true := by
  rw [Nat.toString_eq_repr, Nat.toList_repr]
  obtain ⟨ch, digits, hdigits⟩ :=
    List.exists_cons_of_ne_nil (Nat.toDigits_ne_nil (n := n) (b := 10))
  have hmem : ch ∈ Nat.toDigits 10 n := hdigits ▸ List.mem_cons_self
  exact ⟨ch, digits, hdigits, Nat.isDigit_of_mem_toDigits (by decide) (by decide) hmem⟩

theorem toList_toString_neg {n : Int} (hn : n < 0) :
    (toString n).toList = '-' :: (toString n.natAbs).toList := by
  have habs : (-n).toNat = n.natAbs := by omega
  rw [Int.toString_eq_repr, Int.repr_eq_if, if_neg (Int.not_le.2 hn), habs, String.toList_append,
    Nat.toString_eq_repr]
  rfl

/-- The text of an exact value tells by its first character that neither a blank nor the end of a
list stands there. -/
theorem IsText.exists_eq_cons {value : Json} {text : List Char} (htext : IsText value text)
    (hexact : value.Exact) : ∃ ch more, text = ch :: more ∧ Begins ch := by
  cases value with
  | null => exact ⟨_, _, htext, by decide⟩
  | bool value =>
      cases value
      · exact ⟨_, _, htext, by decide⟩
      · exact ⟨_, _, htext, by decide⟩
  | nat n =>
      obtain ⟨ch, digits, hdigits, hch⟩ := exists_toDigits_eq_cons n
      exact ⟨ch, digits, htext.trans hdigits, begins_of_isDigit hch⟩
  | negative n => exact ⟨_, _, htext.trans (toList_toString_neg hexact.1), by decide⟩
  | float value => exact hexact.elim
  | string s => exact ⟨_, _, htext.trans (toList_renderString s), by decide⟩
  | array items =>
      obtain ⟨inside, -, rfl⟩ := htext
      exact ⟨_, _, rfl, by decide⟩
  | object members =>
      obtain ⟨inside, -, rfl⟩ := htext
      exact ⟨_, _, rfl, by decide⟩

/-! ### Values -/

theorem gives_readValue_nat {n : Nat} (hn : n ≤ maxNat) (hrest : Ends rest) (place : Place) :
    Gives (readValue (fuel + 1) depth ⟨(render (.nat n)).toList ++ rest, place⟩) (.nat n) rest := by
  have hread := gives_readNumber_nat hn hrest place
  obtain ⟨ch, digits, hdigits, hch⟩ := exists_toDigits_eq_cons n
  have hne (letter : Char) (hletter : letter.isDigit = false) : ch ≠ letter := by
    rintro rfl
    exact Bool.false_ne_true (hletter.symm.trans hch)
  rw [hdigits, List.cons_append] at hread
  rw [render, hdigits, List.cons_append, readValue]
  simp only [skipSpace_of_not_blank (begins_of_isDigit hch).1, Cursor.head?, List.head?_cons,
    if_neg (hne 'n' rfl), if_neg (hne 't' rfl), if_neg (hne 'f' rfl), if_neg (hne '-' rfl),
    if_pos hch]
  exact hread

theorem gives_readValue_negative {n : Int} (hn : n < 0 ∧ n.natAbs ≤ UInt64.size / 2)
    (hrest : Ends rest) (place : Place) :
    Gives (readValue (fuel + 1) depth ⟨(render (.negative n)).toList ++ rest, place⟩)
      (.negative n) rest := by
  have habs : -(n.natAbs : Int) = n := by omega
  have hread (place : Place) :=
    gives_readNumber_negative ⟨Int.natAbs_pos.2 (by omega), hn.2⟩ hrest place
  rw [habs] at hread
  have hminus : '-'.isWhitespace = false := rfl
  rw [render, toList_toString_neg hn.1, List.cons_append, readValue]
  simp only [skipSpace_of_not_blank hminus, Cursor.head?, List.head?_cons, Char.reduceEq,
    if_false, if_true]
  exact hread _

theorem gives_readValue_string (s : String) (rest : List Char) (place : Place) :
    Gives (readValue (fuel + 1) depth ⟨(render (.string s)).toList ++ rest, place⟩)
      (.string s) rest := by
  have hread := gives_readString s rest place
  rw [toList_renderString, List.cons_append] at hread
  rw [render, toList_renderString, List.cons_append]
  exact hread.map Json.string

/-- Where a value begins is looked for behind the white space. -/
theorem gives_readValue_blank {value : Json} {ch : Char} {more : List Char} (hblank : Blank blank)
    (hch : ch.isWhitespace = false)
    (hread : ∀ place, Gives (readValue fuel depth ⟨ch :: more, place⟩) value rest)
    (place : Place) : Gives (readValue fuel depth ⟨blank ++ ch :: more, place⟩) value rest := by
  cases fuel with
  | zero =>
      obtain ⟨place', hplace⟩ := hread place
      cases hplace
  | succ fuel =>
      obtain ⟨place', hskip⟩ := skipSpace_append hblank hch more place
      have hvalue := hread place'
      rw [readValue, skipSpace_of_not_blank hch] at hvalue
      rwa [readValue, hskip]

theorem descend_of_lt (hdepth : 1 < depth) (c : Cursor) : descend depth c = .ok (depth - 1) :=
  if_neg (Nat.not_le.2 hdepth)

/-- A list is read one level down, behind its bracket. -/
theorem gives_readValue_array {items : List Json} {more : List Char} (hdepth : 1 < depth)
    (hitems : ∀ place, Gives (readItems fuel (depth - 1) true ⟨more, place⟩) items rest)
    (place : Place) :
    Gives (readValue (fuel + 1) depth ⟨'[' :: more, place⟩) (.array items) rest := by
  have hread : readValue (fuel + 1) depth ⟨'[' :: more, place⟩ =
      (descend depth ⟨'[' :: more, place⟩ >>= fun depth =>
        readItems fuel depth true (Cursor.bump ⟨'[' :: more, place⟩) >>= fun read =>
          pure (array read.1, read.2)) := rfl
  rw [hread, descend_of_lt hdepth]
  exact (hitems _).bind fun place => gives_ok (array items) rest place

/-- An object is read as one whose members are in order. -/
theorem gives_readValue_object {members : List (String × Json)} {more : List Char}
    (hdepth : 1 < depth)
    (hmembers : ∀ place, Gives (readMembers fuel (depth - 1) true ⟨more, place⟩) members rest)
    (place : Place) :
    Gives (readValue (fuel + 1) depth ⟨'\x7b' :: more, place⟩) (.ofMembers members) rest := by
  have hread : readValue (fuel + 1) depth ⟨'\x7b' :: more, place⟩ =
      (descend depth ⟨'\x7b' :: more, place⟩ >>= fun depth =>
        readMembers fuel depth true (Cursor.bump ⟨'\x7b' :: more, place⟩) >>= fun read =>
          pure (ofMembers read.1, read.2)) := rfl
  rw [hread, descend_of_lt hdepth]
  exact (hmembers _).bind fun place => gives_ok (ofMembers members) rest place

/-! ### Lists and objects -/

theorem gives_readItems_nil (hblank : Blank blank) (isFirst : Bool) (rest : List Char)
    (place : Place) :
    Gives (readItems (fuel + 1) depth isFirst ⟨blank ++ ']' :: rest, place⟩) [] rest := by
  have hclosing : ']'.isWhitespace = false := rfl
  obtain ⟨place', hskip⟩ := skipSpace_append hblank hclosing rest place
  have hnext : nextItem? isFirst ⟨blank ++ ']' :: rest, place⟩ = .ok none := by
    rw [nextItem?, hskip]
    rfl
  rw [readItems, hnext, ok_bind, hskip]
  exact gives_ok [] rest _

/-- An item is read where the move to it has come to, and the others behind it. -/
theorem gives_readItems_cons {isFirst : Bool} {c : Cursor} {text more : List Char} {item : Json}
    {items : List Json} (hnext : nextItem? isFirst c = .ok (some ⟨text, place⟩))
    (hitem : ∀ place, Gives (readValue fuel depth ⟨text, place⟩) item more)
    (hitems : ∀ place, Gives (readItems fuel depth false ⟨more, place⟩) items rest) :
    Gives (readItems (fuel + 1) depth isFirst c) (item :: items) rest := by
  rw [readItems, hnext, ok_bind]
  dsimp only
  refine (hitem place).bind fun place => (hitems place).bind fun place => ?_
  exact gives_ok (item :: items) rest place

theorem nextItem?_of_begins {isFirst : Bool} (hgap : IsGap isFirst gap) {ch : Char}
    (hch : Begins ch) (more : List Char) (place : Place) :
    ∃ place', nextItem? isFirst ⟨gap ++ ch :: more, place⟩ = .ok (some ⟨ch :: more, place'⟩) := by
  obtain ⟨before, behind, hbefore, hbehind, rfl⟩ := hgap
  cases isFirst with
  | true =>
      obtain ⟨place', hskip⟩ := skipSpace_append (hbefore.append hbehind) hch.1 more place
      refine ⟨place', ?_⟩
      simp only [nextItem?, if_true, List.nil_append, hskip, Cursor.head?, List.head?_cons,
        if_neg hch.2]
  | false =>
      have hcomma : ','.isWhitespace = false := rfl
      obtain ⟨place', hskip⟩ := skipSpace_append hbefore hcomma (behind ++ ch :: more) place
      have hbump : Cursor.bump ⟨',' :: (behind ++ ch :: more), place'⟩ =
          ⟨behind ++ ch :: more, ⟨place'.line, place'.column + 1⟩⟩ := rfl
      obtain ⟨last, hlast⟩ := skipSpace_append hbehind hch.1 more ⟨place'.line, place'.column + 1⟩
      refine ⟨last, ?_⟩
      simp only [nextItem?, Bool.false_eq_true, if_false, List.append_assoc, List.cons_append,
        List.nil_append, hskip, Cursor.head?, List.head?_cons, Char.reduceEq, if_true, hbump,
        hlast, if_neg hch.2]

theorem gives_readMembers_nil (hblank : Blank blank) (isFirst : Bool) (rest : List Char)
    (place : Place) :
    Gives (readMembers (fuel + 1) depth isFirst ⟨blank ++ '\x7d' :: rest, place⟩) [] rest := by
  have hclosing : '\x7d'.isWhitespace = false := rfl
  obtain ⟨place', hskip⟩ := skipSpace_append hblank hclosing rest place
  have hnext : nextName? isFirst ⟨blank ++ '\x7d' :: rest, place⟩ = .ok none := by
    rw [nextName?, hskip]
    rfl
  rw [readMembers, hnext, ok_bind, hskip]
  exact gives_ok [] rest _

theorem readColon_append (hblank : Blank blank) (more : List Char) (place : Place) :
    ∃ place', readColon ⟨blank ++ ':' :: more, place⟩ = .ok ⟨more, place'⟩ := by
  have hcolon : ':'.isWhitespace = false := rfl
  obtain ⟨place', hskip⟩ := skipSpace_append hblank hcolon more place
  refine ⟨⟨place'.line, place'.column + 1⟩, ?_⟩
  rw [readColon, hskip]
  rfl

/-- A member is read where the move to its name has come to, and the others behind it. -/
theorem gives_readMembers_cons {isFirst : Bool} {c : Cursor} {before text more : List Char}
    {name : String} {value : Json} {members : List (String × Json)} (hbefore : Blank before)
    (hnext : nextName? isFirst c =
      .ok (some ⟨(renderString name).toList ++ (before ++ ':' :: text), place⟩))
    (hvalue : ∀ place, Gives (readValue fuel depth ⟨text, place⟩) value more)
    (hmembers : ∀ place, Gives (readMembers fuel depth false ⟨more, place⟩) members rest) :
    Gives (readMembers (fuel + 1) depth isFirst c) ((name, value) :: members) rest := by
  rw [readMembers, hnext, ok_bind]
  dsimp only
  refine (gives_readString name (before ++ ':' :: text) place).bind fun place => ?_
  dsimp only
  obtain ⟨place', hcolon⟩ := readColon_append hbefore text place
  rw [hcolon, ok_bind]
  refine (hvalue _).bind fun place => (hmembers place).bind fun place => ?_
  exact gives_ok ((name, value) :: members) rest place

theorem nextName?_quote {isFirst : Bool} (hgap : IsGap isFirst gap) (more : List Char)
    (place : Place) :
    ∃ place', nextName? isFirst ⟨gap ++ '"' :: more, place⟩ = .ok (some ⟨'"' :: more, place'⟩) := by
  have hquote : '"'.isWhitespace = false := rfl
  obtain ⟨before, behind, hbefore, hbehind, rfl⟩ := hgap
  cases isFirst with
  | true =>
      obtain ⟨place', hskip⟩ := skipSpace_append (hbefore.append hbehind) hquote more place
      refine ⟨place', ?_⟩
      simp only [nextName?, if_true, List.nil_append, hskip, Cursor.head?, List.head?_cons,
        Char.reduceEq, if_false]
  | false =>
      have hcomma : ','.isWhitespace = false := rfl
      obtain ⟨place', hskip⟩ := skipSpace_append hbefore hcomma (behind ++ '"' :: more) place
      have hbump : Cursor.bump ⟨',' :: (behind ++ '"' :: more), place'⟩ =
          ⟨behind ++ '"' :: more, ⟨place'.line, place'.column + 1⟩⟩ := rfl
      obtain ⟨last, hlast⟩ := skipSpace_append hbehind hquote more ⟨place'.line, place'.column + 1⟩
      refine ⟨last, ?_⟩
      simp only [nextName?, Bool.false_eq_true, if_false, List.append_assoc, List.cons_append,
        List.nil_append, hskip, Cursor.head?, List.head?_cons, Char.reduceEq, if_true, hbump, hlast]

theorem nextName?_name {isFirst : Bool} (hgap : IsGap isFirst gap) (name : String)
    (more : List Char) (place : Place) :
    ∃ place', nextName? isFirst ⟨gap ++ ((renderString name).toList ++ more), place⟩ =
      .ok (some ⟨(renderString name).toList ++ more, place'⟩) := by
  rw [toList_renderString, List.cons_append]
  exact nextName?_quote hgap _ place

mutual

/-- A text of a value is read as the value, whatever ends it. -/
theorem gives_readValue {value : Json} {text : List Char} {fuel depth : Nat} {rest : List Char}
    (hexact : value.Exact) (htext : IsText value text) (hfuel : text.length < fuel)
    (hdepth : value.levels < depth) (hrest : Ends rest) (place : Place) :
    Gives (readValue fuel depth ⟨text ++ rest, place⟩) value.ordered rest := by
  obtain ⟨fuel, rfl⟩ := Nat.exists_eq_succ_of_ne_zero (Nat.ne_of_gt (Nat.zero_lt_of_lt hfuel))
  cases value with
  | null =>
      cases htext
      exact ⟨_, rfl⟩
  | bool value =>
      cases htext
      cases value
      · exact ⟨_, rfl⟩
      · exact ⟨_, rfl⟩
  | nat n =>
      cases htext
      exact gives_readValue_nat hexact hrest place
  | negative n =>
      cases htext
      exact gives_readValue_negative hexact hrest place
  | float value => exact hexact.elim
  | string s =>
      cases htext
      exact gives_readValue_string s rest place
  | array items =>
      obtain ⟨inside, hinside, rfl⟩ := htext
      rw [levels] at hdepth
      rw [List.length_cons] at hfuel
      exact gives_readValue_array (by omega)
        (gives_readItems hexact hinside (by omega) (by omega) rest) place
  | object members =>
      obtain ⟨inside, hinside, rfl⟩ := htext
      rw [levels] at hdepth
      rw [List.length_cons] at hfuel
      exact gives_readValue_object (by omega)
        (gives_readMembers hexact hinside (by omega) (by omega) rest) place

/-- A text of the items of a list, from the first or a later one to the closing bracket. -/
theorem gives_readItems {items : List Json} {text : List Char} {fuel depth : Nat} {isFirst : Bool}
    (hexact : ExactAll items) (htext : IsItems isFirst items text) (hfuel : text.length < fuel)
    (hdepth : levelsAll items < depth) (rest : List Char) (place : Place) :
    Gives (readItems fuel depth isFirst ⟨text ++ rest, place⟩) (orderedAll items) rest := by
  -- Each item costs one step besides what its own text costs; its first character pays for that.
  obtain ⟨fuel, rfl⟩ := Nat.exists_eq_succ_of_ne_zero (Nat.ne_of_gt (Nat.zero_lt_of_lt hfuel))
  cases items with
  | nil =>
      obtain ⟨blank, hblank, rfl⟩ := htext
      rw [List.append_assoc]
      exact gives_readItems_nil hblank isFirst rest place
  | cons item items =>
      obtain ⟨gap, front, back, hgap, hfront, hback, rfl⟩ := htext
      obtain ⟨ch, more, hbegin, hch⟩ := hfront.exists_eq_cons hexact.1
      have hlength : 0 < front.length := hbegin ▸ Nat.succ_pos _
      have hlength' : 0 < back.length := hback.length_pos
      have hends : Ends (back ++ rest) := hback.ends rest
      rw [levelsAll] at hdepth
      rw [List.length_append, List.length_append] at hfuel
      rw [List.append_assoc, List.append_assoc]
      obtain ⟨place', hnext⟩ := nextItem?_of_begins hgap hch (more ++ (back ++ rest)) place
      rw [← List.cons_append, ← hbegin] at hnext
      exact gives_readItems_cons hnext
        (gives_readValue hexact.1 hfront (by omega) (by omega) hends)
        (gives_readItems hexact.2 hback (by omega) (by omega) rest)

/-- A text of the members of an object, from the first or a later one to the closing brace. -/
theorem gives_readMembers {members : List (String × Json)} {text : List Char} {fuel depth : Nat}
    {isFirst : Bool} (hexact : ExactMembers members) (htext : IsMembers isFirst members text)
    (hfuel : text.length < fuel) (hdepth : levelsMembers members < depth) (rest : List Char)
    (place : Place) :
    Gives (readMembers fuel depth isFirst ⟨text ++ rest, place⟩) (orderedMembers members) rest := by
  obtain ⟨fuel, rfl⟩ := Nat.exists_eq_succ_of_ne_zero (Nat.ne_of_gt (Nat.zero_lt_of_lt hfuel))
  match members with
  | [] =>
      obtain ⟨blank, hblank, rfl⟩ := htext
      rw [List.append_assoc]
      exact gives_readMembers_nil hblank isFirst rest place
  | (name, value) :: members =>
      obtain ⟨gap, before, behind, front, back, hgap, hbefore, hbehind, hfront, hback, rfl⟩ := htext
      obtain ⟨ch, more, hbegin, hch⟩ := hfront.exists_eq_cons hexact.1
      have hends : Ends (back ++ rest) := hback.ends rest
      rw [levelsMembers] at hdepth
      simp only [List.length_append, List.length_cons] at hfuel
      simp only [List.append_assoc, List.cons_append]
      obtain ⟨place', hnext⟩ := nextName?_name hgap name
        (before ++ ':' :: (behind ++ (front ++ (back ++ rest)))) place
      refine gives_readMembers_cons hbefore hnext (fun place => ?_)
        (gives_readMembers hexact.2 hback (by omega) (by omega) rest)
      have hread (place : Place) : Gives (readValue fuel depth ⟨front ++ (back ++ rest), place⟩)
          value.ordered (back ++ rest) :=
        gives_readValue hexact.1 hfront (by omega) (by omega) hends place
      rw [hbegin] at hread ⊢
      exact gives_readValue_blank hbehind hch.1 hread place

end

/-- Any text of a value is read as this value, with white space on both sides of it. -/
theorem parse_of_isText {value : Json} {text : String} {front inside back : List Char}
    (hexact : value.Exact) (hlevels : value.levels < maxDepth) (hinside : IsText value inside)
    (hfront : Blank front) (hback : Blank back) (htext : text.toList = front ++ (inside ++ back)) :
    parse text = .ok value.ordered := by
  obtain ⟨ch, more, hbegin, hch⟩ := hinside.exists_eq_cons hexact
  have hends : Ends back := by
    cases back with
    | nil => exact fun ch hch => nomatch hch
    | cons first back => exact ends_of_isWhitespace (hback first List.mem_cons_self) back
  have hfuel : inside.length < 2 * text.toList.length + 1 := by
    rw [htext, List.length_append, List.length_append]
    omega
  have hread : Gives (readValue (2 * text.toList.length + 1) maxDepth ⟨text.toList, ⟨1, 0⟩⟩)
      value.ordered back := by
    have hvalue := gives_readValue hexact hinside hfuel hlevels hends
    generalize 2 * text.toList.length + 1 = fuel at hvalue ⊢
    rw [htext]
    rw [hbegin] at hvalue ⊢
    exact gives_readValue_blank hfront hch.1 hvalue ⟨1, 0⟩
  obtain ⟨place, hplace⟩ := hread
  rw [parse, Cursor.ofString, hplace, ok_bind]
  dsimp only
  rw [expectEnd, isEnd_skipSpace hback, if_pos rfl]
  rfl

/-- The printed text of a value is read as this value. -/
theorem parse_render {value : Json} (hexact : value.Exact) (hlevels : value.levels < maxDepth) :
    parse value.render = .ok value.ordered :=
  parse_of_isText hexact hlevels (isText_render value) blank_nil blank_nil
    (List.append_nil _).symm

/-- So is the text with one member a line, and a line break at its end. -/
theorem parse_renderPretty {value : Json} (hexact : value.Exact)
    (hlevels : value.levels < maxDepth) :
    parse (value.renderPretty 0 ++ "\n") = .ok value.ordered := by
  have hline : Blank ['\n'] := .cons rfl blank_nil
  refine parse_of_isText hexact hlevels (isText_renderPretty 0 value) blank_nil hline ?_
  rw [String.toList_append]
  rfl

end FormatScan.Json
