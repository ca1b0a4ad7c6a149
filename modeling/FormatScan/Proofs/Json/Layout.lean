import FormatScan.Json.Printer
import FormatScan.Json.Reader

/-!
# The texts of a value

The text of a value is made of parts, between any two of which there may be white space. A value is
printed without any, or with one member a line, and both are texts of the value.
-/

namespace FormatScan.Json

/-! ### White space -/

def Blank (text : List Char) : Prop := ∀ ch ∈ text, ch.isWhitespace = true

theorem blank_nil : Blank [] := List.forall_mem_nil _

theorem blank_margin (depth : Nat) : Blank (margin depth).toList := by
  intro ch hch
  rw [margin, String.toList_ofList] at hch
  rw [List.eq_of_mem_replicate hch]
  rfl

theorem Blank.cons {ch : Char} {text : List Char} (hch : ch.isWhitespace = true)
    (htext : Blank text) : Blank (ch :: text) :=
  List.forall_mem_cons.2 ⟨hch, htext⟩

def IsGap (isFirst : Bool) (gap : List Char) : Prop :=
  ∃ before behind, Blank before ∧ Blank behind ∧
    gap = before ++ ((if isFirst then [] else [',']) ++ behind)

theorem isGap_of_blank (isFirst : Bool) {behind : List Char} (hbehind : Blank behind) :
    IsGap isFirst ((if isFirst then [] else [',']) ++ behind) :=
  ⟨[], behind, blank_nil, hbehind, rfl⟩

/-! ### Texts -/

mutual

/-- The texts of a value. Those of items and members go on to the closing bracket or brace. -/
def IsText : Json → List Char → Prop
  | .array items, text => ∃ inside, IsItems true items inside ∧ text = '[' :: inside
  | .object members, text => ∃ inside, IsMembers true members inside ∧ text = '\x7b' :: inside
  | value, text => text = value.render.toList

def IsItems (isFirst : Bool) : List Json → List Char → Prop
  | [], text => ∃ blank, Blank blank ∧ text = blank ++ [']']
  | item :: items, text => ∃ gap front back, IsGap isFirst gap ∧ IsText item front ∧
      IsItems false items back ∧ text = gap ++ (front ++ back)

def IsMembers (isFirst : Bool) : List (String × Json) → List Char → Prop
  | [], text => ∃ blank, Blank blank ∧ text = blank ++ ['\x7d']
  | (name, value) :: members, text => ∃ gap before behind front back, IsGap isFirst gap ∧
      Blank before ∧ Blank behind ∧ IsText value front ∧ IsMembers false members back ∧
      text = gap ++ ((renderString name).toList ++ (before ++ ':' :: (behind ++ (front ++ back))))

end

/-! ### What is printed -/

/-- The texts of a list with a gap in front of each, and a comma before the gap but for the one that
is the first. -/
def listed (gap : List Char) (isFirst : Bool) : List String → List Char
  | [] => []
  | text :: rest => (if isFirst then [] else [',']) ++ gap ++ text.toList ++ listed gap false rest

/-- A gap may come from the separator and from what each text has in front of itself. -/
theorem toList_intercalate_map (line margin text : String) (texts : List String) :
    line.toList ++ (("," ++ line).intercalate ((text :: texts).map (margin ++ ·))).toList =
      listed (line ++ margin).toList true (text :: texts) := by
  induction texts generalizing text with
  | nil =>
      rw [List.map_singleton, String.intercalate_singleton]
      simp [listed]
  | cons next texts ih =>
      have hcomma : ",".toList = [','] := rfl
      have htail := ih next
      rw [List.map_cons] at htail
      rw [List.map_cons, List.map_cons, String.intercalate_cons_cons]
      simp only [String.toList_append, List.append_assoc, hcomma, htail]
      simp [listed]

theorem toList_intercalate_comma (texts : List String) :
    (",".intercalate texts).toList = listed [] true texts := by
  cases texts with
  | nil => rfl
  | cons text texts =>
      have hlisted := toList_intercalate_map "" "" text texts
      simpa using hlisted

theorem toList_block (opening closing : String) (depth : Nat) (text : String)
    (texts : List String) :
    (block opening closing depth (text :: texts)).toList =
      opening.toList ++ (listed ('\n' :: (margin (depth + 1)).toList) true (text :: texts) ++
        ('\n' :: (margin depth).toList ++ closing.toList)) := by
  have hlisted := toList_intercalate_map "\n" (margin (depth + 1)) text texts
  have hline : "\n".toList = ['\n'] := rfl
  have hcomma : "," ++ "\n" = ",\n" := rfl
  rw [hcomma, String.toList_append, hline] at hlisted
  rw [block, if_neg (by simp)]
  simp only [String.toList_append, hline, List.append_assoc]
  rw [← List.append_assoc ['\n'], hlisted]
  simp

mutual

/-- What is written on one line is a text of the value. -/
theorem isText_render (value : Json) : IsText value value.render.toList := by
  cases value with
  | array items =>
      refine ⟨_, isItems_render true items, ?_⟩
      rw [render, String.toList_append, String.toList_append, toList_intercalate_comma]
      rfl
  | object members =>
      refine ⟨_, isMembers_render true members, ?_⟩
      rw [render, String.toList_append, String.toList_append, toList_intercalate_comma]
      rfl
  | _ => rfl

theorem isItems_render (isFirst : Bool) (items : List Json) :
    IsItems isFirst items (listed [] isFirst (renderAll items) ++ [']']) := by
  cases items with
  | nil => exact ⟨[], blank_nil, rfl⟩
  | cons item items =>
      refine ⟨_, _, _, isGap_of_blank isFirst blank_nil, isText_render item,
        isItems_render false items, ?_⟩
      simp [renderAll, listed]

theorem isMembers_render (isFirst : Bool) (members : List (String × Json)) :
    IsMembers isFirst members (listed [] isFirst (renderMembers members) ++ ['\x7d']) := by
  match members with
  | [] => exact ⟨[], blank_nil, rfl⟩
  | (name, value) :: members =>
      refine ⟨_, [], [], _, _, isGap_of_blank isFirst blank_nil, blank_nil, blank_nil,
        isText_render value, isMembers_render false members, ?_⟩
      simp [renderMembers, listed]

end

mutual

/-- What is written with line breaks is a text of the value as well. -/
theorem isText_renderPretty (depth : Nat) (value : Json) :
    IsText value (value.renderPretty depth).toList := by
  cases value with
  | array items =>
      cases items with
      | nil =>
          refine ⟨[']'], ⟨[], blank_nil, rfl⟩, ?_⟩
          simp [renderPretty, renderPrettyAll, block]
      | cons item items =>
          refine ⟨_, isItems_renderPretty depth true (item :: items), ?_⟩
          rw [renderPretty, renderPrettyAll, toList_block]
          simp
  | object members =>
      match members with
      | [] =>
          refine ⟨['\x7d'], ⟨[], blank_nil, rfl⟩, ?_⟩
          simp [renderPretty, renderPrettyMembers, block]
      | member :: members =>
          refine ⟨_, isMembers_renderPretty depth true (member :: members), ?_⟩
          rw [renderPretty, renderPrettyMembers, toList_block]
          simp
  | _ => rfl

theorem isItems_renderPretty (depth : Nat) (isFirst : Bool) (items : List Json) :
    IsItems isFirst items
      (listed ('\n' :: (margin (depth + 1)).toList) isFirst (renderPrettyAll (depth + 1) items) ++
        ('\n' :: (margin depth).toList ++ [']'])) := by
  have hgap (depth : Nat) : Blank ('\n' :: (margin depth).toList) :=
    .cons rfl (blank_margin depth)
  cases items with
  | nil => exact ⟨_, hgap depth, rfl⟩
  | cons item items =>
      refine ⟨_, _, _, isGap_of_blank isFirst (hgap (depth + 1)),
        isText_renderPretty (depth + 1) item, isItems_renderPretty depth false items, ?_⟩
      simp [renderPrettyAll, listed]

theorem isMembers_renderPretty (depth : Nat) (isFirst : Bool) (members : List (String × Json)) :
    IsMembers isFirst members
      (listed ('\n' :: (margin (depth + 1)).toList) isFirst
          (renderPrettyMembers (depth + 1) members) ++
        ('\n' :: (margin depth).toList ++ ['\x7d'])) := by
  have hgap (depth : Nat) : Blank ('\n' :: (margin depth).toList) :=
    .cons rfl (blank_margin depth)
  match members with
  | [] => exact ⟨_, hgap depth, rfl⟩
  | (name, value) :: members =>
      refine ⟨_, [], [' '], _, _, isGap_of_blank isFirst (hgap (depth + 1)), blank_nil,
        .cons rfl blank_nil, isText_renderPretty (depth + 1) value,
        isMembers_renderPretty depth false members, ?_⟩
      simp [renderPrettyMembers, listed]

end

end FormatScan.Json
