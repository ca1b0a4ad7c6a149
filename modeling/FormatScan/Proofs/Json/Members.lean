import Mathlib.Tactic.SplitIfs
import FormatScan.Json.Reader
import FormatScan.Proofs.Fallible

/-!
# The members of an object

Members are put in one by one, each in its place. An object that is read has no two members of one
name, and of distinct names each has the value that it was given.
-/

namespace FormatScan.Json

variable {name other : String} {value : Json} {m : String × Json}
  {members : List (String × Json)}

def Ascending (members : List (String × Json)) : Prop := members.Pairwise fun a b => a.1 < b.1

/-! ### Putting in a member -/

theorem mem_or_mem_of_mem_insert (hm : m ∈ insert name value members) :
    m = (name, value) ∨ m ∈ members := by
  fun_induction insert name value members with
  | case1 => exact .inl (List.mem_singleton.1 hm)
  | case2 other v rest hlt => exact List.mem_cons.1 hm
  | case3 v rest =>
      rcases List.mem_cons.1 hm with hm | hm
      · exact .inl hm
      · exact .inr (List.mem_cons_of_mem _ hm)
  | case4 other v rest hlt hne ih =>
      rcases List.mem_cons.1 hm with hm | hm
      · exact .inr (hm ▸ List.mem_cons_self)
      · exact (ih hm).imp_right (List.mem_cons_of_mem _)

theorem get?_object_cons (m : String × Json) (rest : List (String × Json)) :
    get? name (.object (m :: rest)) =
      if m.1 = name then some m.2 else get? name (.object rest) := by
  rw [get?, List.find?_cons]
  by_cases hname : m.1 = name
  · simp [hname]
  · simp [hname, get?]

theorem get?_insert : get? other (.object (insert name value members)) =
    if name = other then some value else get? other (.object members) := by
  fun_induction insert name value members with
  | case1 => rw [get?_object_cons]
  | case2 first v rest hlt => rw [get?_object_cons]
  | case3 v rest =>
      rw [get?_object_cons, get?_object_cons]
      split <;> rfl
  | case4 first v rest hlt hne ih =>
      rw [get?_object_cons, get?_object_cons, ih]
      by_cases hfirst : first = other
      · rw [if_pos hfirst, if_pos hfirst, if_neg (hfirst ▸ hne)]
      · rw [if_neg hfirst, if_neg hfirst]

/-- A new member goes where its name belongs. -/
theorem ascending_insert (h : Ascending members) : Ascending (insert name value members) := by
  fun_induction insert name value members with
  | case1 => exact List.pairwise_singleton _ _
  | case2 other v rest hlt =>
      refine List.pairwise_cons.2 ⟨fun m hm => ?_, h⟩
      rcases List.mem_cons.1 hm with rfl | hm
      · exact hlt
      · exact String.lt_trans hlt (List.rel_of_pairwise_cons h hm)
  | case3 v rest =>
      exact List.pairwise_cons.2 ⟨fun m hm => List.rel_of_pairwise_cons h hm, h.of_cons⟩
  | case4 other v rest hlt hne ih =>
      refine List.pairwise_cons.2 ⟨fun m hm => ?_, ih h.of_cons⟩
      rcases mem_or_mem_of_mem_insert hm with rfl | hm
      · have hle : other ≤ name := String.not_lt.1 hlt
        exact Decidable.byContradiction fun hnot =>
          hne (String.le_antisymm (String.not_lt.1 hnot) hle)
      · exact List.rel_of_pairwise_cons h hm

/-! ### Putting in one after another -/

def inOrder (members : List (String × Json)) : List (String × Json) :=
  members.foldl (fun object m => insert m.1 m.2 object) []

theorem ofMembers_eq (members : List (String × Json)) :
    ofMembers members = .object (inOrder members) := rfl

theorem mem_of_mem_inOrder (hm : m ∈ inOrder members) : m ∈ members := by
  have hfold : ∀ before, m ∈ members.foldl (fun object m => insert m.1 m.2 object) before →
      m ∈ before ∨ m ∈ members := by
    clear hm
    induction members with
    | nil => exact fun before hm => .inl hm
    | cons first rest ih =>
        intro before hm
        rcases ih _ hm with hm | hm
        · rcases mem_or_mem_of_mem_insert hm with rfl | hm
          · exact .inr List.mem_cons_self
          · exact .inl hm
        · exact .inr (List.mem_cons_of_mem first hm)
  exact (hfold [] hm).resolve_left List.not_mem_nil

/-- However the members come, an object has them in order. -/
theorem ascending_inOrder (members : List (String × Json)) : Ascending (inOrder members) := by
  have hfold : ∀ before, Ascending before →
      Ascending (members.foldl (fun object m => insert m.1 m.2 object) before) := by
    induction members with
    | nil => exact fun before h => h
    | cons first rest ih => exact fun before h => ih _ (ascending_insert h)
  exact hfold [] .nil

theorem Ascending.nodup (h : Ascending members) : (members.map (·.1)).Nodup := by
  have hlt : (members.map (·.1)).Pairwise (· < ·) := List.pairwise_map.2 h
  refine hlt.imp ?_
  intro x y hxy heq
  rw [heq] at hxy
  exact String.lt_irrefl y hxy

theorem get?_foldl_insert (hname : name ∉ members.map (·.1)) (before : List (String × Json)) :
    get? name (.object (members.foldl (fun object m => insert m.1 m.2 object) before)) =
      get? name (.object before) := by
  induction members generalizing before with
  | nil => rfl
  | cons first rest ih =>
      rw [List.map_cons, List.mem_cons, not_or] at hname
      rw [List.foldl_cons, ih hname.2, get?_insert, if_neg (Ne.symm hname.1)]

theorem get?_ofMembers (hnodup : (members.map (·.1)).Nodup) (hm : m ∈ members) :
    get? m.1 (ofMembers members) = some m.2 := by
  have hfold : ∀ before, get? m.1
      (.object (members.foldl (fun object m => insert m.1 m.2 object) before)) = some m.2 := by
    induction members with
    | nil => cases hm
    | cons first rest ih =>
        intro before
        rw [List.map_cons, List.nodup_cons] at hnodup
        rcases List.mem_cons.1 hm with rfl | hm
        · rw [List.foldl_cons, get?_foldl_insert hnodup.1, get?_insert, if_pos rfl]
        · exact ih hnodup.2 hm _
  exact hfold []

theorem mem_of_get?_eq_some (hget : get? name (.object members) = some value) :
    (name, value) ∈ members := by
  obtain ⟨m, hm, rfl⟩ := Option.map_eq_some_iff.1 hget
  have hname : m.1 = name := by simpa using List.find?_some hm
  exact hname ▸ List.mem_of_find?_eq_some hm

/-! ### Objects that are read -/

mutual

/-- The members of every object in a value are in order. -/
def Tidy : Json → Prop
  | .array items => TidyAll items
  | .object members => Ascending members ∧ TidyMembers members
  | _ => True

def TidyAll : List Json → Prop
  | [] => True
  | item :: rest => item.Tidy ∧ TidyAll rest

def TidyMembers : List (String × Json) → Prop
  | [] => True
  | (_, value) :: rest => value.Tidy ∧ TidyMembers rest

end

theorem tidyAll_iff {items : List Json} : TidyAll items ↔ ∀ item ∈ items, item.Tidy := by
  induction items with
  | nil => exact iff_of_true trivial fun item hitem => nomatch hitem
  | cons item items ih => rw [TidyAll, ih, List.forall_mem_cons]

theorem tidyMembers_iff : TidyMembers members ↔ ∀ m ∈ members, m.2.Tidy := by
  induction members with
  | nil => exact iff_of_true trivial fun m hm => nomatch hm
  | cons m members ih => rw [TidyMembers, ih, List.forall_mem_cons]

theorem tidy_ofMembers (h : TidyMembers members) : Tidy (ofMembers members) := by
  refine ⟨ascending_inOrder members, tidyMembers_iff.2 fun m hm => ?_⟩
  exact tidyMembers_iff.1 h m (mem_of_mem_inOrder hm)

theorem tidy_finishFloat {positive : Bool} {significand : Nat} {exponent : Int} {c c' : Cursor}
    (hread : finishFloat positive significand exponent c = .ok (value, c')) : Tidy value := by
  rw [finishFloat] at hread
  split at hread
  · cases hread
  · cases hread
    exact trivial

theorem tidy_readExponent {positive : Bool} {significand : Nat} {exponent : Int} {c c' : Cursor}
    (hread : readExponent positive significand exponent c = .ok (value, c')) : Tidy value := by
  rw [readExponent] at hread
  dsimp only at hread
  -- where the digits begin is of no interest
  generalize (if (c.bump.head? == some '-' || c.bump.head? == some '+') = true then c.bump.bump
    else c.bump) = digits at hread
  split at hread
  · cases hread
  · split at hread
    · cases hread
    · split at hread
      · split at hread
        · cases hread
        · cases hread
          exact trivial
      · exact tidy_finishFloat hread

theorem tidy_readFraction {positive : Bool} {significand : Nat} {exponent : Int} {c c' : Cursor}
    (hread : readFraction positive significand exponent c = .ok (value, c')) : Tidy value := by
  rw [readFraction] at hread
  dsimp only at hread
  split at hread
  · split at hread
    · exact tidy_readExponent hread
    · exact tidy_finishFloat hread
  · split at hread
    · split at hread <;> cases hread
    · split at hread
      · exact tidy_readExponent hread
      · exact tidy_finishFloat hread

theorem tidy_readNumberRest {positive : Bool} {significand : Nat} {c c' : Cursor}
    (hread : readNumberRest positive significand c = .ok (value, c')) : Tidy value := by
  rw [readNumberRest] at hread
  split at hread
  · exact tidy_readFraction hread
  · split at hread
    · exact tidy_readExponent hread
    · split at hread
      · cases hread
        exact trivial
      · split at hread
        · cases hread
          exact trivial
        · cases hread
          exact trivial

theorem tidy_readNumber {positive : Bool} {c c' : Cursor}
    (hread : readNumber positive c = .ok (value, c')) : Tidy value := by
  rw [readNumber] at hread
  split at hread
  · cases hread
  · split at hread
    · dsimp only at hread
      split at hread
      · cases hread
      · exact tidy_readNumberRest hread
    · split at hread
      · dsimp only at hread
        split at hread
        · split at hread
          · exact tidy_readFraction hread
          · split at hread
            · exact tidy_readExponent hread
            · exact tidy_finishFloat hread
        · exact tidy_readNumberRest hread
      · cases hread

theorem tidy_of_map_eq_ok {α : Type} {read : Reading α} {f : α → Json × Cursor} {c : Cursor}
    (hread : read.map f = .ok (value, c)) (hf : ∀ a, (f a).1.Tidy) : Tidy value := by
  obtain ⟨a, -, hvalue⟩ := map_eq_ok.1 hread
  have htidy := hf a
  rwa [hvalue] at htidy

/-- A value is in order if what is read within lists and objects is. -/
theorem tidy_readValue_of {fuel depth : Nat} {c c' : Cursor}
    (hitems : ∀ {depth isFirst c items c'}, readItems fuel depth isFirst c = .ok (items, c') →
      TidyAll items)
    (hmembers : ∀ {depth isFirst c members c'},
      readMembers fuel depth isFirst c = .ok (members, c') → TidyMembers members)
    (hread : readValue (fuel + 1) depth c = .ok (value, c')) : Tidy value := by
  rw [readValue] at hread
  dsimp only at hread
  split at hread
  · cases hread
  · split_ifs at hread
    · exact tidy_of_map_eq_ok hread fun _ => trivial
    · exact tidy_of_map_eq_ok hread fun _ => trivial
    · exact tidy_of_map_eq_ok hread fun _ => trivial
    · exact tidy_readNumber hread
    · exact tidy_readNumber hread
    · exact tidy_of_map_eq_ok hread fun _ => trivial
    · obtain ⟨below, -, hlist⟩ := bind_eq_ok.1 hread
      obtain ⟨⟨items, last⟩, hread', hvalue⟩ := bind_eq_ok.1 hlist
      cases hvalue
      exact hitems hread'
    · obtain ⟨below, -, hobject⟩ := bind_eq_ok.1 hread
      obtain ⟨⟨members, last⟩, hread', hvalue⟩ := bind_eq_ok.1 hobject
      cases hvalue
      exact tidy_ofMembers (hmembers hread')
    · cases hread

/-- Whatever is read, its objects are in order. -/
theorem tidy_read (fuel : Nat) :
    (∀ {depth c value c'}, readValue fuel depth c = .ok (value, c') → Tidy value) ∧
      (∀ {depth isFirst c items c'}, readItems fuel depth isFirst c = .ok (items, c') →
        TidyAll items) ∧
      ∀ {depth isFirst c members c'}, readMembers fuel depth isFirst c = .ok (members, c') →
        TidyMembers members := by
  induction fuel with
  | zero =>
      refine ⟨fun hread => ?_, fun hread => ?_, fun hread => ?_⟩
      · cases hread
      · cases hread
      · cases hread
  | succ fuel ih =>
      obtain ⟨hvalue, hitems, hmembers⟩ := ih
      refine ⟨tidy_readValue_of hitems hmembers, fun hread => ?_, fun hread => ?_⟩
      · rw [readItems] at hread
        obtain ⟨next, -, hread⟩ := bind_eq_ok.1 hread
        cases next with
        | none =>
            cases hread
            exact trivial
        | some c =>
            obtain ⟨⟨item, c⟩, hitem, hrest⟩ := bind_eq_ok.1 hread
            obtain ⟨⟨items, last⟩, hread', hall⟩ := bind_eq_ok.1 hrest
            cases hall
            exact ⟨hvalue hitem, hitems hread'⟩
      · rw [readMembers] at hread
        obtain ⟨next, -, hread⟩ := bind_eq_ok.1 hread
        cases next with
        | none =>
            cases hread
            exact trivial
        | some c =>
            obtain ⟨⟨name, c⟩, -, hread⟩ := bind_eq_ok.1 hread
            obtain ⟨c, -, hread⟩ := bind_eq_ok.1 hread
            obtain ⟨⟨v, c⟩, hmember, hrest⟩ := bind_eq_ok.1 hread
            obtain ⟨⟨members, last⟩, hread', hall⟩ := bind_eq_ok.1 hrest
            cases hall
            exact ⟨hvalue hmember, hmembers hread'⟩

/-- Whatever is read is tidy, whatever the text was like. -/
theorem tidy_parse {text : String} (hread : parse text = .ok value) : Tidy value := by
  rw [parse] at hread
  obtain ⟨⟨read, c⟩, hvalue, hread⟩ := bind_eq_ok.1 hread
  obtain ⟨_, -, hsame⟩ := bind_eq_ok.1 hread
  cases hsame
  exact (tidy_read _).1 hvalue

end FormatScan.Json
