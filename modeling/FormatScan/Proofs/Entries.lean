import Mathlib.Data.List.Nodup

/-!
# Items that are known by their names

Where no two items of a list have the same name, looking a name up finds the item that has it.
-/

namespace FormatScan

variable {α : Type} {items : List α} {item : α} {nameOf : α → String} {name : String}

/-- Where no two items have one name, a name finds its item. -/
theorem find?_eq_some_iff_of_nodup (hnodup : (items.map nameOf).Nodup) :
    items.find? (nameOf · = name) = some item ↔ item ∈ items ∧ nameOf item = name := by
  constructor
  · intro hfind
    exact ⟨List.mem_of_find?_eq_some hfind, by simpa using List.find?_some hfind⟩
  · rintro ⟨hmem, hname⟩
    cases hfind : items.find? (nameOf · = name) with
    | none =>
        have hnot := List.find?_eq_none.1 hfind item hmem
        simp [hname] at hnot
    | some found =>
        have hfound : nameOf found = name := by simpa using List.find?_some hfind
        rw [List.inj_on_of_nodup_map hnodup (List.mem_of_find?_eq_some hfind) hmem
          (hfound.trans hname.symm)]

theorem find?_map_eq_some_iff_of_nodup {entries : List (String × α)}
    (hnodup : (entries.map Prod.fst).Nodup) :
    (entries.find? (·.1 = name)).map Prod.snd = some item ↔ (name, item) ∈ entries := by
  rw [Option.map_eq_some_iff]
  constructor
  · rintro ⟨e, hfind, rfl⟩
    obtain ⟨hmem, rfl⟩ := (find?_eq_some_iff_of_nodup hnodup).1 hfind
    exact hmem
  · intro hmem
    exact ⟨_, (find?_eq_some_iff_of_nodup hnodup).2 ⟨hmem, rfl⟩, rfl⟩

end FormatScan
