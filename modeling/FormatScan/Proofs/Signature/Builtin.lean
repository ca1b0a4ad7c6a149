import FormatScan.Proofs.Signature.Written
import FormatScan.Signature.Builtin

/-!
# Where the built-in signatures come from

The text of the built-in signatures names the fields whose values are not the default ones, and the
kind. Nothing in it needs a repair.
-/

namespace FormatScan.Signature

variable {s : Signature}

/-! ### Short entries -/

instance (f : Field) (r s : Signature) : Decidable (f.Agree r s) :=
  match f with
  | .name => inferInstanceAs (Decidable (r.name = s.name))
  | .kind => inferInstanceAs (Decidable (r.kind = s.kind))
  | .head => inferInstanceAs (Decidable (r.head = s.head))
  | .tail => inferInstanceAs (Decidable (r.tail = s.tail))
  | .pattern => inferInstanceAs (Decidable (r.pattern = s.pattern))
  | .extensions => inferInstanceAs (Decidable (r.extensions = s.extensions))
  | .deductFrom => inferInstanceAs (Decidable (r.deductFrom = s.deductFrom))
  | .priority => inferInstanceAs (Decidable (r.priority = s.priority))
  | .minFileSize => inferInstanceAs (Decidable (r.minFileSize = s.minFileSize))
  | .exclusiveWith => inferInstanceAs (Decidable (r.exclusiveWith = s.exclusiveWith))

/-- The fields that have to be named, and the kind. -/
def shortFields (s : Signature) : List Field :=
  s.fields.filter fun f => f = .kind ∨ ¬f.Agree unset s

def shortJson (s : Signature) : Json := .object (s.shortFields.map fun f => (f.key, f.valueOf s))

theorem valueOf_eq_of_agree {r s : Signature} {f : Field} (hagree : f.Agree r s) :
    f.valueOf r = f.valueOf s := by
  cases f <;> simp only [Field.Agree] at hagree <;> simp only [Field.valueOf, hagree]

theorem deductFrom_mem_fields_iff : .deductFrom ∈ s.fields ↔ s.deductFrom ≠ none := by
  rw [fields]
  cases s.deductFrom <;> simp

theorem mem_fields_of_ne {f : Field} (hne : f ≠ .deductFrom) : f ∈ s.fields := by
  cases f <;> simp [fields] at hne ⊢

/-- The short entry lacks nothing but defaults. -/
theorem abridges_shortJson (hname : s.name ≠ "") : Abridges s.shortJson s := by
  refine abridges_iff.2 ⟨_, rfl, List.filter_sublist.map _, ?_⟩
  intro m hm hmissing
  obtain ⟨f, hf, rfl⟩ := List.mem_map.1 hm
  have hshort : f ∉ s.shortFields := fun hshort => hmissing (List.mem_map_of_mem hshort)
  rw [shortFields, List.mem_filter, and_iff_right hf, decide_eq_true_eq, not_or, not_not] at hshort
  obtain ⟨-, hagree⟩ := hshort
  constructor
  · intro hkey
    have hfirst : f = .name := Field.key_injective hkey
    subst hfirst
    exact hname hagree.symm
  · rw [← valueOf_eq_of_agree hagree]
    refine List.mem_map_of_mem (mem_fields_of_ne ?_)
    rintro rfl
    exact deductFrom_mem_fields_iff.1 hf hagree.symm

/-! ### The text -/

/-- The text spells each built-in signature as its short entry. -/
theorem builtinEntries_eq_map : builtinEntries = builtin.map shortJson := rfl

theorem abridges_builtinEntries : List.Forall₂ Abridges builtinEntries builtin := by
  have hnames : ∀ s ∈ builtin, s.name ≠ "" := by decide +kernel
  rw [builtinEntries_eq_map]
  exact List.forall₂_map_left_iff.2
    (List.forall₂_same.2 fun s hs => abridges_shortJson (hnames s hs))

/-- The text is read in full, there is nothing to be said of it, and what comes of it are the
built-in signatures. -/
theorem parse_builtinText : parse builtinText = .ok (builtin, []) := by
  have hfixed : (sanitize builtin).1 = builtin := by decide +kernel
  have hdangling : danglingEvents builtin = [] := by decide +kernel
  obtain ⟨hexact, hlevels⟩ := exact_array_of_abridges abridges_builtinEntries
  have hread : Json.parse builtinText = .ok (Json.array builtinEntries).ordered :=
    Json.parse_renderPretty hexact hlevels
  rw [parse_of_abridges hfixed abridges_builtinEntries hread, hdangling]

end FormatScan.Signature
