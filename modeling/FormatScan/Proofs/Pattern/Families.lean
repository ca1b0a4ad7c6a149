import FormatScan.Proofs.Pattern.Exact

/-!
# Formats that begin alike

The built-in signatures of binary formats all name the bytes at the beginning. Archives and the
documents that are archives begin alike, and so do compound files and the documents in them; apart
from these, no format begins as another one does or as the other one goes on. So a file that is
looked at from its first byte on is detected as formats of one family only.
-/

namespace FormatScan.Signature

open Regex

variable {s t : Signature} {kind : EngineKind} {bytes : ByteArray}

inductive Family where
  | archive
  | compound
  /-- A format of its own. -/
  | alone (name : String)
deriving DecidableEq

def family (s : Signature) : Family :=
  if s.name ∈ ["ZIP", "DOCX", "XLSX", "PPTX"] then .archive
  else if s.name ∈ ["OLE", "DOC", "XLS", "PPT"] then .compound
  else .alone s.name

/-! ### Bytes that no file begins with at once -/

/-- Checks that whatever is detected as the format has the bytes that the format begins with. -/
def opens (s : Signature) : Bool :=
  (fieldBytes? s.head).isSome && (decide (s.pattern = "" ∨ Text.Hex.isHex s.pattern = true) ||
    (s.expr? .start).all (·.behindBar?.isNone))

/-- A format with bytes at the beginning is detected behind them only. -/
theorem prefix_of_isDetected (hkind : s.kind = .binary) (hopens : s.opens = true)
    (hdetected : s.IsDetected .start kind bytes) :
    ∃ head ∈ fieldBytes? s.head, head <+: bytes.data.toList := by
  rw [opens, Bool.and_eq_true, Option.isSome_iff_exists] at hopens
  obtain ⟨⟨head, hhead⟩, hbar⟩ := hopens
  obtain ⟨hdecode, hne⟩ := fieldBytes?_eq_some_iff.1 hhead
  rw [Bool.or_eq_true, decide_eq_true_iff] at hbar
  exact ⟨head, hhead, finds_of_isDetected hkind hdecode hne
    (hbar.imp_left (Or.imp_right .inl)) hdetected⟩

/-- The bytes of one format begin with those of the other one. -/
def Extends (s t : Signature) : Prop :=
  ∃ head ∈ fieldBytes? s.head, ∃ head' ∈ fieldBytes? t.head, head' <+: head

instance (s t : Signature) : Decidable (s.Extends t) :=
  inferInstanceAs (Decidable (∃ head ∈ fieldBytes? s.head, ∃ head' ∈ fieldBytes? t.head,
    head' <+: head))

/-- Two formats that one file is detected as begin alike. -/
theorem extends_or_extends (hs : s.kind = .binary) (ht : t.kind = .binary)
    (hopens : s.opens = true) (hopens' : t.opens = true)
    (hdetected : s.IsDetected .start kind bytes) (hdetected' : t.IsDetected .start kind bytes) :
    s.Extends t ∨ t.Extends s := by
  obtain ⟨head, hhead, hprefix⟩ := prefix_of_isDetected hs hopens hdetected
  obtain ⟨head', hhead', hprefix'⟩ := prefix_of_isDetected ht hopens' hdetected'
  rcases List.prefix_or_prefix_of_prefix hprefix hprefix' with hle | hle
  · exact .inr ⟨head', hhead', head, hhead, hle⟩
  · exact .inl ⟨head, hhead, head', hhead', hle⟩

/-! ### The built-in signatures -/

theorem opens_of_mem_builtin : ∀ s ∈ builtin, s.kind = .binary → s.opens = true := by
  decide +kernel

/-- Built-in formats that begin alike are of one family. -/
theorem family_eq_of_extends : ∀ s ∈ builtin, ∀ t ∈ builtin, s.kind = .binary → t.kind = .binary →
    s.Extends t → s.family = t.family := by
  decide +kernel

/-- What is found in a file that is looked at from its first byte on. -/
def scanBuiltin (kind : EngineKind) (bytes : ByteArray) : Stats :=
  (prepareFor kind .start builtin).engine.scan bytes .empty

/-- Two formats that one file is detected as are of one family. -/
theorem family_eq_of_isPresent (hs : s ∈ builtin) (ht : t ∈ builtin) (hkind : s.kind = .binary)
    (hkind' : t.kind = .binary) (hpresent : (scanBuiltin kind bytes).isPresent s.name = true)
    (hpresent' : (scanBuiltin kind bytes).isPresent t.name = true) : s.family = t.family := by
  have hdetected := (isPresent_scan_builtin_iff hs).1 hpresent
  have hdetected' := (isPresent_scan_builtin_iff ht).1 hpresent'
  rcases extends_or_extends hkind hkind' (opens_of_mem_builtin s hs hkind)
    (opens_of_mem_builtin t ht hkind') hdetected hdetected' with hextends | hextends
  · exact family_eq_of_extends s hs t ht hkind hkind' hextends
  · exact (family_eq_of_extends t ht s hs hkind' hkind hextends).symm

theorem exists_family (kind : EngineKind) (bytes : ByteArray) :
    ∃ family : Family, ∀ s ∈ builtin, s.kind = .binary →
      (scanBuiltin kind bytes).isPresent s.name = true → s.family = family := by
  by_cases hfound : ∃ t ∈ builtin, t.kind = .binary ∧
      (scanBuiltin kind bytes).isPresent t.name = true
  · obtain ⟨t, ht, hkind, hpresent⟩ := hfound
    exact ⟨t.family, fun s hs hkind' hpresent' =>
      family_eq_of_isPresent hs ht hkind' hkind hpresent' hpresent⟩
  · exact ⟨.archive, fun s hs hkind hpresent => absurd ⟨s, hs, hkind, hpresent⟩ hfound⟩

/-! ### Two of the formats -/

def builtinPdf : Signature :=
  { name := "PDF", head := "25504446", extensions := ["pdf"], minFileSize := 16 }

def pdfHead : ByteArray := ⟨#[0x25, 0x50, 0x44, 0x46]⟩

theorem builtinPdf_mem : builtinPdf ∈ builtin := by decide +kernel

theorem isPresent_pdf (kind : EngineKind) {t : ByteArray} (hsize : 12 ≤ t.size) :
    (scanBuiltin kind (pdfHead ++ t)).isPresent "PDF" = true := by
  have hhead : Text.Hex.decode builtinPdf.head = .ok pdfHead.data.toList := by rfl
  have hmatcher : (builtinPdf.matcher? .start .twoPhase).isSome = true := by decide +kernel
  have hmin : builtinPdf.minFileSize.toNat = 16 := by rfl
  have hlong : (pdfHead ++ t).size = 4 + t.size := ByteArray.size_append
  have hdetected : builtinPdf.IsDetected .start kind (pdfHead ++ t) := by
    refine (isDetected_iff_finds rfl hhead (by decide) (by decide +kernel)
      (isSome_matcher?_of_twoPhase hmatcher)).2 ⟨by omega, by omega, ?_⟩
    change pdfHead.data.toList <+: (pdfHead ++ t).data.toList
    rw [ByteArray.data_append, Array.toList_append]
    exact List.prefix_append _ _
  exact (isPresent_scan_builtin_iff builtinPdf_mem).2 hdetected

theorem name_of_family_eq {name : String} (hfamily : s.family = .alone name) : s.name = name := by
  unfold family at hfamily
  split at hfamily
  · cases hfamily
  · split at hfamily
    · cases hfamily
    · exact Family.alone.inj hfamily

theorem exists_mem_builtin_alone : ∀ name ∈ ["RAR4", "RAR5"],
    ∃ s ∈ builtin, s.name = name ∧ s.kind = .binary ∧ s.family = .alone name := by
  decide +kernel

/-- No file is detected as binary formats of two families. What begins like a PDF file and is long
enough is detected as one and as no other binary format, and no file is an archive in two versions
at once. -/
theorem builtin_formats_apart (kind : EngineKind) :
    (∀ bytes, ∃ family : Family, ∀ s ∈ builtin, s.kind = .binary →
      (scanBuiltin kind bytes).isPresent s.name = true → s.family = family) ∧
    (∀ t : ByteArray, 12 ≤ t.size → ∀ s ∈ builtin, s.kind = .binary →
      ((scanBuiltin kind (pdfHead ++ t)).isPresent s.name = true ↔ s.name = "PDF")) ∧
    ∀ bytes, ¬((scanBuiltin kind bytes).isPresent "RAR4" = true ∧
      (scanBuiltin kind bytes).isPresent "RAR5" = true) := by
  refine ⟨exists_family kind, ?_, ?_⟩
  · intro t hsize s hs hkind
    constructor
    · intro hpresent
      exact name_of_family_eq (family_eq_of_isPresent hs builtinPdf_mem hkind rfl hpresent
        (isPresent_pdf kind hsize))
    · intro hname
      rw [hname]
      exact isPresent_pdf kind hsize
  · rintro bytes ⟨hold, hnew⟩
    obtain ⟨s, hs, hname, hkind, hfamily⟩ := exists_mem_builtin_alone "RAR4" (by decide)
    obtain ⟨t, ht, hname', hkind', hfamily'⟩ := exists_mem_builtin_alone "RAR5" (by decide)
    have hsame := family_eq_of_isPresent hs ht hkind hkind' (hname ▸ hold) (hname' ▸ hnew)
    rw [hfamily, hfamily', Family.alone.injEq] at hsame
    exact absurd hsame (by decide)

def paddedDocument : ByteArray := "PK\x03\x04word/document.xml.....".toUTF8

theorem isDetected_paddedDocument : builtinDocx.IsDetected .start .twoPhase paddedDocument := by
  have hmatch : ∃ m ∈ builtinDocx.matcher? .start .twoPhase,
      m.matchesFile (Haystack.ofBytes paddedDocument) = true := by
    decide +kernel
  exact isDetected_iff_matchesFile.2 ⟨by decide, hmatch⟩

/-- The document is found as an archive as well, which is of the same family, and a PDF file as
nothing else. -/
theorem builtin_formats_apart_document :
    builtinDocx ∈ builtin ∧ builtinZip ∈ builtin ∧ builtinDocx.kind = .binary ∧
      builtinZip.kind = .binary ∧
      (scanBuiltin .twoPhase paddedDocument).isPresent "DOCX" = true ∧
      (scanBuiltin .twoPhase paddedDocument).isPresent "ZIP" = true ∧
      builtinDocx.family = builtinZip.family ∧
      12 ≤ "-1.7 %garbage".toUTF8.size ∧ builtinPdf ∈ builtin ∧ builtinPdf.kind = .binary ∧
      (scanBuiltin .twoPhase (pdfHead ++ "-1.7 %garbage".toUTF8)).isPresent "PDF" = true := by
  obtain ⟨hfamilies, hpdf, -⟩ := builtin_formats_apart .twoPhase
  have hdocument : (scanBuiltin .twoPhase paddedDocument).isPresent "DOCX" = true :=
    (isPresent_scan_builtin_iff builtinDocx_mem).2 isDetected_paddedDocument
  have hlong : builtinZip.minFileSize.toNat ≤ paddedDocument.size := by decide +kernel
  have harchive : (scanBuiltin .twoPhase paddedDocument).isPresent "ZIP" = true :=
    (isPresent_scan_builtin_iff builtinZip_mem).2
      ((isDetected_parent_iff_of_countsAs builtinDocx_mem builtinZip_mem builtinDocx_countsAs
        isDetected_paddedDocument).2 hlong)
  have hsize : 12 ≤ "-1.7 %garbage".toUTF8.size := by decide
  obtain ⟨family, hfamily⟩ := hfamilies paddedDocument
  exact ⟨builtinDocx_mem, builtinZip_mem, rfl, rfl, hdocument, harchive,
    (hfamily builtinDocx builtinDocx_mem rfl hdocument).trans
      (hfamily builtinZip builtinZip_mem rfl harchive).symm,
    hsize, builtinPdf_mem, rfl, (hpdf _ hsize builtinPdf builtinPdf_mem rfl).2 rfl⟩

end FormatScan.Signature
