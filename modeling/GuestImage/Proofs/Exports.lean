import GuestImage.Proofs.Cbor
import GuestImage.Proofs.Json
import GuestImage.Report
import Mathlib.Algebra.Group.Int.Defs

/-!
# The exports of a report

Both exports of a report say exactly what its members say: the octets (`cborBytes_faithful`) and the
page (`jsonText_faithful`) are read back as the members, in whatever order, so that two reports have
the same export just when they agree in all eight of them (`Report.SamePayload`).
-/

namespace GuestImage.Report

variable {α : Type} {int : Int → α} {text : String → α} {bool : Bool → α} {r r' : Report}

/-- Two reports that agree in everything that is exported. -/
structure SamePayload (r r' : Report) : Prop where
  schemaVersion : r.schemaVersion = r'.schemaVersion
  image : r.image = r'.image
  fsPath : r.fsPath.text = r'.fsPath.text
  allocatedBytes : r.allocatedBytes = r'.allocatedBytes
  blocks : r.minimum.blocks = r'.minimum.blocks
  blockSize : r.minimum.blockSize = r'.minimum.blockSize
  finalBytes : r.finalBytes = r'.finalBytes
  resolvConfLinked : r.resolvConfLinked = r'.resolvConfLinked

theorem SamePayload.members_eq (h : r.SamePayload r') :
    r.members int text bool = r'.members int text bool := by
  obtain ⟨hschema, himage, hpath, hallocated, hblocks, hsize, hfinal, hlinked⟩ := h
  simp only [members, hschema, himage, hpath, hallocated, hblocks, hsize, hfinal, hlinked]

/-- The order of the members says nothing, because no two of them have the same name. -/
theorem samePayload_of_members_perm (hint : int.Injective) (htext : text.Injective)
    (hbool : bool.Injective)
    (h : (r.members int text bool).Perm (r'.members int text bool)) : r.SamePayload r' := by
  have hmem : ∀ m ∈ r.members int text bool, m ∈ r'.members int text bool := fun m => h.mem_iff.1
  simp only [members, List.mem_cons, List.not_mem_nil, or_false, forall_eq_or_imp, Prod.mk.injEq,
    hint.eq_iff, true_and, String.reduceEq, false_and, or_self, htext.eq_iff, false_or, forall_eq,
    hbool.eq_iff] at hmem
  obtain ⟨hschema, himage, hpath, hallocated, hblocks, hsize, hfinal, hlinked⟩ := hmem
  exact ⟨hschema, himage, hpath, hallocated, hblocks, hsize, hfinal, hlinked⟩

/-- The texts of a report. -/
def texts (r : Report) : List String :=
  [r.image, r.fsPath.text]

/-- The integers of a report. -/
def integers (r : Report) : List Int :=
  [r.schemaVersion, r.allocatedBytes, r.minimum.blocks, r.minimum.blockSize, r.finalBytes]

/-- Texts and integers are shorter than 2 ^ 64 octets: CBOR, like memory, has no longer ones. -/
structure Encodable (r : Report) : Prop where
  texts : ∀ s ∈ r.texts, (Utf8.encode s).length < 2 ^ 64
  integers : ∀ z ∈ r.integers, Cbor.octetCount (Cbor.magnitude z) < 2 ^ 64

/-- A report with integers beyond 64 bits on either side of zero, and texts beyond ASCII. -/
def wideReport : Report where
  image := "gäst \"😀\""
  fsPath := (Path.ofText "/images/gäst").child "IMAGE_FS"
  allocatedBytes := 2 ^ 70
  minimum := ⟨-3, 2 ^ 64⟩

section Octets

theorem writable_of_encodable (h : r.Encodable) : r.toCbor.writable = true := by
  obtain ⟨htexts, hintegers⟩ := h
  simp only [texts, integers, List.forall_mem_cons] at htexts hintegers
  simp only [toCbor, members, Cbor.Item.writable, Cbor.writableMembers, Bool.and_eq_true,
    decide_eq_true_eq, htexts, hintegers, and_true, List.length_cons, List.length_nil]
  decide

theorem exists_decode?_cborBytes (h : r.Encodable) :
    ∃ members, Cbor.decode? r.cborBytes = some (.map members) ∧
      members.Perm (r.members .int .text .bool) :=
  ⟨_, Cbor.decode?_encode (writable_of_encodable h), Cbor.canonicalMembers_perm _⟩

/-- Nothing is left over when the octets are read. -/
theorem cborBytes_faithful (h : r.Encodable) :
    (∃ members, Cbor.decode? r.cborBytes = some (.map members) ∧
      members.Perm (r.members .int .text .bool)) ∧
    ∀ r' : Report, r'.Encodable → (r.cborBytes = r'.cborBytes ↔ r.SamePayload r') := by
  refine ⟨exists_decode?_cborBytes h, fun r' h' => ⟨fun hbytes => ?_, fun hsame => ?_⟩⟩
  · obtain ⟨members, hread, hperm⟩ := exists_decode?_cborBytes h
    obtain ⟨members', hread', hperm'⟩ := exists_decode?_cborBytes h'
    rw [hbytes, hread', Option.some_inj, Cbor.Item.map.injEq] at hread
    subst hread
    exact samePayload_of_members_perm (fun _ _ => Cbor.Item.int.inj) (fun _ _ => Cbor.Item.text.inj)
      (fun _ _ => Cbor.Item.bool.inj) (hperm.symm.trans hperm')
  · rw [cborBytes, cborBytes, toCbor, toCbor, hsame.members_eq]

theorem cborBytes_faithful_wide :
    wideReport.Encodable ∧
      (∃ members, Cbor.decode? wideReport.cborBytes = some (.map members) ∧
        members.Perm (wideReport.members .int .text .bool)) ∧
      wideReport.cborBytes ≠ { wideReport with allocatedBytes := 2 ^ 70 + 1 }.cborBytes := by
  have hwide : wideReport.Encodable := ⟨by decide +kernel, by decide +kernel⟩
  have hother : { wideReport with allocatedBytes := 2 ^ 70 + 1 }.Encodable :=
    ⟨by decide +kernel, by decide +kernel⟩
  obtain ⟨hread, hsame⟩ := cborBytes_faithful hwide
  refine ⟨hwide, hread, fun hbytes => ?_⟩
  exact absurd ((hsame _ hother).1 hbytes).allocatedBytes (by decide)

end Octets

section Page

theorem toJson_writable_iff :
    r.toJson.writable = true ↔
      ∀ z ∈ r.integers, (Decimal.digits z.natAbs).length ≤ Decimal.maxDigits := by
  have htext : ∀ z : Int, (Decimal.text? z).isSome = true ↔
      (Decimal.digits z.natAbs).length ≤ Decimal.maxDigits := by
    intro z
    unfold Decimal.text?
    split_ifs with hz <;> simp [hz]
  simp [toJson, members, integers, Json.Value.writable, Json.writableMembers, htext]

theorem jsonText_eq_ok_iff {page : String} :
    r.jsonText = .ok page ↔ r.toJson.writable = true ∧
      page = String.ofList (Json.render (.page 2) 0 r.toJson.sorted ++ ['
']) := by
  unfold jsonText Json.encode?
  split_ifs with h <;> simp [h, eq_comm]

theorem exists_parse?_jsonText {page : String} (h : r.jsonText = .ok page) :
    ∃ members, Json.parse? page.toList = some (.object members) ∧
      members.Perm (r.members .int .text .bool) := by
  obtain ⟨-, rfl⟩ := jsonText_eq_ok_iff.1 h
  rw [String.toList_ofList]
  exact ⟨_, Json.parse?_render _ _ (by simp [Json.isSpace]), Json.sortedMembers_perm _⟩

theorem jsonText_faithful
    (h : ∀ z ∈ r.integers, (Decimal.digits z.natAbs).length ≤ Decimal.maxDigits) :
    ∃ page, r.jsonText = .ok page ∧ (∀ c ∈ page.toList, c.toNat < 128) ∧
      (∃ members, Json.parse? page.toList = some (.object members) ∧
        members.Perm (r.members .int .text .bool)) ∧
      ∀ r' : Report, r'.jsonText = .ok page ↔ r.SamePayload r' := by
  have hpage := jsonText_eq_ok_iff.2 ⟨toJson_writable_iff.2 h, rfl⟩
  refine ⟨_, hpage, ?_, exists_parse?_jsonText hpage, fun r' => ⟨fun hpage' => ?_, fun hsame => ?_⟩⟩
  · rw [String.toList_ofList]
    exact Json.ascii_append.2 ⟨Json.ascii_render _ _ _, by simp⟩
  · obtain ⟨members, hread, hperm⟩ := exists_parse?_jsonText hpage
    obtain ⟨members', hread', hperm'⟩ := exists_parse?_jsonText hpage'
    rw [hread', Option.some_inj, Json.Value.object.injEq] at hread
    subst hread
    exact samePayload_of_members_perm (fun _ _ => Json.Value.int.inj)
      (fun _ _ => Json.Value.text.inj) (fun _ _ => Json.Value.bool.inj) (hperm.symm.trans hperm')
  · have hjson : r'.toJson = r.toJson := by rw [toJson, toJson, hsame.members_eq]
    rw [jsonText, hjson]
    exact hpage

theorem jsonText_faithful_wide :
    (∀ z ∈ wideReport.integers, (Decimal.digits z.natAbs).length ≤ Decimal.maxDigits) ∧
      ∃ page, wideReport.jsonText = .ok page ∧ (∀ c ∈ page.toList, c.toNat < 128) ∧
        (∃ members, Json.parse? page.toList = some (.object members) ∧
          members.Perm (wideReport.members .int .text .bool)) ∧
        { wideReport with image := "gast \"😀\"" }.jsonText ≠ .ok page := by
  have hwide : ∀ z ∈ wideReport.integers,
      (Decimal.digits z.natAbs).length ≤ Decimal.maxDigits := by decide
  obtain ⟨page, hpage, hascii, hread, hsame⟩ := jsonText_faithful hwide
  refine ⟨hwide, page, hpage, hascii, hread, fun hother => ?_⟩
  exact absurd ((hsame _).1 hother).image (by decide)

end Page

end GuestImage.Report
