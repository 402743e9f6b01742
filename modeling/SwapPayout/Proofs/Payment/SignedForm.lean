import SwapPayout.Payment.Draft
import SwapPayout.Proofs.Amount.Form
import SwapPayout.Proofs.Wire.Entries

/-!
# The signed form beside the wire form

A payment has two binary forms, and they differ in the signature alone. `signedForm_eq_wireForm`
says it in the shortest way: what is signed is the wire form of the payment without its signature.
So no signature has a say in what is signed (`signedForm_withSignature`), and nothing else is left
out of it.

Where the signature stands is fixed too: the entries before it and those behind it are those of the
payment without one (`entries_eq`). `wireForm_around_signature` joins the two views in bytes.
-/

namespace SwapPayout.Payment

/-! ## The wire form -/

/-- A payment has a wire form when its fee is an amount of drops and every entry has a value. -/
theorem wireForm_eq_ok {p : Payment} {bytes : Bytes} :
    p.wireForm = .ok bytes ↔
      Amount.areDrops p.fee = true ∧ Wire.encodeEntries p.entries = .ok bytes := by
  unfold wireForm serialize
  rw [bind_eq_ok, List.filter_true]
  constructor
  · rintro ⟨_, fee, forms⟩
    exact ⟨(Amount.ofDrops_eq_ok.mp fee).1, forms⟩
  · rintro ⟨fee, forms⟩
    exact ⟨_, Amount.ofDrops_eq_ok.mpr ⟨fee, rfl⟩, forms⟩

/-- **A payment has a wire form when all its parts have one**: the amount, memos and paths, and
the two byte strings that can be too long. -/
theorem exists_wireForm_eq_ok {p : Payment} :
    (∃ bytes, p.wireForm = .ok bytes) ↔
      Amount.areDrops p.fee = true ∧ (∃ bytes, p.amount.toBytes = .ok bytes) ∧
        p.signingPubKey.length ≤ Wire.maxLength ∧
        (∀ signature ∈ p.txnSignature, signature.length ≤ Wire.maxLength) ∧
        (∀ e ∈ p.memosEntry, ∃ value, e.value = .ok value) ∧
        ∀ e ∈ p.pathsEntry, ∃ value, e.value = .ok value := by
  have form : (∃ bytes, p.wireForm = .ok bytes) ↔
      Amount.areDrops p.fee = true ∧ ∀ e ∈ p.entries, ∃ value, e.value = .ok value := by
    simp only [wireForm_eq_ok, exists_and_left, Wire.exists_encodeEntries_eq_ok]
  have fee : (∃ value, (Amount.native p.fee).toBytes = .ok value) ↔
      Amount.areDrops p.fee = true := by
    simp only [Amount.toBytes_native_eq_ok, exists_and_left, exists_eq, and_true]
  have blob (field : Field) (bytes : Bytes) :
      (∃ value, (Wire.Entry.blob field bytes).value = .ok value) ↔
        bytes.length ≤ Wire.maxLength :=
    Wire.exists_framed_eq_ok
  have account (id : AccountId) : id.bytes.length ≤ Wire.maxLength := by
    rw [id.length_bytes]
    decide
  -- Numbers always have a value, whether they must be there or may be missing.
  have word (field : Field) (n : UInt32) : ∃ value, (Wire.Entry.uint32 field n).value = .ok value :=
    ⟨_, rfl⟩
  have code (field : Field) (n : UInt16) : ∃ value, (Wire.Entry.uint16 field n).value = .ok value :=
    ⟨_, rfl⟩
  have optional {α : Type} (entry : α → Wire.Entry) (o : Option α) :
      (∀ e, o.map entry = some e → ∃ value, e.value = .ok value) ↔
        ∀ a, o = some a → ∃ value, (entry a).value = .ok value := by
    cases o <;> simp
  simp only [form, entries, List.flatten_cons, List.flatten_nil, List.forall_mem_append,
    List.forall_mem_cons, Option.mem_toList, Option.mem_def, List.not_mem_nil, optional, blob,
    account, fee, word, code, false_imp_iff, implies_true, true_and, and_true]
  tauto

/-! ## What is signed -/

/-- **What is signed is the wire form of the payment without its signature.** -/
theorem signedForm_eq_wireForm (p : Payment) :
    p.signedForm = ({ p with txnSignature := none }).wireForm := by
  unfold signedForm wireForm serialize
  rw [filter_entries, List.filter_true]

/-- No signature has a say in what is signed. -/
theorem signedForm_withSignature (p : Payment) (signature : Option Bytes) :
    ({ p with txnSignature := signature }).signedForm = p.signedForm := by
  rw [signedForm_eq_wireForm, signedForm_eq_wireForm p]

theorem digest_withSignature (p : Payment) (signature : Option Bytes) :
    ({ p with txnSignature := signature }).digest = p.digest := by
  rw [digest, digest, signedForm_withSignature]

/-! ## Where the signature stands -/

/-- The entries in front of the signature. -/
def entriesBefore (p : Payment) : List Wire.Entry :=
  List.flatten [
    [.uint16 .transactionType transactionTypeCode, .uint32 .flags p.flags,
      .uint32 .sequence p.sequence],
    (p.destinationTag.map (.uint32 .destinationTag)).toList,
    [⟨.amount, p.amount.toBytes⟩, ⟨.fee, (Amount.native p.fee).toBytes⟩,
      .blob .signingPubKey p.signingPubKey]]

/-- The entries behind the signature. -/
def entriesBehind (p : Payment) : List Wire.Entry :=
  List.flatten [
    [.blob .account p.account.bytes, .blob .destination p.destination.bytes],
    p.memosEntry.toList,
    p.pathsEntry.toList]

theorem entries_eq (p : Payment) :
    p.entries =
      p.entriesBefore ++ ((p.txnSignature.map (.blob .txnSignature)).toList ++ p.entriesBehind) := by
  simp only [entries, entriesBefore, entriesBehind, List.flatten_cons, List.flatten_nil,
    List.append_assoc, List.append_nil]

theorem header_txnSignature : Field.txnSignature.header = [0x74] := by decide

/-- **The wire form is the signed form with the signature put in**, behind its header and its
length, in one place that does not depend on it. -/
theorem wireForm_around_signature (p : Payment) :
    (∀ t, ({ p with txnSignature := t }).signedForm = p.signedForm ∧
      ({ p with txnSignature := t }).digest = p.digest) ∧
    ∀ signature wire : Bytes, ({ p with txnSignature := some signature }).wireForm = .ok wire →
      ∃ a b length, Wire.lengthHeader signature.length = .ok length ∧
        (∀ t, ({ p with txnSignature := t }).signedForm = .ok (a ++ b)) ∧
        (∀ t, ({ p with txnSignature := t }).digest =
          .ok (sha512Half (signingMarker ++ (a ++ b)))) ∧
        ({ p with txnSignature := none }).wireForm = .ok (a ++ b) ∧
        wire = a ++ 0x74 :: (length ++ signature) ++ b := by
  refine ⟨fun t => ⟨signedForm_withSignature p t, digest_withSignature p t⟩, ?_⟩
  intro signature wire h
  obtain ⟨fee, forms⟩ := wireForm_eq_ok.mp h
  -- The entries in front of the signature and those behind it are the same without it.
  rw [entries_eq] at forms
  obtain ⟨a, rest, ha, hrest, rfl⟩ := Wire.encodeEntries_append_eq_ok.mp forms
  obtain ⟨value, b, hvalue, hb, rfl⟩ := Wire.encodeEntries_cons_eq_ok.mp hrest
  obtain ⟨length, hlength, rfl⟩ := map_eq_ok.mp hvalue
  have unsigned : ({ p with txnSignature := none }).wireForm = .ok (a ++ b) := by
    refine wireForm_eq_ok.mpr ⟨fee, ?_⟩
    rw [entries_eq]
    exact Wire.encodeEntries_append_eq_ok.mpr ⟨a, b, ha, hb, rfl⟩
  have signed (t : Option Bytes) : ({ p with txnSignature := t }).signedForm = .ok (a ++ b) := by
    rw [signedForm_eq_wireForm]
    exact unsigned
  refine ⟨a, b, length, hlength, signed, fun t => map_eq_ok.mpr ⟨_, signed t, rfl⟩, unsigned, ?_⟩
  show a ++ (Field.txnSignature.header ++ (length ++ signature ++ b)) = _
  rw [header_txnSignature, List.append_assoc a]
  rfl

/-- A payment with an entry for every field but the signature. -/
def specimen : Payment where
  account := ⟨List.replicate 20 0x11, rfl⟩
  destination := ⟨List.replicate 20 0x22, rfl⟩
  amount := .issued ⟨false, 15 * 10 ^ 14, -15, .inr (by decide)⟩ (.standard 0x55 0x53 0x44)
    ⟨List.replicate 20 0x33, rfl⟩
  destinationTag := some 7
  memos := [⟨[0x42], []⟩, ⟨[], [0xF1, 0x00]⟩]
  paths := some [[{ currency := some .native }], [{ account := some ⟨List.replicate 20 0xFF, rfl⟩ }]]
  flags := flagFullyCanonical
  sequence := 1
  fee := 10
  signingPubKey := 0x02 :: List.replicate 32 0x44
  txnSignature := none

theorem specimen_around_signature :
    ∃ wire, ({ specimen with txnSignature := some [0x30, 0x00] }).wireForm = .ok wire ∧
      ∃ a b, specimen.signedForm = .ok (a ++ b) ∧ wire = a ++ 0x74 :: [0x02, 0x30, 0x00] ++ b := by
  obtain ⟨wire, form⟩ : ∃ wire,
      ({ specimen with txnSignature := some [0x30, 0x00] }).wireForm = .ok wire :=
    exists_eq_ok (by decide +kernel)
  obtain ⟨a, b, length, hlength, signed, -, -, around⟩ :=
    (wireForm_around_signature specimen).2 [0x30, 0x00] wire form
  cases hlength
  exact ⟨wire, form, a, b, signed none, around⟩

end SwapPayout.Payment
