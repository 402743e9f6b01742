import SwapPayout.Proofs.PathSet.Reading
import SwapPayout.Proofs.Payment.SignedForm

/-!
# Payments read back

A payment's wire form determines the payment. The reader takes the entries in the order of the
layout; where an entry may be missing, the header that comes next says whether it is, since no two
headers of the layout start with the same byte. Memos and paths have no count: the byte in front of
each says that there is one more.

One difference does not reach the wire. A payment without a set of paths and one whose set is empty
have the same form (`wireForm_withoutEmptyPaths`), and the reader gives the first of the two.
-/

namespace SwapPayout

/-! ## Memos -/

namespace Memo

/-- Takes a memo between its markers. -/
def reader : Wire.Reader Memo := do
  Wire.field .memo (pure ())
  let type ← Wire.field .memoType Wire.frame
  let data ← Wire.field .memoData Wire.frame
  Wire.field .objectEndMarker (pure ())
  return { type, data }

/-- Does a byte announce a memo? -/
def announces (b : UInt8) : Bool := [b] == Field.memo.header

theorem readsBack_marker : Wire.ReadsBack (pure ()) (.ok []) () :=
  Wire.readsBack_ok fun _ => rfl

/-- **A memo reads back**, whatever its blobs hold. -/
theorem readsBack (m : Memo) : Wire.ReadsBack reader m.toBytes m := fun rest =>
  .field_bind (e := .marker .memo) readsBack_marker <|
  .field_bind (e := .blob .memoType m.type) (Wire.readsBack_frame m.type) <|
  .field_bind (e := .blob .memoData m.data) (Wire.readsBack_frame m.data) <|
  .field_bind (e := .marker .objectEndMarker) readsBack_marker <|
  Wire.readsBefore_pure rest m

theorem announced {m : Memo} {bytes : Bytes} (h : m.toBytes = .ok bytes) :
    bytes.head?.any announces = true := by
  obtain ⟨value, more, -, -, rfl⟩ := Wire.encodeEntries_cons_eq_ok.mp h
  rfl

end Memo

namespace Payment

/-- Takes memos up to the marker behind them. -/
def memosReader : Wire.Reader (List Memo) := do
  let memos ← Wire.repeatWhile Memo.announces Memo.reader
  Wire.expect Field.arrayEndMarker.header
  return memos

/-- **A list of memos reads back**: the marker at its end announces no memo. -/
theorem readsBack_memos (memos : List Memo) :
    Wire.ReadsBack memosReader (memosToBytes memos) memos := by
  intro rest bytes h
  obtain ⟨forms, hforms, rfl⟩ := map_eq_ok.mp h
  have taken : Wire.repeatWhile Memo.announces Memo.reader
      (forms.flatten ++ (Field.arrayEndMarker.header ++ rest))
        = some (memos, Field.arrayEndMarker.header ++ rest) := by
    refine Wire.repeatWhile_flatten (fun _ => True)
      ((mapM_eq_ok.mp hforms).imp fun m form hm => ?_) rfl trivial
    exact ⟨Memo.announced hm, fun _ => trivial, fun more _ => m.readsBack more form hm⟩
  rw [List.append_assoc, memosReader, Wire.bind_run taken]
  exact Wire.bind_run (Wire.expect_append _ rest)

/-! ## Entries that may be missing -/

/-- The payment with an empty set of paths taken for none. -/
def withoutEmptyPaths (p : Payment) : Payment :=
  { p with paths := p.paths.filter fun paths => !paths.isEmpty }

theorem withoutEmptyPaths_withoutEmptyPaths (p : Payment) :
    p.withoutEmptyPaths.withoutEmptyPaths = p.withoutEmptyPaths := by
  simp only [withoutEmptyPaths, Option.filter_filter, Bool.and_self]

/-- The memos, if there are any. -/
def memos? (p : Payment) : Option (List Memo) := if p.memos.isEmpty then none else some p.memos

theorem memosEntry_eq (p : Payment) :
    p.memosEntry = p.memos?.map fun memos => ⟨.memos, memosToBytes memos⟩ := by
  unfold memosEntry memos?
  split <;> rfl

theorem getD_memos? (p : Payment) : p.memos?.getD [] = p.memos := by
  unfold memos?
  split
  · next empty => exact (List.isEmpty_iff.mp empty).symm
  · rfl

theorem pathsEntry_eq (p : Payment) :
    p.pathsEntry = p.withoutEmptyPaths.paths.map fun paths => ⟨.paths, PathSet.encode paths⟩ := by
  unfold pathsEntry withoutEmptyPaths
  match p.paths with
  | none => rfl
  | some [] => rfl
  | some (_ :: _) => rfl

/-- An empty set of paths leaves no trace on the wire. -/
theorem wireForm_withoutEmptyPaths (p : Payment) : p.withoutEmptyPaths.wireForm = p.wireForm := by
  have paths : p.withoutEmptyPaths.pathsEntry = p.pathsEntry := by
    rw [pathsEntry_eq, pathsEntry_eq, withoutEmptyPaths_withoutEmptyPaths]
  unfold wireForm serialize entries
  rw [paths]
  rfl

/-! ## Payments -/

/-- Takes an amount of drops. -/
def dropsReader : Wire.Reader Int := do
  match ← Amount.reader with
  | .native drops => return drops
  | .issued _ _ _ => Wire.accept none

theorem readsBack_drops (drops : Int) :
    Wire.ReadsBack dropsReader (Amount.native drops).toBytes drops := by
  intro rest bytes h
  rw [dropsReader, Wire.bind_run (Amount.readsBack _ rest bytes h)]
  rfl

/-- Takes a payment, entry by entry. -/
def reader : Wire.Reader Payment := do
  Wire.field .transactionType (Wire.expect (Bytes.ofNat 2 transactionTypeCode.toNat))
  let flags ← Wire.field .flags Wire.uint32
  let sequence ← Wire.field .sequence Wire.uint32
  let destinationTag ← Wire.field? .destinationTag Wire.uint32
  let amount ← Wire.field .amount Amount.reader
  let fee ← Wire.field .fee dropsReader
  let signingPubKey ← Wire.field .signingPubKey Wire.frame
  let txnSignature ← Wire.field? .txnSignature Wire.frame
  let account ← Wire.field .account AccountId.frameReader
  let destination ← Wire.field .destination AccountId.frameReader
  let memos ← Wire.field? .memos memosReader
  let paths ← Wire.field? .paths PathSet.reader
  return { account, destination, amount, destinationTag, memos := memos.getD [], paths, flags,
           sequence, fee, signingPubKey, txnSignature }

/-- The payment with this wire form. -/
def ofWire? (bytes : Bytes) : Option Payment :=
  match reader bytes with
  | some (p, []) => some p
  | _ => none

/-- The entries in the order in which the reader takes them. -/
theorem entries_eq_layout (p : Payment) :
    p.entries =
      .uint16 .transactionType transactionTypeCode :: .uint32 .flags p.flags ::
      .uint32 .sequence p.sequence ::
      ((p.destinationTag.map (.uint32 .destinationTag)).toList ++
      ⟨.amount, p.amount.toBytes⟩ :: ⟨.fee, (Amount.native p.fee).toBytes⟩ ::
      .blob .signingPubKey p.signingPubKey ::
      ((p.txnSignature.map (.blob .txnSignature)).toList ++
      .blob .account p.account.bytes :: .blob .destination p.destination.bytes ::
      ((p.memos?.map fun memos => ⟨.memos, memosToBytes memos⟩).toList ++
      ((p.withoutEmptyPaths.paths.map fun paths => ⟨.paths, PathSet.encode paths⟩).toList ++
      [])))) := by
  rw [← memosEntry_eq, ← pathsEntry_eq]
  simp only [entries, List.flatten_cons, List.flatten_nil, List.cons_append, List.nil_append]

/-- Nothing stands behind the last entry. -/
theorem apart_from_end (f : Field) (bytes : Bytes) (h : Wire.encodeEntries [] = .ok bytes) :
    ¬ f.header <+: bytes ++ [] := by
  cases h
  exact fun taken => Wire.header_ne_nil f (List.prefix_nil.mp taken)

/-- Behind the memos stand the paths or nothing. -/
theorem memos_apart (paths : Option PathSet) (bytes : Bytes)
    (h : Wire.encodeEntries
      ((paths.map fun paths => ⟨.paths, PathSet.encode paths⟩).toList ++ []) = .ok bytes) :
    ¬ Field.memos.header <+: bytes ++ [] := by
  cases paths with
  | none => exact apart_from_end .memos bytes h
  | some paths => exact Wire.not_prefix_of_encodeEntries (by decide) h []

/-- **The entries of a payment read back**, each in front of those that follow it. -/
theorem readsBack_entries (p : Payment) :
    Wire.ReadsBefore [] reader (Wire.encodeEntries p.entries) p.withoutEmptyPaths := by
  have last : Wire.ReadsBefore [] (pure { p.withoutEmptyPaths with memos := p.memos?.getD [] })
      (Wire.encodeEntries []) p.withoutEmptyPaths := by
    rw [getD_memos?]
    exact Wire.readsBefore_pure [] p.withoutEmptyPaths
  rw [entries_eq_layout]
  -- One line an entry; where it may be missing, the second line says what cannot be taken for it.
  exact
    .field_bind (e := .uint16 .transactionType transactionTypeCode) (Wire.readsBack_expect _) <|
    .field_bind (e := .uint32 .flags p.flags) (Wire.readsBack_uint32 p.flags) <|
    .field_bind (e := .uint32 .sequence p.sequence) (Wire.readsBack_uint32 p.sequence) <|
    .field?_bind (fun _ => rfl) Wire.readsBack_uint32
      (fun _ h => Wire.not_prefix_of_encodeEntries (by decide) h []) <|
    .field_bind (e := ⟨.amount, p.amount.toBytes⟩) p.amount.readsBack <|
    .field_bind (e := ⟨.fee, (Amount.native p.fee).toBytes⟩) (readsBack_drops p.fee) <|
    .field_bind (e := .blob .signingPubKey p.signingPubKey)
      (Wire.readsBack_frame p.signingPubKey) <|
    .field?_bind (fun _ => rfl) Wire.readsBack_frame
      (fun _ h => Wire.not_prefix_of_encodeEntries (by decide) h []) <|
    .field_bind (e := .blob .account p.account.bytes) p.account.readsBack_frameReader <|
    .field_bind (e := .blob .destination p.destination.bytes)
      p.destination.readsBack_frameReader <|
    .field?_bind (fun _ => rfl) readsBack_memos (memos_apart p.withoutEmptyPaths.paths) <|
    .field?_bind (fun _ => rfl) PathSet.readsBack (apart_from_end .paths) last

theorem ofWire?_wireForm {p : Payment} {bytes : Bytes} (h : p.wireForm = .ok bytes) :
    ofWire? bytes = some p.withoutEmptyPaths := by
  have read := p.readsBack_entries bytes (wireForm_eq_ok.mp h).2
  rw [List.append_nil] at read
  rw [ofWire?, read]

/-- **The wire form of a payment determines it**: a reader finds the payment again, and payments
with one wire form are equal but for an empty set of paths. -/
theorem wireForm_determines_payment :
    (∀ (p : Payment) (bytes : Bytes), p.wireForm = .ok bytes →
      ofWire? bytes = some p.withoutEmptyPaths) ∧
    ∀ (p q : Payment) (bytes : Bytes), p.wireForm = .ok bytes → q.wireForm = .ok bytes →
      p.withoutEmptyPaths = q.withoutEmptyPaths := by
  refine ⟨fun p bytes h => ofWire?_wireForm h, fun p q bytes hp hq => ?_⟩
  exact Option.some.inj ((ofWire?_wireForm hp).symm.trans (ofWire?_wireForm hq))

/-- Memos that hold the marker at the end of memos, and paths through an account and a currency whose
bytes are those that end paths, read back; no set of paths and an empty one read as the same
payment. -/
theorem specimen_determined :
    ∃ bytes few, specimen.wireForm = .ok bytes ∧ ofWire? bytes = some specimen ∧
      ({ specimen with paths := none }).wireForm = .ok few ∧
      ({ specimen with paths := some [] }).wireForm = .ok few ∧
      ({ specimen with paths := none }).withoutEmptyPaths
        = ({ specimen with paths := some [] }).withoutEmptyPaths := by
  obtain ⟨bytes, form⟩ : ∃ bytes, specimen.wireForm = .ok bytes :=
    exists_eq_ok (by decide +kernel)
  obtain ⟨few, none⟩ : ∃ few, ({ specimen with paths := none }).wireForm = .ok few :=
    exists_eq_ok (by decide +kernel)
  have empty : ({ specimen with paths := some [] }).wireForm = .ok few := none
  exact ⟨bytes, few, form, wireForm_determines_payment.1 specimen bytes form, none, empty,
    wireForm_determines_payment.2 _ _ few none empty⟩

end Payment

end SwapPayout
