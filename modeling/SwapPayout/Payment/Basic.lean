import SwapPayout.Amount
import SwapPayout.PathSet
import SwapPayout.Wire.Entry

/-!
# Payments

A payment is a serialized object: its entries in the order of their fields (`pairwise_entries`), so
that nothing is left to sort before they are written (`serialize_eq_sorted`).
There are two binary forms. The wire form, which is sent and hashed into the transaction's name, has
every entry; the signed form, over which signatures are made, only those of fields that are signed,
and that is all but the signature (`filter_entries`).
-/

namespace SwapPayout

/-- A note that travels with a payment. -/
structure Memo where
  type : Bytes
  data : Bytes
  deriving DecidableEq, Repr

namespace Memo

def forSwap (data : String) : Memo where
  type := [0x42, 0x49, 0x4E, 0x44]
  data := Bytes.ofString data

/-- The binary form of a memo: an object of two blobs, between two markers. -/
def toBytes (m : Memo) : Except FormatError Bytes :=
  Wire.encodeEntries [.marker .memo, .blob .memoType m.type, .blob .memoData m.data,
    .marker .objectEndMarker]

end Memo

/-- A payment. -/
structure Payment where
  account : AccountId
  destination : AccountId
  amount : Amount
  destinationTag : Option UInt32
  memos : List Memo
  paths : Option PathSet
  flags : UInt32
  sequence : UInt32
  /-- The fee in drops. -/
  fee : Int
  signingPubKey : Bytes
  txnSignature : Option Bytes
  deriving DecidableEq, Repr

namespace Payment

/-! ## Flags -/

def flagFullyCanonical : UInt32 := 0x80000000

def flagNoDirect : UInt32 := 0x00010000

def flagPartial : UInt32 := 0x00020000

def flagLimitQuality : UInt32 := 0x00040000

def carries (p : Payment) (flags : UInt32) : Bool := p.flags &&& flags == flags

/-! ## Entries -/

def transactionTypeCode : UInt16 := 0

/-- The binary form of a list of memos, up to the marker at its end. -/
def memosToBytes (memos : List Memo) : Except FormatError Bytes :=
  (memos.mapM Memo.toBytes).map fun encoded => encoded.flatten ++ Field.arrayEndMarker.header

def memosEntry (p : Payment) : Option Wire.Entry :=
  if p.memos.isEmpty then none else some ⟨.memos, memosToBytes p.memos⟩

def pathsEntry (p : Payment) : Option Wire.Entry :=
  match p.paths with
  | none | some [] => none
  | some paths => some ⟨.paths, PathSet.encode paths⟩

/-- The entries of a payment, in the order of their fields. -/
def entries (p : Payment) : List Wire.Entry :=
  List.flatten [
    [.uint16 .transactionType transactionTypeCode, .uint32 .flags p.flags,
      .uint32 .sequence p.sequence],
    (p.destinationTag.map (.uint32 .destinationTag)).toList,
    [⟨.amount, p.amount.toBytes⟩, ⟨.fee, (Amount.native p.fee).toBytes⟩,
      .blob .signingPubKey p.signingPubKey],
    (p.txnSignature.map (.blob .txnSignature)).toList,
    [.blob .account p.account.bytes, .blob .destination p.destination.bytes],
    p.memosEntry.toList,
    p.pathsEntry.toList]

/-! ### Their order -/

/-- The fields that a payment can have, in their order. -/
def layout : List Field :=
  [.transactionType, .flags, .sequence, .destinationTag, .amount, .fee, .signingPubKey,
    .txnSignature, .account, .destination, .memos, .paths]

theorem pairwise_layout : layout.Pairwise fun f g => f.before g = true := by decide

/-- A value that may be missing gives its field or nothing. -/
theorem sublist_optional {α : Type} (field : Field) (entry : α → Wire.Entry)
    (h : ∀ a, (entry a).field = field) (o : Option α) :
    ((o.map entry).toList.map Wire.Entry.field).Sublist [field] := by
  cases o with
  | none => exact List.nil_sublist _
  | some a => exact (congrArg (fun f => [f]) (h a)).symm ▸ List.Sublist.refl _

theorem sublist_memosEntry (p : Payment) :
    (p.memosEntry.toList.map Wire.Entry.field).Sublist [.memos] := by
  unfold memosEntry
  split
  · exact List.nil_sublist _
  · exact List.Sublist.refl _

theorem sublist_pathsEntry (p : Payment) :
    (p.pathsEntry.toList.map Wire.Entry.field).Sublist [.paths] := by
  unfold pathsEntry
  split
  · exact List.nil_sublist _
  · exact List.nil_sublist _
  · exact List.Sublist.refl _

theorem sublist_layout (p : Payment) : (p.entries.map Wire.Entry.field).Sublist layout := by
  have tag := sublist_optional .destinationTag (.uint32 .destinationTag) (fun _ => rfl)
    p.destinationTag
  have signature := sublist_optional .txnSignature (.blob .txnSignature) (fun _ => rfl)
    p.txnSignature
  have last : ([] : List Field).Sublist [] := .refl _
  simp only [entries, List.flatten_cons, List.flatten_nil, List.map_append]
  exact .append (.refl [.transactionType, .flags, .sequence]) <| tag.append <|
    .append (.refl [.amount, .fee, .signingPubKey]) <| signature.append <|
    .append (.refl [.account, .destination]) <| p.sublist_memosEntry.append <|
    p.sublist_pathsEntry.append last

/-- The entries stand in the order of their fields, no field twice. -/
theorem pairwise_entries (p : Payment) :
    (p.entries.map Wire.Entry.field).Pairwise fun f g => f.before g = true :=
  pairwise_layout.sublist p.sublist_layout

/-- Some of the entries, in the order they have, are sorted. -/
theorem mergeSort_of_sublist {p : Payment} {es : List Wire.Entry} (h : es.Sublist p.entries) :
    es.mergeSort (fun e f => !f.field.before e.field) = es := by
  have ordered : es.Pairwise fun e f => e.field.before f.field = true :=
    (List.pairwise_map.mp p.pairwise_entries).sublist h
  refine List.mergeSort_of_pairwise (ordered.imp fun before => ?_)
  rw [Field.before_asymm before, Bool.not_false]

/-- **Sorting by field leaves the entries as they are.** -/
theorem mergeSort_entries (p : Payment) :
    p.entries.mergeSort (fun e f => !f.field.before e.field) = p.entries :=
  mergeSort_of_sublist (.refl _)

/-! ## Binary forms -/

/-- The binary form of the entries whose fields are wanted. A fee that is no amount of drops is
noticed before everything else. -/
def serialize (p : Payment) (wanted : Field → Bool) : Except FormatError Bytes := do
  let _ ← Amount.ofDrops p.fee
  Wire.encodeEntries (p.entries.filter fun e => wanted e.field)

/-- A binary form is the one that sorting the wanted entries by field would give. -/
theorem serialize_eq_sorted (p : Payment) (wanted : Field → Bool) :
    p.serialize wanted = Amount.ofDrops p.fee >>= fun _ =>
      Wire.encodeEntries ((p.entries.filter fun e => wanted e.field).mergeSort
        fun e f => !f.field.before e.field) := by
  rw [mergeSort_of_sublist List.filter_sublist]
  rfl

def signedForm (p : Payment) : Except FormatError Bytes := p.serialize Field.signed

/-- Nothing but the signature is left out of what is signed. -/
theorem filter_entries (p : Payment) :
    (p.entries.filter fun e => e.field.signed) = { p with txnSignature := none }.entries := by
  have memos : p.memosEntry.toList.filter (fun e => e.field.signed) = p.memosEntry.toList := by
    unfold memosEntry
    split <;> rfl
  have paths : p.pathsEntry.toList.filter (fun e => e.field.signed) = p.pathsEntry.toList := by
    unfold pathsEntry
    split <;> rfl
  simp only [entries, List.flatten_cons, List.flatten_nil, List.filter_append, memos, paths]
  cases p.destinationTag <;> cases p.txnSignature <;> rfl

def wireForm (p : Payment) : Except FormatError Bytes := p.serialize fun _ => true

end Payment

end SwapPayout
