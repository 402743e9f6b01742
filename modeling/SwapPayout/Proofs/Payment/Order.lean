import SwapPayout.Proofs.Drops
import SwapPayout.Proofs.PathSet.Notation
import SwapPayout.Proofs.Payment.Draft
import SwapPayout.Proofs.Payment.SignedForm

/-!
# Which orders become drafts

An order is checked in two places. Its texts and its sequence number are looked at when its payment
is made; the amount and the length of the note only when that payment is written. What was looked at
first is not found faulty later: a fee that is read is an amount of drops, paths that are read can be
encoded, and a key of 33 bytes is short enough. So seven conditions, one for each part of an order,
decide whether it becomes a draft (`PaymentOrder.Payable`, `Draft.exists_ofOrder_eq_ok`).
-/

namespace SwapPayout

/-! ## Memos and paths -/

theorem Memo.exists_toBytes_eq_ok {m : Memo} :
    (∃ bytes, m.toBytes = .ok bytes) ↔
      m.type.length ≤ Wire.maxLength ∧ m.data.length ≤ Wire.maxLength := by
  have blob (field : Field) (bytes : Bytes) :
      (∃ value, (Wire.Entry.blob field bytes).value = .ok value) ↔
        bytes.length ≤ Wire.maxLength :=
    Wire.exists_framed_eq_ok
  have marker (field : Field) : ∃ value, (Wire.Entry.marker field).value = .ok value := ⟨_, rfl⟩
  unfold toBytes
  simp only [Wire.exists_encodeEntries_eq_ok, List.forall_mem_cons, blob, marker, List.not_mem_nil,
    false_imp_iff, implies_true, true_and, and_true]

namespace Payment

variable {p : Payment}

/-- Memos have a value when none of them is too long. -/
theorem exists_memosEntry_value :
    (∀ e ∈ p.memosEntry, ∃ value, e.value = .ok value) ↔
      ∀ m ∈ p.memos, m.type.length ≤ Wire.maxLength ∧ m.data.length ≤ Wire.maxLength := by
  have value : (∃ bytes, memosToBytes p.memos = .ok bytes) ↔
      ∀ m ∈ p.memos, m.type.length ≤ Wire.maxLength ∧ m.data.length ≤ Wire.maxLength := by
    refine exists_map_eq_ok.trans (exists_mapM_eq_ok.trans (forall₂_congr fun m _ => ?_))
    exact Memo.exists_toBytes_eq_ok
  rw [← value]
  unfold memosEntry
  split
  · next empty =>
    refine iff_of_true (fun e member => absurd member (Option.not_mem_none e)) (value.mpr ?_)
    rw [List.isEmpty_iff.mp empty]
    nofun
  · simp only [Option.mem_def, Option.some.injEq, forall_eq']

theorem exists_pathsEntry_value :
    (∀ e ∈ p.pathsEntry, ∃ value, e.value = .ok value) ↔
      ∀ paths ∈ p.paths, ∃ bytes, PathSet.encode paths = .ok bytes := by
  have missing : ∀ e ∈ (none : Option Wire.Entry), ∃ value, e.value = .ok value :=
    fun e member => absurd member (Option.not_mem_none e)
  unfold pathsEntry
  match p.paths with
  | none => exact iff_of_true missing nofun
  | some [] =>
    refine iff_of_true missing ?_
    rintro _ ⟨⟩
    exact ⟨_, rfl⟩
  | some (_ :: _) => simp only [Option.mem_def, Option.some.injEq, forall_eq']

end Payment

namespace PaymentOrder

/-- **An order that can be paid**, one condition for each of its parts. -/
structure Payable (o : PaymentOrder) : Prop where
  key : o.publicKey.length = 33
  receiver : AccountId.isAddress o.receiver = true
  sequence : o.sequence.toNat < 2 ^ 32
  fee : ∃ drops, Drops.parse o.fee = .ok drops
  paths : ∀ text ∈ o.paths, text = "" ∨ ∃ paths, PathSet.parse text = .ok paths
  amount : o.amount.Movable
  note : ∀ note ∈ o.note, (Bytes.ofString note).length ≤ 918744

variable {o : PaymentOrder} {p : Payment}

/-! ## Parts that may be missing -/

/-- Whether the memos of an order can be written is a question to its note. -/
theorem memos_fit_iff :
    (∀ m ∈ o.memos, m.type.length ≤ Wire.maxLength ∧ m.data.length ≤ Wire.maxLength) ↔
      ∀ note ∈ o.note, (Bytes.ofString note).length ≤ 918744 := by
  unfold memos
  cases o.note with
  | none => exact iff_of_true nofun nofun
  | some note =>
    simp only [Option.mem_def, Option.some.injEq, forall_eq']
    split
    · next empty =>
      obtain rfl := String.isEmpty_iff.mp empty
      exact iff_of_true nofun (by rw [Bytes.length_ofString]; decide)
    · have short : (Memo.forSwap note).type.length ≤ Wire.maxLength := by
        show 4 ≤ Wire.maxLength
        decide
      rw [List.forall_mem_singleton]
      exact and_iff_right short

theorem exists_readPaths_eq_ok :
    (∃ paths, o.readPaths = .ok paths) ↔
      ∀ text ∈ o.paths, text = "" ∨ ∃ paths, PathSet.parse text = .ok paths := by
  unfold readPaths
  cases o.paths with
  | none => exact iff_of_true ⟨none, rfl⟩ nofun
  | some text =>
    simp only [Option.mem_def, Option.some.injEq, forall_eq']
    split
    · next empty => exact iff_of_true ⟨none, rfl⟩ (.inl (String.isEmpty_iff.mp empty))
    · next filled =>
      rw [exists_map_eq_ok]
      exact (or_iff_right (mt String.isEmpty_iff.mpr filled)).symm

/-- The paths of an order can be encoded when they are read. -/
theorem exists_encode_of_readPaths {paths : Option PathSet} (h : o.readPaths = .ok paths) :
    ∀ set ∈ paths, ∃ bytes, PathSet.encode set = .ok bytes := by
  unfold readPaths at h
  rintro set rfl
  split at h
  · cases h
  · split at h
    · cases h
    · obtain ⟨_, read, same⟩ := map_eq_ok.mp h
      obtain rfl := Option.some.inj same
      exact PathSet.exists_encode_of_parse read

/-! ## Payments -/

theorem exists_payment_eq_ok :
    (∃ p, o.payment = .ok p) ↔
      o.publicKey.length = 33 ∧ AccountId.isAddress o.receiver = true ∧ o.sequence.toNat < 2 ^ 32 ∧
        (∃ drops, Drops.parse o.fee = .ok drops) ∧ ∃ paths, o.readPaths = .ok paths := by
  rw [AccountId.isAddress_iff]
  constructor
  · rintro ⟨p, paid⟩
    obtain ⟨_, destination, fee, paths, named, known, small, drops, read, -⟩ := payment_eq_ok.mp paid
    exact ⟨(AccountId.ofPublicKey_eq_ok.mp named).1, ⟨destination, known⟩, small, ⟨fee, drops⟩,
      paths, read⟩
  · rintro ⟨length, ⟨destination, known⟩, small, ⟨fee, drops⟩, paths, read⟩
    exact ⟨_, payment_eq_ok.mpr ⟨_, destination, fee, paths,
      AccountId.ofPublicKey_eq_ok.mpr ⟨length, rfl⟩, known, small, drops, read, rfl⟩⟩

/-- **The payment of an order can be written** when its amount can be moved and its note is not too
long; all else was seen to when the payment was made. -/
theorem exists_signedForm_eq_ok (paid : o.payment = .ok p) :
    (∃ bytes, p.signedForm = .ok bytes) ↔
      o.amount.Movable ∧ ∀ note ∈ o.note, (Bytes.ofString note).length ≤ 918744 := by
  obtain ⟨_, _, fee, paths, named, -, -, drops, read, rfl⟩ := payment_eq_ok.mp paid
  have key : o.publicKey.length ≤ Wire.maxLength := by
    rw [(AccountId.ofPublicKey_eq_ok.mp named).1]
    decide
  have paths := exists_encode_of_readPaths read
  rw [Payment.signedForm_eq_wireForm, Payment.exists_wireForm_eq_ok, Amount.exists_toBytes_eq_ok,
    Payment.exists_memosEntry_value, Payment.exists_pathsEntry_value, ← memos_fit_iff]
  constructor
  · rintro ⟨-, amount, -, -, memos, -⟩
    exact ⟨amount, memos⟩
  · rintro ⟨amount, memos⟩
    exact ⟨Drops.areDrops_of_parse drops, amount, key, nofun, memos, paths⟩

end PaymentOrder

/-! ## Drafts -/

namespace Draft

/-- **A draft says of itself what is true**: it has no signature yet, its account is that of its key,
and what is to be signed, by a key of either kind, is made of its payment. -/
structure Faithful (d : Draft) : Prop where
  unsigned : d.payment.txnSignature = none
  account : d.payment.account.bytes = ripemd160 (sha256 d.publicKey)
  payload : d.payment.signedForm = .ok d.payload
  digest : d.digest = sha512Half d.message

/-- An order becomes a draft when its payment can be made and written. -/
theorem exists_ofOrder_eq_ok {o : PaymentOrder} : (∃ d, ofOrder o = .ok d) ↔ o.Payable := by
  constructor
  · rintro ⟨d, drafted⟩
    obtain ⟨paid, form, -⟩ := ofOrder_eq_ok.mp drafted
    obtain ⟨key, receiver, sequence, fee, paths⟩ :=
      PaymentOrder.exists_payment_eq_ok.mp ⟨_, paid⟩
    obtain ⟨amount, note⟩ := (PaymentOrder.exists_signedForm_eq_ok paid).mp ⟨_, form⟩
    exact ⟨key, receiver, sequence, fee, PaymentOrder.exists_readPaths_eq_ok.mp paths, amount, note⟩
  · rintro ⟨key, receiver, sequence, fee, paths, amount, note⟩
    obtain ⟨p, paid⟩ := PaymentOrder.exists_payment_eq_ok.mpr
      ⟨key, receiver, sequence, fee, PaymentOrder.exists_readPaths_eq_ok.mpr paths⟩
    obtain ⟨payload, form⟩ := (PaymentOrder.exists_signedForm_eq_ok paid).mpr ⟨amount, note⟩
    exact ⟨⟨p, _, payload⟩, ofOrder_eq_ok.mpr ⟨paid, form, map_eq_ok.mpr ⟨payload, form, rfl⟩⟩⟩

theorem faithful_of_order {o : PaymentOrder} {d : Draft} (h : ofOrder o = .ok d) :
    d.publicKey = o.publicKey ∧ d.Faithful := by
  obtain ⟨paid, form, digest⟩ := ofOrder_eq_ok.mp h
  obtain ⟨payload, form', same⟩ := map_eq_ok.mp digest
  obtain rfl := Except.ok.inj (form'.symm.trans form)
  have unsigned := PaymentOrder.unsigned_of_payment paid
  obtain ⟨payment, _, _⟩ := d
  obtain ⟨_, _, _, _, named, -, -, -, -, rfl⟩ := PaymentOrder.payment_eq_ok.mp paid
  obtain ⟨-, rfl⟩ := AccountId.ofPublicKey_eq_ok.mp named
  exact ⟨rfl, unsigned, rfl, form, same.symm⟩

/-- **An order becomes a draft when it can be paid**, and for no other reason it does not; and the
draft that comes of it is faithful. -/
theorem drafted_iff_payable (o : PaymentOrder) :
    ((∃ d, ofOrder o = .ok d) ↔ o.Payable) ∧
      ∀ d, ofOrder o = .ok d → d.publicKey = o.publicKey ∧ d.Faithful :=
  ⟨exists_ofOrder_eq_ok, fun _ => faithful_of_order⟩

/-- An order with all that an order can have. -/
def errand : PaymentOrder where
  publicKey := 0xED :: List.replicate 32 0x44
  sequence := 0xFFFFFFFF
  receiver := "rrrrrrrrrrrrrrrrrrrrrhoLvTp"
  amount := .issued ⟨false, 12 * 10 ^ 14, -15, .inr (by decide)⟩ (.standard 0x55 0x53 0x44)
    ⟨List.replicate 20 0x66, rfl⟩
  fee := "0.000012"
  tag := some 7
  note := some "swap"
  paths := some "XRP => USD"
  partialAllowed := true

theorem errand_drafted :
    errand.Payable ∧ ∃ d, ofOrder errand = .ok d ∧ d.publicKey = errand.publicKey ∧ d.Faithful := by
  have payable : errand.Payable := {
    key := rfl
    receiver := by decide +kernel
    sequence := by decide
    fee := exists_eq_ok (by decide +kernel)
    paths := by
      rintro _ ⟨⟩
      exact .inr (exists_eq_ok (by decide +kernel))
    amount := .issued (by decide)
    note := by
      rintro _ ⟨⟩
      rw [Bytes.length_ofString]
      decide }
  obtain ⟨d, drafted⟩ := (drafted_iff_payable errand).1.mpr payable
  exact ⟨payable, d, drafted, (drafted_iff_payable errand).2 d drafted⟩

end Draft

end SwapPayout
