import Mathlib.Data.List.GetD
import Mathlib.Data.List.TakeWhile
import SwapPayout.Base58
import SwapPayout.Proofs.Outcome
import SwapPayout.Proofs.Radix

/-!
# Base-58 texts

A text that is read is the one that would be written: `Base58.decode_eq_ok` says that reading and
writing are inverse to each other, so no byte string has a second text.

Both directions pass a numeral from one base to another and keep the zeros in front, which the
number does not hold. That is `Radix.rebase`, and going there and back changes nothing
(`Radix.rebase_rebase`).
-/

namespace SwapPayout

/-! ## Numerals in another base -/

namespace Radix

/-- How many zeros a numeral starts with. -/
def zeros (digits : List Nat) : Nat := (digits.takeWhile (· == 0)).length

/-- The numeral in another base, behind as many zeros. -/
def rebase (base base' : Nat) (digits : List Nat) : List Nat :=
  List.replicate (zeros digits) 0 ++ toDigits base' (ofDigits base digits)

theorem replicate_zeros_append (digits : List Nat) :
    List.replicate (zeros digits) 0 ++ digits.dropWhile (· == 0) = digits := by
  have front : digits.takeWhile (· == 0) = List.replicate (zeros digits) 0 := by
    apply List.eq_replicate_of_mem
    intro d hd
    simpa using List.mem_takeWhile_imp hd
  rw [← front, List.takeWhile_append_dropWhile]

variable {base base' : Nat} {digits : List Nat}

/-- A written number starts with no zero. -/
theorem zeros_toDigits (h : 1 < base) (n : Nat) : zeros (toDigits base n) = 0 := by
  have kept : (toDigits base n).dropWhile (· == 0) = toDigits base n := by
    rw [← toDigits_ofDigits h fun d hd => lt_of_mem_toDigits h hd, ofDigits_toDigits base h]
  have whole := congrArg List.length (replicate_zeros_append (toDigits base n))
  rw [kept, List.length_append, List.length_replicate] at whole
  omega

theorem zeros_rebase (h' : 1 < base') : zeros (rebase base base' digits) = zeros digits := by
  have front : ∀ d ∈ List.replicate (zeros digits) 0, (d == 0) = true := by
    intro d hd
    rw [List.eq_of_mem_replicate hd]
    rfl
  have behind : ((toDigits base' (ofDigits base digits)).takeWhile (· == 0)).length = 0 :=
    zeros_toDigits h' _
  rw [zeros, rebase, List.takeWhile_append_of_pos front, List.length_append, behind,
    List.length_replicate, Nat.add_zero]

theorem ofDigits_rebase (h' : 1 < base') :
    ofDigits base' (rebase base base' digits) = ofDigits base digits := by
  rw [rebase, ofDigits_replicate_zero_append, ofDigits_toDigits base' h']

theorem lt_of_mem_rebase (h' : 1 < base') {d : Nat} (hd : d ∈ rebase base base' digits) :
    d < base' := by
  rcases List.mem_append.mp hd with front | written
  · rw [List.eq_of_mem_replicate front]
    omega
  · exact lt_of_mem_toDigits h' written

/-- A numeral gets no shorter in a smaller base. -/
theorem length_le_length_rebase (h' : 1 < base') (le : base' ≤ base)
    (all : ∀ d ∈ digits, d < base) : digits.length ≤ (rebase base base' digits).length := by
  have back := congrArg List.length (replicate_zeros_append digits)
  rw [← toDigits_ofDigits (h'.trans_le le) all, List.length_append] at back
  rw [rebase, List.length_append, ← back]
  exact Nat.add_le_add_left (length_toDigits_le_of_le h' le _) _

/-- **A numeral is found again** when it is passed to another base and back. -/
theorem rebase_rebase (h : 1 < base) (h' : 1 < base') (all : ∀ d ∈ digits, d < base) :
    rebase base' base (rebase base base' digits) = digits := by
  have back := replicate_zeros_append digits
  rw [← toDigits_ofDigits h all] at back
  rw [rebase, zeros_rebase h', ofDigits_rebase h', back]

end Radix

namespace Base58

open Radix (rebase)

/-! ## Letters -/

theorem value?_letter {n : Nat} (h : n < 58) : value? (letter n) = some n := by
  have all : ∀ n < 58, value? (letter n) = some n := by decide +kernel
  exact all n h

theorem value?_eq_some {c : Char} {n : Nat} : value? c = some n ↔ n < 58 ∧ letter n = c := by
  constructor
  · intro h
    obtain ⟨inside, found, -⟩ := List.idxOf?_eq_some_iff.mp h
    refine ⟨inside, ?_⟩
    rw [letter, List.getD_eq_getElem _ _ inside, found]
  · rintro ⟨small, rfl⟩
    exact value?_letter small

theorem values_eq_ok {offset : Nat} {cs : List Char} {digits : List Nat} :
    values offset cs = .ok digits ↔ (∀ d ∈ digits, d < 58) ∧ cs = digits.map letter := by
  induction cs generalizing offset digits with
  | nil =>
    rw [values, Except.ok.injEq]
    constructor
    · rintro rfl
      simp
    · rintro ⟨-, none⟩
      exact (List.map_eq_nil_iff.mp none.symm).symm
  | cons c cs ih =>
    cases found : value? c with
    | none =>
      rw [values, found]
      refine iff_of_false nofun ?_
      rintro ⟨small, written⟩
      obtain ⟨d, digits, rfl, rfl, rfl⟩ := List.map_eq_cons_iff.mp written.symm
      rw [value?_letter (small d (by simp))] at found
      cases found
    | some value =>
      obtain ⟨small, rfl⟩ := value?_eq_some.mp found
      rw [values, found]
      refine map_eq_ok.trans ⟨?_, ?_⟩
      · rintro ⟨rest, read, rfl⟩
        obtain ⟨others, rfl⟩ := ih.mp read
        exact ⟨List.forall_mem_cons.mpr ⟨small, others⟩, rfl⟩
      · rintro ⟨all, written⟩
        obtain ⟨d, rest, rfl, same, behind⟩ := List.map_eq_cons_iff.mp written.symm
        obtain ⟨first, others⟩ := List.forall_mem_cons.mp all
        -- Both digits have this letter, so they are one.
        rw [← same, value?_letter first] at found
        obtain rfl := Option.some.inj found
        exact ⟨rest, ih.mpr ⟨others, behind.symm⟩, rfl⟩

/-! ## Texts -/

theorem encode_eq (bytes : Bytes) :
    encode bytes = String.ofList ((rebase 256 58 (bytes.map UInt8.toNat)).map letter) := by
  have zeros : (bytes.takeWhile (· == 0)).length = Radix.zeros (bytes.map UInt8.toNat) := by
    have same : ((· == 0) ∘ UInt8.toNat) = (· == 0) := by
      funext b
      rw [Function.comp_apply, Bool.eq_iff_iff, beq_iff_eq, beq_iff_eq, ← UInt8.toNat_inj]
      rfl
    rw [Radix.zeros, List.takeWhile_map, List.length_map, same]
  rw [encode, zeros, Bytes.toNat_eq_ofDigits, rebase, List.map_append, List.map_replicate]
  rfl

/-- Each byte takes a letter at least. -/
theorem length_le_length_encode (bytes : Bytes) : bytes.length ≤ (encode bytes).toList.length := by
  rw [encode_eq, String.toList_ofList, List.length_map, ← bytes.length_map UInt8.toNat]
  exact Radix.length_le_length_rebase (by decide) (by decide) fun _ => Bytes.lt_of_mem_map_toNat

/-- A zero in front is written as a letter of its own. -/
theorem head?_encode_zero (bytes : Bytes) : (encode (0 :: bytes)).toList.head? = some zeroLetter := by
  rw [encode, String.toList_ofList, List.takeWhile_cons_of_pos rfl]
  rfl

theorem mem_alphabet_of_mem_encode {bytes : Bytes} {c : Char} (h : c ∈ (encode bytes).toList) :
    c ∈ alphabet := by
  rw [encode_eq, String.toList_ofList] at h
  obtain ⟨d, written, rfl⟩ := List.mem_map.mp h
  have small : d < alphabet.length := Radix.lt_of_mem_rebase (by decide) written
  rw [letter, List.getD_eq_getElem _ _ small]
  exact List.getElem_mem small

theorem decode_eq {text : String} {bytes : Bytes} :
    decode text = .ok bytes ↔
      ∃ digits, values 0 text.toList = .ok digits ∧
        bytes = (rebase 58 256 digits).map UInt8.ofNat := by
  refine bind_eq_ok.trans (exists_congr fun digits => and_congr_right fun _ => ?_)
  rw [rebase, List.map_append, List.map_replicate]
  exact pure_eq_ok.trans eq_comm

/-- **A byte string is read from the text that it is written as**, and from no other. -/
theorem decode_eq_ok {text : String} {bytes : Bytes} :
    decode text = .ok bytes ↔ text = encode bytes := by
  rw [decode_eq, encode_eq]
  constructor
  · rintro ⟨digits, read, rfl⟩
    obtain ⟨small, letters⟩ := values_eq_ok.mp read
    have kept : ((rebase 58 256 digits).map UInt8.ofNat).map UInt8.toNat = rebase 58 256 digits := by
      rw [List.map_map]
      refine (List.map_congr_left fun d hd => ?_).trans (List.map_id _)
      exact UInt8.toNat_ofNat_of_lt' (Radix.lt_of_mem_rebase (by decide) hd)
    rw [kept, Radix.rebase_rebase (by decide) (by decide) small, ← letters, String.ofList_toList]
  · rintro rfl
    have small : ∀ d ∈ bytes.map UInt8.toNat, d < 256 := fun _ => Bytes.lt_of_mem_map_toNat
    refine ⟨rebase 256 58 (bytes.map UInt8.toNat), values_eq_ok.mpr ⟨?_, ?_⟩, ?_⟩
    · intro d hd
      exact Radix.lt_of_mem_rebase (by decide) hd
    · exact String.toList_ofList
    · rw [Radix.rebase_rebase (by decide) (by decide) small, List.map_map]
      refine ((List.map_congr_left fun b _ => ?_).trans (List.map_id _)).symm
      exact UInt8.ofNat_toNat

end Base58

end SwapPayout
