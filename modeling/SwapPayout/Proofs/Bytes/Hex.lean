import SwapPayout.Key.Scheme
import SwapPayout.Proofs.Bytes.Text
import SwapPayout.Proofs.Outcome
import SwapPayout.Proofs.Radix

/-!
# Hexadecimal text that was read

A text that is read as bytes consists of digits, two for each byte, and is what is written for these
bytes up to the case of its letters (`Hex.upper_of_decode`), and every such text is read
(`Hex.decode_eq_ok`). So of a byte string there is one text in upper case, and two texts that read
alike differ only in case.

A marker in front counts for nothing, and no written text has one (`Hex.withoutMarker_of_isDigit`):
the texts of a byte string are its digits, in either case, behind an optional marker
(`Hex.spells_iff`).
-/

namespace SwapPayout

namespace Hex

/-! ## Digits -/

theorem toNat_lt_of_isDigit {c : Char} (h : isDigit c = true) : c.toNat < 128 := by
  have small : c.val ≤ 127 := Char.utf8Size_eq_one_iff.mp (utf8Size_of_isDigit h)
  exact Nat.lt_succ_of_le (UInt32.le_iff_toNat_le.mp small)

/-- A digit in upper case is the one that is written for its value. -/
theorem upperDigit_of_digitValue? {c : Char} {n : Nat} (h : digitValue? c = some n) :
    n < 16 ∧ upperDigit n = c.toUpper := by
  have ascii : c.toNat < 128 := toNat_lt_of_isDigit (by rw [isDigit, h]; rfl)
  exact Bytes.forall_ascii (p := fun c => ∀ v ∈ digitValue? c, v < 16 ∧ upperDigit v = c.toUpper)
    (by decide) ascii n h

/-- No character beyond the first 128 has one of these in upper case. -/
theorem toNat_lt_of_toUpper {c : Char} (h : c.toUpper.toNat < 128) : c.toNat < 128 := by
  unfold Char.toUpper at h
  split at h
  · next letter =>
    have last : c.toNat ≤ 122 := UInt32.le_iff_toNat_le.mp letter.2
    omega
  · exact h

/-- What is written for a value, in either case, is a digit of that value. -/
theorem digitValue?_of_toUpper {c : Char} {n : Nat} (small : n < 16)
    (h : c.toUpper = upperDigit n) : digitValue? c = some n := by
  have digit : isDigit (upperDigit n) = true := by
    rw [isDigit, writesDigits_upperDigit n small]
    rfl
  have ascii : c.toNat < 128 := toNat_lt_of_toUpper (by rw [h]; exact toNat_lt_of_isDigit digit)
  exact Bytes.forall_ascii
    (p := fun c => ∀ n < 16, c.toUpper = upperDigit n → digitValue? c = some n)
    (by decide +kernel) ascii n small h

/-- The values of the digits of a byte string. -/
def nibbles (bs : Bytes) : List Nat := bs.flatMap fun b => [b.toNat / 16, b.toNat % 16]

theorem digits_eq_map (digit : Nat → Char) (bs : Bytes) :
    digits digit bs = (nibbles bs).map digit := by
  rw [digits, nibbles, List.map_flatMap]
  rfl

theorem lt_of_mem_nibbles {bs : Bytes} {d : Nat} (hd : d ∈ nibbles bs) : d < 16 := by
  obtain ⟨b, -, hd⟩ := List.mem_flatMap.mp hd
  have byte : b.toNat < 256 := b.toNat_lt
  rcases List.mem_pair.mp hd with rfl | rfl
  · omega
  · omega

@[simp] theorem length_nibbles (bs : Bytes) : (nibbles bs).length = 2 * bs.length := by
  rw [← length_digits upperDigit, digits_eq_map, List.length_map]

/-- The digits of a byte string spell its number. -/
theorem ofDigits_nibbles (bs : Bytes) : Radix.ofDigits 16 (nibbles bs) = Bytes.toNat bs := by
  induction bs with
  | nil => rfl
  | cons b bs ih =>
    have pair : Radix.ofDigits 16 [b.toNat / 16, b.toNat % 16] = b.toNat := by
      simp only [Radix.ofDigits, List.foldl_cons, List.foldl_nil]
      omega
    rw [nibbles, List.flatMap_cons, Radix.ofDigits_append, pair]
    show b.toNat * 16 ^ (nibbles bs).length + Radix.ofDigits 16 (nibbles bs) = _
    rw [ih, length_nibbles, Nat.pow_mul, Bytes.toNat_cons]

/-- Digits two by two are bytes, and these are written in upper case. -/
theorem digits_pairUp : ∀ {cs : List Char}, (∀ c ∈ cs, isDigit c = true) → cs.length % 2 = 0 →
    digits upperDigit (Bytes.pairUp joinDigits cs) = cs.map Char.toUpper
  | [], _, _ => rfl
  | [_], _, even => by simp at even
  | a :: b :: rest, all, even => by
    obtain ⟨first, second, others⟩ : isDigit a = true ∧ isDigit b = true ∧
        ∀ c ∈ rest, isDigit c = true := by simpa using all
    obtain ⟨high, high_eq⟩ := Option.isSome_iff_exists.mp first
    obtain ⟨low, low_eq⟩ := Option.isSome_iff_exists.mp second
    obtain ⟨high_lt, upper_a⟩ := upperDigit_of_digitValue? high_eq
    obtain ⟨low_lt, upper_b⟩ := upperDigit_of_digitValue? low_eq
    have joined : (joinDigits a b).toNat = high * 16 + low := by
      simp only [joinDigits, high_eq, low_eq, Option.getD_some, UInt8.toNat_ofNat']
      omega
    have even' : rest.length % 2 = 0 := by
      simp only [List.length_cons] at even
      omega
    have ih := digits_pairUp others even'
    rw [Bytes.pairUp_cons_cons]
    simp only [digits, List.flatMap_cons, joined] at ih ⊢
    rw [ih, show (high * 16 + low) / 16 = high by omega, show (high * 16 + low) % 16 = low by omega,
      upper_a, upper_b]
    rfl

/-! ## Reading -/

theorem isDigit_of_firstStray? {offset : Nat} {cs : List Char} (h : firstStray? offset cs = none) :
    ∀ c ∈ cs, isDigit c = true := by
  induction cs generalizing offset with
  | nil => exact fun c hc => absurd hc List.not_mem_nil
  | cons c cs ih =>
    unfold firstStray? at h
    split at h
    · next digit => exact List.forall_mem_cons.mpr ⟨digit, ih h⟩
    · cases h

/-- What is read as bytes are their digits, two for each. -/
theorem digits_of_decode {text : String} {bytes : Bytes} (h : decode text = .ok bytes) :
    (∀ c ∈ text.toList, isDigit c = true) ∧ text.utf8ByteSize % 2 = 0 ∧
      bytes = Bytes.pairUp joinDigits text.toList := by
  obtain ⟨even, h⟩ := ite_error_eq_ok.mp h
  cases stray : firstStray? 0 text.toList with
  | some found =>
    rw [stray] at h
    cases h
  | none =>
    rw [stray] at h
    cases h
    exact ⟨isDigit_of_firstStray? stray, by omega, rfl⟩

/-- **What is read as bytes is what is written for them**, up to the case of letters. -/
theorem upper_of_decode {text : String} {bytes : Bytes} (h : decode text = .ok bytes) :
    upper bytes = text.toUpper := by
  obtain ⟨all, even, rfl⟩ := digits_of_decode h
  have size := utf8ByteSize_of_isDigit all
  rw [String.ofList_toList] at size
  apply String.toList_inj.mp
  rw [upper, String.toList_ofList, digits_pairUp all (by omega)]
  exact String.toList_map.symm

theorem upper_inj {bs bs' : Bytes} : upper bs = upper bs' ↔ bs = bs' := by
  refine ⟨fun same => ?_, congrArg upper⟩
  have read := decode_upper bs'
  rw [← same, decode_upper] at read
  exact Except.ok.inj read

/-- **A text is read as bytes when it is what is written for them**, in either case. -/
theorem decode_eq_ok {text : String} {bytes : Bytes} :
    decode text = .ok bytes ↔ text.toUpper = upper bytes := by
  refine ⟨fun h => (upper_of_decode h).symm, fun h => ?_⟩
  have written := congrArg String.toList h
  rw [String.toUpper, String.toList_map, upper, String.toList_ofList, digits_eq_map] at written
  have all : ∀ c ∈ text.toList, isDigit c = true := by
    intro c member
    have image : c.toUpper ∈ (nibbles bytes).map upperDigit := by
      rw [← written]
      exact List.mem_map_of_mem member
    obtain ⟨n, nibble, same⟩ := List.mem_map.mp image
    rw [isDigit, digitValue?_of_toUpper (lt_of_mem_nibbles nibble) same.symm]
    rfl
  have size := utf8ByteSize_of_isDigit all
  have length := congrArg List.length written
  rw [String.ofList_toList] at size
  rw [List.length_map, List.length_map, length_nibbles] at length
  have read : decode text = .ok (Bytes.pairUp joinDigits text.toList) := by
    rw [decode, if_neg (by omega), firstStray?_eq_none all]
  -- What was read is written as the text is, up to case, so it is no other byte string.
  rw [read]
  exact congrArg Except.ok (upper_inj.mp ((upper_of_decode read).trans h))

theorem length_of_decode {text : String} {bytes : Bytes} (h : decode text = .ok bytes) :
    text.toList.length = 2 * bytes.length := by
  have written := congrArg List.length (congrArg String.toList (upper_of_decode h))
  rw [upper, String.toList_ofList, length_digits, String.toUpper, String.toList_map,
    List.length_map] at written
  exact written.symm

theorem utf8ByteSize_of_decode {text : String} {bytes : Bytes} (h : decode text = .ok bytes) :
    text.utf8ByteSize = 2 * bytes.length := by
  obtain ⟨all, -, -⟩ := digits_of_decode h
  have size := utf8ByteSize_of_isDigit all
  rw [String.ofList_toList, length_of_decode h] at size
  exact size

/-! ## Markers -/

/-- No digit is the second character of a marker. -/
theorem withoutMarker_of_isDigit {cs : List Char} (all : ∀ c ∈ cs, isDigit c = true) :
    withoutMarker (String.ofList cs) = String.ofList cs := by
  unfold withoutMarker
  rw [String.toList_ofList]
  split
  · next marked => exact absurd (all 'x' (by simp)) (by decide)
  · next marked => exact absurd (all 'X' (by simp)) (by decide)
  · rfl

/-- What may stand in front of digits. -/
def markers : List String := ["", "0x", "0X"]

/-- A text spells bytes: it is what is written for them, in either case, behind an optional
marker. -/
def Spells (text : String) (bytes : Bytes) : Prop :=
  ∃ marker ∈ markers, ∃ digits : String, text = marker ++ digits ∧ digits.toUpper = upper bytes

/-- A text is its digits behind what may stand in front of them. -/
theorem exists_marker (text : String) : ∃ marker ∈ markers, text = marker ++ withoutMarker text := by
  unfold withoutMarker
  split
  · next rest chars =>
    exact ⟨"0x", by decide, String.toList_inj.mp (by simp [chars])⟩
  · next rest chars =>
    exact ⟨"0X", by decide, String.toList_inj.mp (by simp [chars])⟩
  · exact ⟨"", by decide, String.empty_append.symm⟩

theorem withoutMarker_append {marker digits : String} (known : marker ∈ markers)
    (all : ∀ c ∈ digits.toList, isDigit c = true) : withoutMarker (marker ++ digits) = digits := by
  have plain : String.ofList digits.toList = digits := String.ofList_toList
  simp only [markers, List.mem_cons, List.not_mem_nil, or_false] at known
  rcases known with rfl | rfl | rfl
  · rw [String.empty_append, ← plain]
    exact withoutMarker_of_isDigit all
  · rw [withoutMarker, String.toList_append]
    exact plain
  · rw [withoutMarker, String.toList_append]
    exact plain

/-- **A text is read as bytes when it spells them.** -/
theorem spells_iff {text : String} {bytes : Bytes} :
    Spells text bytes ↔ decode (withoutMarker text) = .ok bytes := by
  constructor
  · rintro ⟨marker, known, digits, rfl, same⟩
    have read := decode_eq_ok.mpr same
    rw [withoutMarker_append known (digits_of_decode read).1]
    exact read
  · intro read
    obtain ⟨marker, known, cut⟩ := exists_marker text
    exact ⟨marker, known, _, cut, decode_eq_ok.mp read⟩

end Hex

/-! ## Texts with an optional marker -/

theorem readHex_eq_ok {text : String} {bytes : Bytes} :
    readHex text = .ok bytes ↔ Hex.decode (Hex.withoutMarker text) = .ok bytes :=
  mapError_eq_ok

theorem readHex_upper (bytes : Bytes) : readHex (Hex.upper bytes) = .ok bytes := by
  rw [readHex_eq_ok, Hex.upper, Hex.withoutMarker_of_isDigit]
  · exact Hex.decode_upper bytes
  · exact fun _ => Hex.isDigit_of_mem_digits Hex.writesDigits_upperDigit bytes

end SwapPayout
