import SwapPayout.Bytes

/-!
# Hexadecimal text

Two digits a byte. Writing comes in both cases of the letters; reading accepts either case and
nothing else, and says what stopped it: a half byte left over is noticed first, then the leftmost
byte of the text that is no digit.

`decode_upper` and `decode_lower` say that what is written reads back.
-/

namespace SwapPayout.Hex

/-! ## Digits -/

/-- The digits in value order, letters in upper case. -/
def upperDigit (n : Nat) : Char :=
  if n < 10 then Char.ofNat (48 + n) else Char.ofNat (55 + n)

/-- The digits in value order, letters in lower case. -/
def lowerDigit (n : Nat) : Char :=
  if n < 10 then Char.ofNat (48 + n) else Char.ofNat (87 + n)

/-- The value of a digit of either case. -/
def digitValue? (c : Char) : Option Nat :=
  if '0' ≤ c ∧ c ≤ '9' then some (c.toNat - 48)
  else if 'A' ≤ c ∧ c ≤ 'F' then some (c.toNat - 55)
  else if 'a' ≤ c ∧ c ≤ 'f' then some (c.toNat - 87)
  else none

/-- Is this a digit, of either case? -/
def isDigit (c : Char) : Bool := (digitValue? c).isSome

/-! ## Writing -/

def digits (digit : Nat → Char) (bs : Bytes) : List Char :=
  bs.flatMap fun b => [digit (b.toNat / 16), digit (b.toNat % 16)]

def upper (bs : Bytes) : String := String.ofList (digits upperDigit bs)

def lower (bs : Bytes) : String := String.ofList (digits lowerDigit bs)

/-! ## Reading -/

/-- Why a text is no hexadecimal byte string. -/
inductive Error where
  /-- The text has an odd number of bytes. -/
  | halfByte
  /-- The byte of the text at this offset is no digit. -/
  | strayByte (byte : UInt8) (offset : Nat)
  deriving Repr, DecidableEq

/-- The first character that is no digit, with the number of bytes before it. -/
def firstStray? : (offset : Nat) → List Char → Option (Char × Nat)
  | _, [] => none
  | offset, c :: rest =>
    if isDigit c then firstStray? (offset + c.utf8Size) rest else some (c, offset)

def joinDigits (high low : Char) : UInt8 :=
  UInt8.ofNat ((digitValue? high).getD 0 * 16 + (digitValue? low).getD 0)

/-- The bytes that a text in digits of either case stands for. -/
def decode (text : String) : Except Error Bytes :=
  if text.utf8ByteSize % 2 = 1 then .error .halfByte
  else match firstStray? 0 text.toList with
    | some (c, offset) => .error (.strayByte ((String.utf8EncodeChar c).headD 0) offset)
    | none => .ok (Bytes.pairUp joinDigits text.toList)

/-- The text without one leading hexadecimal marker, `0x` or `0X`. -/
def withoutMarker (text : String) : String :=
  match text.toList with
  | '0' :: 'x' :: rest => String.ofList rest
  | '0' :: 'X' :: rest => String.ofList rest
  | _ => text

/-! ## What is written reads back -/

/-- A function that writes each value below sixteen as a digit that reads back. -/
def WritesDigits (digit : Nat → Char) : Prop := ∀ n < 16, digitValue? (digit n) = some n

theorem writesDigits_upperDigit : WritesDigits upperDigit := by unfold WritesDigits; decide

theorem writesDigits_lowerDigit : WritesDigits lowerDigit := by unfold WritesDigits; decide

theorem utf8Size_of_isDigit {c : Char} (h : isDigit c = true) : c.utf8Size = 1 := by
  have ascii : c.val ≤ 127 := by
    unfold isDigit digitValue? at h
    split at h
    · next d => exact UInt32.le_trans d.2 (by decide)
    · split at h
      · next d => exact UInt32.le_trans d.2 (by decide)
      · split at h
        · next d => exact UInt32.le_trans d.2 (by decide)
        · cases h
  exact Char.utf8Size_eq_one_iff.mpr ascii

theorem utf8ByteSize_of_isDigit {cs : List Char} (h : ∀ c ∈ cs, isDigit c = true) :
    (String.ofList cs).utf8ByteSize = cs.length := by
  induction cs with
  | nil => rfl
  | cons c cs ih =>
    rw [String.ofList_cons, String.utf8ByteSize_append, String.utf8ByteSize_singleton,
      utf8Size_of_isDigit (h c (by simp)), ih fun c mem => h c (by simp [mem]), List.length_cons,
      Nat.add_comm]

/-- Among digits alone nothing is astray. -/
theorem firstStray?_eq_none {cs : List Char} (h : ∀ c ∈ cs, isDigit c = true) (offset : Nat) :
    firstStray? offset cs = none := by
  induction cs generalizing offset with
  | nil => rfl
  | cons c cs ih =>
    rw [firstStray?, if_pos (h c (by simp))]
    exact ih (fun c mem => h c (by simp [mem])) _

theorem length_digits (digit : Nat → Char) (bs : Bytes) :
    (digits digit bs).length = 2 * bs.length := by
  induction bs with
  | nil => rfl
  | cons b bs ih =>
    show (digits digit bs).length + 2 = 2 * (bs.length + 1)
    rw [ih, Nat.mul_add]

section

variable {digit : Nat → Char} (h : WritesDigits digit)
include h

theorem digitValue?_high (b : UInt8) :
    digitValue? (digit (b.toNat / 16)) = some (b.toNat / 16) :=
  h _ (by have := b.toNat_lt; omega)

theorem digitValue?_low (b : UInt8) :
    digitValue? (digit (b.toNat % 16)) = some (b.toNat % 16) :=
  h _ (Nat.mod_lt _ (by decide))

theorem isDigit_of_mem_digits (bs : Bytes) {c : Char} (mem : c ∈ digits digit bs) :
    isDigit c = true := by
  obtain ⟨b, -, hc⟩ := List.mem_flatMap.mp mem
  rw [List.mem_cons, List.mem_singleton] at hc
  rcases hc with rfl | rfl
  · rw [isDigit, digitValue?_high h]; rfl
  · rw [isDigit, digitValue?_low h]; rfl

theorem joinDigits_digits (b : UInt8) :
    joinDigits (digit (b.toNat / 16)) (digit (b.toNat % 16)) = b := by
  simp [joinDigits, digitValue?_high h, digitValue?_low h, Nat.div_add_mod']

theorem pairUp_digits (bs : Bytes) : Bytes.pairUp joinDigits (digits digit bs) = bs := by
  induction bs with
  | nil => rfl
  | cons b bs ih =>
    rw [digits, List.flatMap_cons, List.cons_append, List.cons_append, List.nil_append,
      Bytes.pairUp_cons_cons, joinDigits_digits h]
    exact congrArg (b :: ·) ih

theorem decode_digits (bs : Bytes) : decode (String.ofList (digits digit bs)) = .ok bs := by
  have all : ∀ c ∈ digits digit bs, isDigit c = true := fun _ => isDigit_of_mem_digits h bs
  rw [decode, utf8ByteSize_of_isDigit all, length_digits, if_neg (by omega), String.toList_ofList,
    firstStray?_eq_none all]
  exact congrArg Except.ok (pairUp_digits h bs)

end

theorem decode_upper (bs : Bytes) : decode (upper bs) = .ok bs :=
  decode_digits writesDigits_upperDigit bs

theorem decode_lower (bs : Bytes) : decode (lower bs) = .ok bs :=
  decode_digits writesDigits_lowerDigit bs

end SwapPayout.Hex
