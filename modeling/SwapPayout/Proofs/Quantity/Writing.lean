import SwapPayout.Proofs.Quantity.Parsing
import SwapPayout.Proofs.Radix

/-!
# Quantities in text, read back

The text of a quantity has the digits of its mantissa without the zeros at their end, and a point
where the exponent wants it: behind further zeros, among the digits, or before them and some zeros.
Whichever of the three it is, the text is a decimal without an exponent
(`exists_decimal_of_positional`), and what it denotes is the quantity itself
(`exists_decimal_of_text`). It is short enough to be counted, so it is rounded as that number; and
a quantity is rounded to itself. So what is written is read back as it was (`parse_text`).
-/

namespace SwapPayout.Quantity

open Text (Sign)

/-! ## Digits -/

/-- Digits in text spell the number that they are. -/
theorem ofDigitChars_map_digitChar {digits : List Nat} (all : ∀ d ∈ digits, d < 10) :
    Nat.ofDigitChars 10 (digits.map Nat.digitChar) 0 = Radix.ofDigits 10 digits := by
  suffices ∀ n, Nat.ofDigitChars 10 (digits.map Nat.digitChar) n =
      digits.foldl (fun n d => n * 10 + d) n from this 0
  induction digits with
  | nil => exact fun _ => rfl
  | cons d digits ih =>
    obtain ⟨first, others⟩ := List.forall_mem_cons.mp all
    intro n
    rw [List.map_cons, Nat.ofDigitChars_cons_digitChar_of_lt_ten first, List.foldl_cons, ih others,
      Nat.mul_comm]

/-- Only zeros are cut off. -/
theorem leadingDigits_append (digits : List Nat) :
    leadingDigits digits ++
      List.replicate (digits.length - (leadingDigits digits).length) 0 = digits := by
  obtain ⟨zeros, same⟩ : ∃ zeros, digits.reverse.takeWhile (· == 0) = List.replicate zeros 0 := by
    refine ⟨_, List.eq_replicate_of_mem fun d member => ?_⟩
    exact beq_iff_eq.mp (List.all_eq_true.mp List.all_takeWhile d member)
  have whole : digits = leadingDigits digits ++ List.replicate zeros 0 := by
    rw [leadingDigits, ← List.reverse_replicate, ← same, ← List.reverse_append,
      List.takeWhile_append_dropWhile, List.reverse_reverse]
  have length := congrArg List.length whole
  rw [List.length_append, List.length_replicate] at length
  rw [length, Nat.add_sub_cancel_left]
  exact whole.symm

theorem mem_of_mem_leadingDigits {digits : List Nat} {d : Nat} (h : d ∈ leadingDigits digits) :
    d ∈ digits := by
  rw [← leadingDigits_append digits]
  exact List.mem_append_left _ h

theorem length_leadingDigits_le (digits : List Nat) :
    (leadingDigits digits).length ≤ digits.length := by
  have whole := congrArg List.length (leadingDigits_append digits)
  rw [List.length_append] at whole
  exact (Nat.le_add_right _ _).trans whole.le

/-- What is cut off is a power of ten. -/
theorem ofDigits_leadingDigits (digits : List Nat) :
    Radix.ofDigits 10 (leadingDigits digits) *
      10 ^ (digits.length - (leadingDigits digits).length) = Radix.ofDigits 10 digits := by
  have zeros (k : Nat) : Radix.ofDigits 10 (List.replicate k 0) = 0 := by
    have same := @Radix.ofDigits_replicate_zero_append 10 k []
    rwa [List.append_nil] at same
  conv_rhs => rw [← leadingDigits_append digits]
  rw [Radix.ofDigits_append, zeros, List.length_replicate, Nat.add_zero]

/-! ## Positions -/

/-- A decimal without an exponent. -/
def Decimal.plain (sign : Sign) (whole : List Char) (fraction : Option (List Char))
    (filled : whole ++ fraction.getD [] ≠ [])
    (all : ∀ c ∈ whole ++ fraction.getD [], c.isDigit = true) : Decimal :=
  ⟨sign, whole, fraction, none, filled, all⟩

namespace Decimal

variable {sign : Sign} {whole : List Char} {fraction : Option (List Char)}
  {filled : whole ++ fraction.getD [] ≠ []}
  {all : ∀ c ∈ whole ++ fraction.getD [], c.isDigit = true}

theorem chars_plain : (plain sign whole fraction filled all).chars =
    sign.chars ++ (whole ++ fraction.elim [] ('.' :: ·)) := by
  show sign.chars ++ (_ ++ []) = _
  rw [List.append_nil]
  rfl

theorem magnitude_plain : (plain sign whole fraction filled all).magnitude =
    Nat.ofDigitChars 10 (whole ++ fraction.getD []) 0 *
      10 ^ (-((fraction.getD []).length : Int)) := by
  show _ * (10 : ℚ) ^ (0 - _ : Int) = _
  rw [zero_sub]
  rfl

end Decimal

/-- **Digits are laid out as a decimal** without an exponent, which denotes them times the power of
ten. -/
theorem exists_decimal_of_positional (sign : Sign) {digits : List Char} (filled : digits ≠ [])
    (all : ∀ c ∈ digits, c.isDigit = true) (e : Int) :
    ∃ d : Decimal, sign.chars ++ positional digits e = d.chars ∧ d.sign = sign ∧
      d.exponent = none ∧ d.magnitude = Nat.ofDigitChars 10 digits 0 * 10 ^ e := by
  have zeros (k : Nat) : ∀ c ∈ List.replicate k '0', c.isDigit = true := by
    intro c member
    rw [List.eq_of_mem_replicate member]
    rfl
  unfold positional
  split
  · -- The point would stand behind further zeros, and is left out.
    next nonneg =>
    obtain ⟨k, rfl⟩ := Int.eq_ofNat_of_zero_le nonneg
    refine ⟨.plain sign (digits ++ List.replicate k '0') none ?_ ?_, ?_, rfl, rfl, ?_⟩
    · simpa using fun none => absurd none filled
    · simpa using List.forall_mem_append.mpr ⟨all, zeros k⟩
    · rw [Decimal.chars_plain, Int.toNat_natCast, Option.elim_none, List.append_nil]
    · rw [Decimal.magnitude_plain, Option.getD_none, List.append_nil, Nat.ofDigitChars_append,
        Nat.ofDigitChars_replicate_zero, List.length_nil, Nat.cast_zero, neg_zero, zpow_zero,
        mul_one, zpow_natCast]
      push_cast
      exact mul_comm _ _
  dsimp only
  split
  · -- The point stands among the digits.
    next inside =>
    have whole := List.take_append_drop (digits.length - e.natAbs) digits
    refine ⟨.plain sign (digits.take (digits.length - e.natAbs))
      (some (digits.drop (digits.length - e.natAbs))) ?_ ?_, ?_, rfl, rfl, ?_⟩
    · rw [Option.getD_some, whole]
      exact filled
    · rw [Option.getD_some, whole]
      exact all
    · rw [Decimal.chars_plain, Option.elim_some]
    · rw [Decimal.magnitude_plain, Option.getD_some, whole, List.length_drop]
      congr 2
      omega
  · -- The point stands before some zeros.
    next outside =>
    refine ⟨.plain sign ['0'] (some (List.replicate (e.natAbs - digits.length) '0' ++ digits))
      ?_ ?_, ?_, rfl, rfl, ?_⟩
    · exact List.cons_ne_nil _ _
    · exact List.forall_mem_append.mpr ⟨List.forall_mem_singleton.mpr rfl,
        List.forall_mem_append.mpr ⟨zeros _, all⟩⟩
    · rw [Decimal.chars_plain, Option.elim_some]
      rfl
    · rw [Decimal.magnitude_plain, Option.getD_some, List.singleton_append, ← List.cons_append,
        ← List.replicate_succ, Nat.ofDigitChars_append, Nat.ofDigitChars_replicate_zero,
        Nat.mul_zero, List.length_append, List.length_replicate]
      congr 2
      omega

theorem length_positional_le (digits : List Char) (e : Int) :
    (positional digits e).length ≤ digits.length + e.natAbs + 2 := by
  unfold positional
  split
  · rw [List.length_append, List.length_replicate]
    omega
  dsimp only
  split
  · rw [List.length_append, List.length_cons, List.length_take, List.length_drop]
    omega
  · rw [List.length_append, List.length_cons, List.length_cons, List.length_replicate]
    omega

/-! ## Quantities -/

def writtenSign (q : Quantity) : Sign := if q.negative then .minus else .absent

/-- The digits that are written of a quantity. -/
def writtenDigits (q : Quantity) : List Nat := leadingDigits (Radix.toDigits 10 q.mantissa)

/-- The power of ten that these digits are to be multiplied with. -/
def writtenExponent (q : Quantity) : Int :=
  q.exponent + ((Radix.toDigits 10 q.mantissa).length - q.writtenDigits.length : Nat)

variable {q : Quantity}

theorem isNegative_writtenSign (q : Quantity) : q.writtenSign.isNegative = q.negative := by
  unfold writtenSign
  cases q.negative <;> rfl

theorem toList_text (full : q.isFull) :
    q.text.toList = q.writtenSign.chars ++
      positional (q.writtenDigits.map Nat.digitChar) q.writtenExponent := by
  unfold text writtenSign
  rw [if_neg (not_isZero full)]
  dsimp only
  rw [String.toList_ofList]
  cases q.negative <;> rfl

/-- The digits that are written are the magnitude. -/
theorem ofDigits_writtenDigits (q : Quantity) :
    (Radix.ofDigits 10 q.writtenDigits : ℚ) * 10 ^ q.writtenExponent = q.magnitude := by
  have number : Radix.ofDigits 10 q.writtenDigits *
      10 ^ ((Radix.toDigits 10 q.mantissa).length - q.writtenDigits.length) = q.mantissa :=
    (ofDigits_leadingDigits _).trans (Radix.ofDigits_toDigits 10 (by decide) _)
  unfold magnitude
  rw [← number, writtenExponent, zpow_add₀ (by norm_num), zpow_natCast]
  push_cast
  ring

theorem lt_ten_of_mem_writtenDigits {d : Nat} (h : d ∈ q.writtenDigits) : d < 10 :=
  Radix.lt_of_mem_toDigits (by decide) (mem_of_mem_leadingDigits h)

theorem writtenDigits_ne_nil (full : q.isFull) : q.writtenDigits ≠ [] := by
  intro empty
  have same := q.ofDigits_writtenDigits
  rw [empty, Radix.ofDigits, List.foldl_nil, Nat.cast_zero, zero_mul] at same
  exact (magnitude_pos full).ne same

/-- At most sixteen digits are written, with the point not far from them. -/
theorem writtenDigits_bounds (full : q.isFull) :
    q.writtenDigits.length ≤ 16 ∧ q.writtenExponent.natAbs ≤ 112 := by
  have sixteen : (Radix.toDigits 10 q.mantissa).length ≤ 16 :=
    (Radix.length_toDigits_le_iff (by decide)).mpr full.2
  have fewer : q.writtenDigits.length ≤ (Radix.toDigits 10 q.mantissa).length :=
    length_leadingDigits_le _
  have range := range_of_isFull full
  unfold writtenExponent
  omega

/-- **A quantity is written as a decimal** without an exponent, which denotes the quantity. -/
theorem exists_decimal_of_text (q : Quantity) :
    ∃ d : Decimal, q.text.toList = d.chars ∧ d.sign.isNegative = q.negative ∧ d.exponent = none ∧
      d.magnitude = q.magnitude ∧ d.chars.length < 200 := by
  rcases q.eq_zero_or_isFull with rfl | full
  · refine ⟨.plain .absent ['0'] none (by decide) (by simp), rfl, rfl, rfl, ?_, by decide⟩
    rw [Decimal.magnitude_plain, magnitude_zero]
    show ((0 : Nat) : ℚ) * _ = 0
    rw [Nat.cast_zero, zero_mul]
  · have filled : q.writtenDigits.map Nat.digitChar ≠ [] :=
      List.map_eq_nil_iff.not.mpr (writtenDigits_ne_nil full)
    have all : ∀ c ∈ q.writtenDigits.map Nat.digitChar, c.isDigit = true := by
      rw [List.forall_mem_map]
      intro d member
      rw [Nat.isDigit_digitChar, decide_eq_true_eq]
      exact lt_ten_of_mem_writtenDigits member
    obtain ⟨d, chars, sign, plain, magnitude⟩ :=
      exists_decimal_of_positional q.writtenSign filled all q.writtenExponent
    refine ⟨d, (toList_text full).trans chars, ?_, plain, ?_, ?_⟩
    · rw [sign, isNegative_writtenSign]
    · rw [magnitude, ofDigitChars_map_digitChar fun _ => lt_ten_of_mem_writtenDigits,
        ofDigits_writtenDigits]
    · have length := length_positional_le (q.writtenDigits.map Nat.digitChar) q.writtenExponent
      have bounds := writtenDigits_bounds full
      have one : q.writtenSign.chars.length ≤ 1 := by
        unfold writtenSign
        cases q.negative <;> decide
      rw [List.length_map] at length
      rw [← chars, List.length_append]
      omega

/-! ## Reading what is written -/

theorem isBlank_of_isDigit {c : Char} (h : c.isDigit = true) : Text.isBlank c = false := by
  obtain ⟨low, high⟩ := Char.isDigit_iff_toNat.mp h
  have zero : '0'.toNat = 48 := rfl
  have nine : '9'.toNat = 57 := rfl
  simp [Text.isBlank]
  omega

theorem isBlank_of_mem_chars {sign : Sign} {c : Char} (h : c ∈ sign.chars) :
    Text.isBlank c = false := by
  cases sign with
  | absent => cases h
  | plus => rw [List.mem_singleton.mp h]; rfl
  | minus => rw [List.mem_singleton.mp h]; rfl

/-- No character of a decimal is blank, so trimming leaves it as it is. -/
theorem Decimal.trimChars_chars (d : Decimal) : Text.trimChars d.chars = d.chars := by
  apply Text.trimChars_of_forall
  intro c member
  rcases List.mem_append.mp member with sign | unsigned
  · exact isBlank_of_mem_chars sign
  rcases List.mem_append.mp unsigned with body | behind
  · rcases d.isPlain_of_mem_body body with digit | rfl
    · exact isBlank_of_isDigit digit
    · rfl
  unfold tail at behind
  cases exponent : d.exponent with
  | none => rw [exponent] at behind; cases behind
  | some x =>
    rw [exponent] at behind
    rcases List.mem_cons.mp behind with rfl | text
    · rcases x.isMark with mark | mark <;> rw [mark] <;> rfl
    · rcases List.mem_append.mp text with sign | digit
      · exact isBlank_of_mem_chars sign
      · exact isBlank_of_isDigit (x.all c digit)

/-- **What is written is read back**: the text of a quantity is a decimal without an exponent that
denotes the quantity, and the quantity is what it is read as. -/
theorem parse_text (q : Quantity) :
    (∃ d : Decimal, q.text.toList = d.chars ∧ d.exponent = none ∧ d.value = q.value) ∧
      parse q.text = .ok q := by
  obtain ⟨d, text, negative, plain, magnitude, short⟩ := q.exists_decimal_of_text
  refine ⟨⟨d, text, plain, ?_⟩, ?_⟩
  · rw [Decimal.value, value, negative, magnitude]
  · have shape : Text.trimChars q.text.toList = d.chars := by rw [text, d.trimChars_chars]
    have shift : d.shift = 0 := by rw [Decimal.shift, plain, Option.elim_none]
    have rounded := rounded_parse shape (by rw [shift]; omega)
    rw [negative, d.abs_value, magnitude] at rounded
    exact rounded.eq_self

example : text ⟨true, 1050000000000000, -18, .inr (by decide)⟩ = "-0.00105" := by decide +kernel

end SwapPayout.Quantity
