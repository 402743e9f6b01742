import Mathlib.Data.List.TakeWhile
import Mathlib.Tactic.FieldSimp
import SwapPayout.Drops
import SwapPayout.Proofs.Amount.Form
import SwapPayout.Proofs.Quantity.Parsing
import SwapPayout.Proofs.Radix

/-!
# Drops, as they are written

A number of drops is written in digits. A number with a point counts units of a million drops, and
has six digits behind the point at most. `parse_written` says of each text whether it is accepted,
and as how many drops.

What is accepted is the number that is written, with two exceptions (`Reads`). The whole part is
read with its sign, as a number of its own, and the digits behind the point are added to it; so a
minus sign in front of a zero is lost, and less than nothing is read as that much
(`owedHalf_accepted`). And a point on its own is read as nothing.

The sum is computed in words of 64 bits. What does not fit them is no amount of drops, so testing
for it makes no difference (`parseInWords_eq`).

A fee is configured as a number of drops and pinned as its digits. Such a text is read back as the
number, and it is refused only where there cannot be so many (`parse_toString`).
-/

namespace SwapPayout.Drops

open Quantity (Decimal digitOf)
open Text (Sign)

/-! ## Decimals that count drops -/

/-- A decimal in the form of drops: without an exponent, with few enough digits behind the point,
and with a digit between a sign and the point. -/
structure InForm (d : Decimal) : Prop where
  plain : d.exponent = none
  few : (d.fraction.getD []).length ≤ places
  signed : d.whole = [] → d.sign = .absent

/-- The number of drops that a decimal denotes; with a point it counts units. -/
def denoted (d : Decimal) : ℚ := if d.fraction.isSome then 10 ^ 6 * d.value else d.value

/-- The digits before the point, as a number. -/
def wholes (d : Decimal) : Nat := Nat.ofDigitChars 10 d.whole 0

/-- **What a text is read as.** -/
inductive Reads (text : String) (drops : Int) : Prop where
  /-- A number without a minus sign is read as it is. -/
  | number (d : Decimal) (shape : text.toList = d.chars) (form : InForm d)
      (unsigned : d.sign ≠ .minus) (exact : (drops : ℚ) = denoted d)
  /-- In front of no unit a minus sign is lost. -/
  | negated (d : Decimal) (shape : text.toList = d.chars) (form : InForm d)
      (minus : d.sign = .minus) (none : wholes d = 0) (opposite : (drops : ℚ) = -denoted d)
  /-- A point on its own is nothing. -/
  | point (alone : text = ".") (nothing : drops = 0)

/-! ## Behind the point -/

/-- The drops that the digits behind the point count: they are filled up with zeros. -/
def behind (fraction : List Char) : Nat :=
  Radix.ofDigits 10 (fraction.map digitOf ++ List.replicate (places - fraction.length) 0)

theorem ofDigits_map_digitOf (digits : List Char) :
    Radix.ofDigits 10 (digits.map digitOf) = Nat.ofDigitChars 10 digits 0 := by
  rw [Radix.ofDigits, List.foldl_map, Nat.ofDigitChars_eq_foldl]
  congr 1
  funext n c
  rw [Nat.mul_comm]
  rfl

theorem behind_eq (fraction : List Char) :
    behind fraction = Nat.ofDigitChars 10 fraction 0 * 10 ^ (places - fraction.length) := by
  have zeros : Radix.ofDigits 10 (List.replicate (places - fraction.length) 0) = 0 := by
    rw [← List.append_nil (List.replicate _ _), Radix.ofDigits_replicate_zero_append]
    rfl
  rw [behind, Radix.ofDigits_append, List.length_replicate, zeros, ofDigits_map_digitOf,
    Nat.add_zero]

theorem behind_lt {fraction : List Char} (all : ∀ c ∈ fraction, c.isDigit = true)
    (few : fraction.length ≤ places) : behind fraction < 10 ^ 6 := by
  have filled :
      (fraction.map digitOf ++ List.replicate (places - fraction.length) 0).length = 6 := by
    rw [List.length_append, List.length_map, List.length_replicate]
    exact Nat.add_sub_of_le few
  rw [behind, ← filled]
  refine Radix.ofDigits_lt (by decide) fun d member => ?_
  rcases List.mem_append.mp member with digit | zero
  · exact Quantity.lt_ten_of_mem_digits all d digit
  · rw [List.eq_of_mem_replicate zero]
    decide

/-- The drops of a decimal, whatever its sign. -/
def counted (d : Decimal) : Nat :=
  d.fraction.elim (wholes d) fun fraction => wholes d * 10 ^ 6 + behind fraction

/-- A decimal counts so many drops as its digits say, on either side of zero. -/
theorem denoted_eq {d : Decimal} (form : InForm d) :
    denoted d = if d.sign.isNegative then -(counted d : ℚ) else counted d := by
  have magnitude : (if d.fraction.isSome then 10 ^ 6 * d.magnitude else d.magnitude) =
      (counted d : ℚ) := by
    have few := form.few
    have power : d.power = -((d.fraction.getD []).length : ℤ) := by
      rw [Decimal.power, Decimal.shift, form.plain]
      exact zero_sub _
    unfold Decimal.magnitude Decimal.number Decimal.digits counted wholes
    rw [power]
    cases point : d.fraction with
    | none => simp
    | some fraction =>
      rw [point] at few
      obtain ⟨spare, six⟩ : ∃ spare, places = fraction.length + spare :=
        Nat.exists_eq_add_of_le few
      have million : (10 : ℚ) ^ 6 = 10 ^ fraction.length * 10 ^ spare := by
        rw [← pow_add, ← six]
        rfl
      show (10 : ℚ) ^ 6 * ((Nat.ofDigitChars 10 (d.whole ++ fraction) 0 : ℕ) *
        10 ^ (-(fraction.length : ℤ))) = ((_ * 10 ^ 6 + behind fraction : ℕ) : ℚ)
      rw [Nat.ofDigitChars_append, Nat.ofDigitChars_eq_ofDigitChars_zero, behind_eq, six,
        Nat.add_sub_cancel_left, zpow_neg, zpow_natCast]
      simp only [Nat.cast_add, Nat.cast_mul, Nat.cast_pow, Nat.cast_ofNat, million]
      field_simp
  unfold denoted Decimal.value
  rw [← magnitude]
  split
  · split
    · exact mul_neg _ _
    · rfl
  · rfl

/-! ## Reading -/

/-- The whole part with its sign, as a number of its own, and the digits behind the point. -/
def readAs (d : Decimal) : Int :=
  d.fraction.elim (d.sign.apply (wholes d)) fun fraction =>
    d.sign.apply (wholes d) * perUnit + behind fraction

/-- A whole part that is not there counts as zero. -/
def units? (whole : List Char) : Option Int :=
  if whole.isEmpty then some 0 else (Text.readInt (2 ^ 63 - 1) whole).toOption

theorem units?_eq_some {whole : List Char} {u : Int} :
    units? whole = some u ↔
      ∃ (sign : Sign) (digits : List Char), whole = sign.chars ++ digits ∧
        (digits = [] → sign = .absent) ∧ (∀ c ∈ digits, c.isDigit = true) ∧
        u = sign.apply (Nat.ofDigitChars 10 digits 0) ∧ -2 ^ 63 ≤ u ∧ u < 2 ^ 63 := by
  unfold units?
  cases whole with
  | nil =>
    constructor
    · rintro ⟨⟩
      exact ⟨.absent, [], rfl, fun _ => rfl, nofun, rfl, by decide, by decide⟩
    · rintro ⟨sign, digits, empty, signed, -, rfl, -⟩
      obtain ⟨-, rfl⟩ := List.append_eq_nil_iff.mp empty.symm
      rw [signed rfl]
      rfl
  | cons c rest =>
    show (Text.readInt (2 ^ 63 - 1) (c :: rest)).toOption = some u ↔ _
    rw [toOption_eq_some, Text.readInt_eq_ok]
    constructor
    · rintro ⟨sign, digits, text, filled, all, value, low, high⟩
      exact ⟨sign, digits, text, fun empty => absurd empty filled, all, value, by omega, by omega⟩
    · rintro ⟨sign, digits, text, signed, all, value, low, high⟩
      refine ⟨sign, digits, text, ?_, all, value, by omega, by omega⟩
      rintro rfl
      rw [signed rfl] at text
      cases text

/-- The digits behind the point, where they are digits and not too many. -/
def behind? (fraction : List Char) : Option Nat :=
  if fraction.all Char.isDigit && decide (fraction.length ≤ places) then some (behind fraction)
  else none

theorem behind?_eq_some {fraction : List Char} {rest : Nat} :
    behind? fraction = some rest ↔
      (∀ c ∈ fraction, c.isDigit = true) ∧ fraction.length ≤ places ∧ rest = behind fraction := by
  rw [behind?, Option.ite_none_right_eq_some, Bool.and_eq_true, List.all_eq_true, decide_eq_true_eq,
    Option.some.injEq, eq_comm (a := rest), and_assoc]

theorem behind?_eq_none {fraction : List Char}
    (stray : ¬ ((∀ c ∈ fraction, c.isDigit = true) ∧ fraction.length ≤ places)) :
    behind? fraction = none := by
  refine Option.eq_none_iff_forall_ne_some.mpr fun rest found => stray ?_
  obtain ⟨all, few, -⟩ := behind?_eq_some.mp found
  exact ⟨all, few⟩

theorem ofDecimal?_eq (whole fraction : List Char) :
    ofDecimal? whole fraction =
      (behind? fraction).bind fun rest => (units? whole).map fun u => u * perUnit + rest := by
  unfold ofDecimal?
  cases digits : fraction.mapM Text.digitValue? with
  | none =>
    have stray : ¬ ∀ c ∈ fraction, c.isDigit = true := by
      intro all
      cases digits.symm.trans (Quantity.mapM_digitValue?_eq_some.mpr ⟨all, rfl⟩)
    rw [behind?_eq_none fun h => stray h.1]
    rfl
  | some values =>
    obtain ⟨all, rfl⟩ := Quantity.mapM_digitValue?_eq_some.mp digits
    by_cases few : fraction.length ≤ places
    · have fits : ¬ (fraction.map digitOf).length > places := by
        rw [List.length_map]
        exact Nat.not_lt.mpr few
      rw [behind?_eq_some.mpr ⟨all, few, rfl⟩, Option.bind_some]
      show (if (fraction.map digitOf).length > places then none else _) = _
      rw [if_neg fits, List.length_map]
      unfold units?
      split
      · rfl
      · cases Text.readInt (2 ^ 63 - 1) whole <;> rfl
    · have many : (fraction.map digitOf).length > places := by
        rw [List.length_map]
        exact Nat.lt_of_not_le few
      rw [behind?_eq_none fun h => few h.2]
      exact if_pos many

theorem ofDecimal?_eq_some {whole fraction : List Char} {n : Int} :
    ofDecimal? whole fraction = some n ↔
      (∀ c ∈ fraction, c.isDigit = true) ∧ fraction.length ≤ places ∧
        ∃ u, units? whole = some u ∧ n = u * perUnit + behind fraction := by
  rw [ofDecimal?_eq, Option.bind_eq_some_iff]
  constructor
  · rintro ⟨rest, counted, sum⟩
    obtain ⟨all, few, rfl⟩ := behind?_eq_some.mp counted
    obtain ⟨u, units, rfl⟩ := Option.map_eq_some_iff.mp sum
    exact ⟨all, few, u, units, rfl⟩
  · rintro ⟨all, few, u, units, rfl⟩
    exact ⟨_, behind?_eq_some.mpr ⟨all, few, rfl⟩, Option.map_eq_some_iff.mpr ⟨u, units, rfl⟩⟩

/-! ## Texts -/

/-- A text without a point is a whole number. -/
theorem read?_plain {text : List Char} (plain : ∀ c ∈ text, c ≠ '.') :
    read? text = (Text.readInt (2 ^ 63 - 1) text).toOption := by
  have whole : text.takeWhile (· != '.') = text :=
    List.takeWhile_eq_self_iff.mpr fun c member => bne_iff_ne.mpr (plain c member)
  simp only [read?, whole, List.drop_length]

/-- A text with a point is cut at its first one. -/
theorem read?_pointed {whole fraction : List Char} (plain : ∀ c ∈ whole, c ≠ '.') :
    read? (whole ++ '.' :: fraction) = ofDecimal? whole fraction := by
  simp only [read?, Text.takeWhile_cut plain, List.drop_left]

theorem chars_eq {d : Decimal} (form : InForm d) :
    d.chars = d.sign.chars ++ d.whole ++ d.fraction.elim [] ('.' :: ·) := by
  have tail : d.tail = [] := by
    rw [Decimal.tail, form.plain]
    rfl
  rw [Decimal.chars, tail, List.append_nil, Decimal.body, List.append_assoc]

/-- There is no point in front of the point. -/
theorem ne_point_of_mem {sign : Sign} {digits : List Char} (all : ∀ c ∈ digits, c.isDigit = true) :
    ∀ c ∈ sign.chars ++ digits, c ≠ '.' := by
  intro c member
  rcases List.mem_append.mp member with mark | digit
  · cases sign with
    | absent => cases mark
    | plus =>
      obtain rfl := List.mem_singleton.mp mark
      decide
    | minus =>
      obtain rfl := List.mem_singleton.mp mark
      decide
  · exact (Quantity.ne_of_isDigit (all c digit)).2.2.1

/-- **What is read is a decimal in the form of drops, or a point.** -/
theorem exists_of_read? {text : List Char} {n : Int} (h : read? text = some n) :
    (text = ['.'] ∧ n = 0) ∨ ∃ d : Decimal, text = d.chars ∧ InForm d ∧ n = readAs d := by
  rcases Text.exists_cut '.' text with plain | ⟨whole, fraction, rfl, plain⟩
  · rw [read?_plain plain, toOption_eq_some] at h
    obtain ⟨sign, digits, rfl, filled, all, rfl, -⟩ := Text.readInt_eq_ok.mp h
    let d : Decimal := ⟨sign, digits, none, none, by simpa using filled, by simpa using all⟩
    have form : InForm d := ⟨rfl, Nat.zero_le _, fun empty => absurd empty filled⟩
    refine .inr ⟨d, ?_, form, rfl⟩
    rw [chars_eq form]
    exact (List.append_nil _).symm
  · rw [read?_pointed plain] at h
    obtain ⟨all, few, _, units, rfl⟩ := ofDecimal?_eq_some.mp h
    obtain ⟨sign, digits, rfl, signed, allWhole, rfl, -⟩ := units?_eq_some.mp units
    by_cases empty : digits ++ fraction = []
    · obtain ⟨rfl, rfl⟩ := List.append_eq_nil_iff.mp empty
      rw [signed rfl]
      exact .inl ⟨rfl, by decide⟩
    · let d : Decimal :=
        ⟨sign, digits, some fraction, none, empty, List.forall_mem_append.mpr ⟨allWhole, all⟩⟩
      have form : InForm d := ⟨rfl, few, signed⟩
      exact .inr ⟨d, (chars_eq form).symm, form, rfl⟩

/-- **A decimal in the form of drops is read** when its whole part fits its word. -/
theorem read?_chars {d : Decimal} (form : InForm d) (low : -2 ^ 63 ≤ d.sign.apply (wholes d))
    (high : d.sign.apply (wholes d) < 2 ^ 63) : read? d.chars = some (readAs d) := by
  obtain ⟨allWhole, all⟩ := List.forall_mem_append.mp d.all
  have plain : ∀ c ∈ d.sign.chars ++ d.whole, c ≠ '.' := ne_point_of_mem allWhole
  have filled := d.filled
  have few := form.few
  rw [chars_eq form, readAs]
  cases point : d.fraction with
  | none =>
    rw [point] at filled
    rw [Option.elim_none, List.append_nil, read?_plain plain, toOption_eq_some, Option.elim_none,
      Text.readInt_eq_ok]
    exact ⟨d.sign, d.whole, rfl, by simpa using filled, allWhole, rfl, by omega, by omega⟩
  | some fraction =>
    rw [point] at all few
    rw [Option.elim_some, read?_pointed plain, ofDecimal?_eq_some, Option.elim_some]
    exact ⟨all, few, _, units?_eq_some.mpr
      ⟨d.sign, d.whole, rfl, form.signed, allWhole, rfl, low, high⟩, rfl⟩

/-! ## Signs -/

theorem wholes_le_counted (d : Decimal) : wholes d ≤ counted d := by
  unfold counted
  cases d.fraction with
  | none => exact le_rfl
  | some fraction =>
    rw [Option.elim_some]
    omega

/-- Without units to be negative a minus sign makes no difference to the whole part. -/
theorem apply_wholes {d : Decimal} (unsigned : d.sign = .minus → wholes d = 0) :
    d.sign.apply (wholes d) = wholes d := by
  cases sign : d.sign with
  | absent => rfl
  | plus => rfl
  | minus =>
    rw [unsigned sign]
    rfl

/-- Then all the digits are counted. -/
theorem readAs_eq {d : Decimal} (unsigned : d.sign = .minus → wholes d = 0) :
    readAs d = counted d := by
  unfold readAs counted
  rw [apply_wholes unsigned]
  cases d.fraction with
  | none => rfl
  | some fraction => exact (Nat.cast_add ..).symm

/-- Behind a minus sign the digits behind the point make up for no unit. -/
theorem wholes_eq_zero {d : Decimal} (form : InForm d) (minus : d.sign = .minus)
    (nonneg : 0 ≤ readAs d) : wholes d = 0 := by
  obtain ⟨-, all⟩ := List.forall_mem_append.mp d.all
  have few := form.few
  unfold readAs at nonneg
  rw [minus, Sign.apply] at nonneg
  cases point : d.fraction with
  | none =>
    rw [point, Option.elim_none] at nonneg
    omega
  | some fraction =>
    rw [point] at all few
    have below : behind fraction < 10 ^ 6 := behind_lt all few
    have million : perUnit = 10 ^ 6 := rfl
    rw [point, Option.elim_some, million] at nonneg
    omega

theorem isNegative_of_ne_minus {sign : Sign} (h : sign ≠ .minus) : sign.isNegative = false := by
  cases sign with
  | absent => rfl
  | plus => rfl
  | minus => exact absurd rfl h

/-- A text is read as all its digits count, where no units are negative. -/
theorem reads_iff {text : String} {drops : Int} :
    Reads text drops ↔
      (text = "." ∧ drops = 0) ∨
      ∃ d : Decimal, text.toList = d.chars ∧ InForm d ∧ (d.sign = .minus → wholes d = 0) ∧
        drops = counted d := by
  have exact_iff (d : Decimal) : (drops : ℚ) = counted d ↔ drops = counted d := by
    exact_mod_cast Iff.rfl
  constructor
  · rintro (⟨d, shape, form, unsigned, exact⟩ | ⟨d, shape, form, minus, none, opposite⟩ |
      ⟨alone, nothing⟩)
    · rw [denoted_eq form, isNegative_of_ne_minus unsigned, if_neg Bool.false_ne_true,
        exact_iff] at exact
      exact .inr ⟨d, shape, form, fun minus => absurd minus unsigned, exact⟩
    · rw [denoted_eq form, minus, Sign.isNegative, if_pos rfl, neg_neg, exact_iff] at opposite
      exact .inr ⟨d, shape, form, fun _ => none, opposite⟩
    · exact .inl ⟨alone, nothing⟩
  · rintro (⟨alone, nothing⟩ | ⟨d, shape, form, unsigned, same⟩)
    · exact .point alone nothing
    · by_cases minus : d.sign = .minus
      · refine .negated d shape form minus (unsigned minus) ?_
        rw [denoted_eq form, minus, Sign.isNegative, if_pos rfl, neg_neg, exact_iff]
        exact same
      · refine .number d shape form minus ?_
        rw [denoted_eq form, isNegative_of_ne_minus minus, if_neg Bool.false_ne_true, exact_iff]
        exact same

/-! ## Acceptance -/

theorem parse_eq_ok {text : String} {drops : Int} :
    parse text = .ok drops ↔
      read? text.toList = some drops ∧ 0 ≤ drops ∧ drops ≤ 10 ^ 17 := by
  rw [← Amount.areDrops_iff, ← Option.filter_eq_some_iff]
  unfold parse
  split
  · next found => rw [found, Except.ok.injEq, Option.some.injEq]
  · next none => simp [none]

theorem areDrops_of_parse {text : String} {drops : Int} (h : parse text = .ok drops) :
    Amount.areDrops drops = true :=
  Amount.areDrops_iff.mpr (parse_eq_ok.mp h).2

/-- **What is accepted is what a text is read as**, where there can be so many drops. -/
theorem parse_eq_ok_iff {text : String} {drops : Int} :
    parse text = .ok drops ↔ Reads text drops ∧ 0 ≤ drops ∧ drops ≤ 10 ^ 17 := by
  rw [parse_eq_ok, reads_iff]
  constructor
  · rintro ⟨read, low, high⟩
    refine ⟨?_, low, high⟩
    rcases exists_of_read? read with ⟨alone, nothing⟩ | ⟨d, shape, form, rfl⟩
    · exact .inl ⟨String.toList_inj.mp alone, nothing⟩
    · have unsigned : d.sign = .minus → wholes d = 0 := fun minus => wholes_eq_zero form minus low
      exact .inr ⟨d, shape, form, unsigned, readAs_eq unsigned⟩
  · rintro ⟨⟨rfl, rfl⟩ | ⟨d, shape, form, unsigned, rfl⟩, low, high⟩
    · decide
    · have few := wholes_le_counted d
      have whole := apply_wholes unsigned
      have read := read?_chars form (by omega) (by omega)
      rw [readAs_eq unsigned] at read
      rw [shape]
      exact ⟨read, low, high⟩

/-! ## What was written is read back -/

/-- Digits have no point among them, so the text is one whole number. -/
theorem read?_toString (n : Nat) :
    read? (toString n).toList = if n ≤ 2 ^ 63 - 1 then some (n : Int) else none := by
  have plain : ∀ c ∈ (toString n).toList, c ≠ '.' := by
    intro c member
    rw [Nat.toString_eq_repr, Nat.toList_repr] at member
    have digit : c.isDigit = true := Nat.isDigit_of_mem_toDigits (by decide) (by decide) member
    exact (Quantity.ne_of_isDigit digit).2.2.1
  rw [read?_plain plain, Text.readInt_toString]
  split <;> rfl

/-- **A number of drops is read back** where there can be so many, and refused otherwise. -/
theorem parse_toString (n : Nat) :
    parse (toString n) =
      if n ≤ 10 ^ 17 then .ok (n : Int)
      else .error (.amount ("malformed native value " ++ toString n)) := by
  have range : Amount.areDrops n = true ↔ n ≤ 10 ^ 17 := by
    rw [Amount.areDrops_iff]
    omega
  unfold parse
  rw [read?_toString]
  by_cases drops : n ≤ 10 ^ 17
  · have fits : n ≤ 2 ^ 63 - 1 := by omega
    rw [if_pos fits, if_pos drops, Option.filter_some, if_pos (range.mpr drops)]
  · rw [if_neg drops]
    by_cases fits : n ≤ 2 ^ 63 - 1
    · rw [if_pos fits, Option.filter_some, if_neg (mt range.mp drops)]
    · rw [if_neg fits, Option.filter_none]

/-! ## Words -/

/-- A number, in a signed word of 64 bits. -/
def word? (n : Int) : Option Int := if -2 ^ 63 ≤ n ∧ n < 2 ^ 63 then some n else none

/-- The drops of a whole part and the digits behind the point, in words. -/
def ofDecimalInWords? (whole fraction : List Char) : Option Int := do
  let rest ← behind? fraction
  let units ← units? whole
  let product ← word? (units * perUnit)
  word? (product + rest)

/-- The drops that a text denotes, in words. -/
def readInWords? (text : List Char) : Option Int :=
  let whole := text.takeWhile (· != '.')
  match text.drop whole.length with
  | [] => (Text.readInt (2 ^ 63 - 1) whole).toOption
  | _ :: fraction => ofDecimalInWords? whole fraction

def parseInWords (text : String) : Except FormatError Int :=
  match (readInWords? text.toList).filter Amount.areDrops with
  | some drops => .ok drops
  | none => .error (.amount ("malformed native value " ++ text))

theorem behind?_lt {fraction : List Char} {rest : Nat} (h : behind? fraction = some rest) :
    rest < 10 ^ 6 := by
  obtain ⟨all, few, rfl⟩ := behind?_eq_some.mp h
  exact behind_lt all few

/-- A number that is none of drops may be tested for its word or not. -/
theorem filter_word? {n : Int} :
    (word? n).filter Amount.areDrops = (some n).filter Amount.areDrops := by
  unfold word?
  split
  · rfl
  · next beyond =>
    have none : ¬ Amount.areDrops n = true := by
      rw [Amount.areDrops_iff]
      omega
    rw [Option.filter_some, if_neg none, Option.filter_none]

/-- **What does not fit a word is no amount of drops**, and does not become one by what is added. -/
theorem filter_ofDecimalInWords? (whole fraction : List Char) :
    (ofDecimalInWords? whole fraction).filter Amount.areDrops =
      (ofDecimal? whole fraction).filter Amount.areDrops := by
  rw [ofDecimal?_eq]
  unfold ofDecimalInWords?
  cases counted : behind? fraction with
  | none => rfl
  | some rest =>
    have below := behind?_lt counted
    cases units? whole with
    | none => rfl
    | some u =>
      show ((word? (u * perUnit)).bind fun product => word? (product + rest)).filter _ =
        (some (u * perUnit + rest)).filter _
      by_cases fits : -2 ^ 63 ≤ u * perUnit ∧ u * perUnit < 2 ^ 63
      · rw [word?, if_pos fits, Option.bind_some, filter_word?]
      · have none : ¬ Amount.areDrops (u * perUnit + rest) = true := by
          rw [Amount.areDrops_iff]
          omega
        rw [word?, if_neg fits, Option.bind_none, Option.filter_some, if_neg none,
          Option.filter_none]

/-- **Texts are read in words as in integers**, and refused in the same words. -/
theorem parseInWords_eq (text : String) : parseInWords text = parse text := by
  have same : (readInWords? text.toList).filter Amount.areDrops =
      (read? text.toList).filter Amount.areDrops := by
    unfold readInWords? read?
    dsimp only
    cases text.toList.drop (text.toList.takeWhile (· != '.')).length with
    | nil => rfl
    | cons _ fraction => exact filter_ofDecimalInWords? _ fraction
  unfold parseInWords parse
  cases read : (read? text.toList).filter Amount.areDrops with
  | none => simp only [same, read]
  | some drops => simp only [same, read]

/-! ## All together -/

/-- **What is accepted, and as how many drops.** A number without a minus sign is read as what it
denotes, a number of no units as if it had no minus sign, and a point as nothing; there is nothing
else that is accepted, and no sum on the way leaves its word. -/
theorem parse_written (text : String) :
    (∀ drops, parse text = .ok drops ↔ Reads text drops ∧ 0 ≤ drops ∧ drops ≤ 10 ^ 17) ∧
    parseInWords text = parse text :=
  ⟨fun _ => parse_eq_ok_iff, parseInWords_eq text⟩

/-- Half a unit less than nothing. -/
def owedHalf : Decimal where
  sign := .minus
  whole := ['0']
  fraction := some ['5']
  exponent := none
  filled := by decide
  all := List.all_eq_true.mp (by decide)

/-- **Less than nothing can be accepted as that much**: the minus sign in front of a zero is lost.
So can a point without a digit. -/
theorem owedHalf_accepted :
    "-0.5".toList = owedHalf.chars ∧ denoted owedHalf = -500000 ∧ parse "-0.5" = .ok 500000 ∧
      parse "." = .ok 0 := by
  have form : InForm owedHalf := ⟨rfl, by decide, nofun⟩
  have count : counted owedHalf = 500000 := by decide
  refine ⟨by decide, ?_, parse_eq_ok.mpr (by decide), parse_eq_ok.mpr (by decide)⟩
  rw [denoted_eq form, count]
  norm_num [owedHalf, Sign.isNegative]

end SwapPayout.Drops
