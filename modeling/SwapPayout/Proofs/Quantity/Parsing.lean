import SwapPayout.Proofs.Quantity.Decimal
import SwapPayout.Proofs.Quantity.Words

/-!
# Reading decimals

A decimal may have any number of digits. While they are read, eighteen are kept at most: a further
one before the point makes the exponent greater by one, a further one behind the point is lost.
What is kept is what leads the number, never less than what a quantity can hold (`Reading.Keeps`);
and what a quantity cannot hold has no say (`ofParts_div_pow`). So the quantity is made of all the
digits, though it was made of the first ones (`parse_of_chars`), and the text is rounded as the
number that it denotes (`parse_decimals`).

Texts too long to be counted in a word, and exponents that bring the count out of it, are left out.
They may be refused for that; but in machine words reading goes through the same tests as here, for
every text, and has no fault (`parseInWords_eq`).
-/

namespace SwapPayout.Quantity

/-! ## Digits that are kept -/

/-- The number that follows `n` when a digit is appended. -/
def appendDigit (n d : Nat) : Nat := 10 * n + d

/-- **A reading keeps what leads a number** `n × 10 ^ e`: it has lost the last digits only, and only
when enough are left. -/
structure Reading.Keeps (r : Reading) (n : Nat) (e : Int) (lost : Nat) : Prop where
  mantissa : r.mantissa = n / 10 ^ lost
  exponent : r.exponent = e + lost
  enough : lost ≠ 0 → keptLimit ≤ r.mantissa

/-- A reading passes the check by its exponent, and is not changed. -/
theorem Reading.checked_eq_some {r r' : Reading} :
    r.checked = some r' ↔ countable r.exponent = true ∧ r = r' := by
  rw [checked, Option.ite_none_right_eq_some, Option.some.injEq]

namespace Reading.Keeps

variable {r r' : Reading} {n d lost : Nat} {e : Int}

/-- Nothing is lost as long as there is room. -/
theorem eq_of_lt (h : r.Keeps n e lost) (room : r.mantissa < keptLimit) :
    lost = 0 ∧ r.mantissa = n ∧ r.exponent = e := by
  have none : lost = 0 := by
    by_contra some
    exact absurd (h.enough some) room.not_ge
  subst none
  have mantissa := h.mantissa
  have exponent := h.exponent
  rw [Nat.pow_zero, Nat.div_one] at mantissa
  rw [Nat.cast_zero, add_zero] at exponent
  exact ⟨rfl, mantissa, exponent⟩

/-- Where digits are lost, enough for a quantity are left. -/
theorem many (h : r.Keeps n e lost) (some : lost ≠ 0) : 10 ^ 15 ≤ n / 10 ^ lost := by
  have enough := h.enough some
  rw [h.mantissa] at enough
  exact le_trans (by decide) enough

/-- One more digit is lost when it is not kept. -/
theorem div_succ (h : r.Keeps n e lost) (digit : d < 10) :
    r.mantissa = appendDigit n d / 10 ^ (lost + 1) := by
  have last : appendDigit n d / 10 = n := by
    unfold appendDigit
    omega
  rw [Nat.pow_succ', ← Nat.div_div_eq_div_mul, last, h.mantissa]

/-- **A digit before the point** is kept, or makes what is kept ten times as much. -/
theorem of_pushWhole (h : r.Keeps n e lost) (digit : d < 10) (pushed : r.pushWhole d = some r') :
    ∃ lost', r'.Keeps (appendDigit n d) e lost' ∧ lost' ≤ lost + 1 := by
  unfold Reading.pushWhole at pushed
  split at pushed
  · next room =>
    obtain ⟨rfl, mantissa, exponent⟩ := h.eq_of_lt room
    obtain rfl := Option.some.inj pushed
    refine ⟨0, ⟨?_, ?_, nofun⟩, Nat.zero_le _⟩
    · rw [Nat.pow_zero, Nat.div_one, mantissa, appendDigit, Nat.mul_comm]
    · rw [exponent, Nat.cast_zero, add_zero]
  · next full =>
    obtain ⟨-, rfl⟩ := checked_eq_some.mp pushed
    refine ⟨lost + 1, ⟨h.div_succ digit, ?_, fun _ => not_lt.mp full⟩, le_rfl⟩
    rw [h.exponent, Nat.cast_succ, add_assoc]

theorem exists_pushWhole (h : r.Keeps n e lost) (d : Nat) (low : -2 ^ 31 ≤ e)
    (high : e + lost + 1 < 2 ^ 31) : ∃ r', r.pushWhole d = some r' := by
  unfold Reading.pushWhole
  split
  · exact ⟨_, rfl⟩
  · refine ⟨_, checked_eq_some.mpr ⟨countable_iff.mpr ?_, rfl⟩⟩
    have exponent := h.exponent
    dsimp only
    omega

/-- **A digit behind the point** is kept, with the point one place further to its left, or is
lost. -/
theorem of_pushFraction (h : r.Keeps n e lost) (digit : d < 10)
    (pushed : r.pushFraction d = some r') :
    ∃ lost', r'.Keeps (appendDigit n d) (e - 1) lost' := by
  unfold Reading.pushFraction at pushed
  split at pushed
  · next room =>
    obtain ⟨rfl, mantissa, exponent⟩ := h.eq_of_lt room
    obtain ⟨-, rfl⟩ := checked_eq_some.mp pushed
    refine ⟨0, ?_, ?_, nofun⟩
    · rw [Nat.pow_zero, Nat.div_one, mantissa, appendDigit, Nat.mul_comm]
    · rw [exponent, Nat.cast_zero, add_zero]
  · next full =>
    obtain rfl := Option.some.inj pushed
    refine ⟨lost + 1, h.div_succ digit, ?_, fun _ => not_lt.mp full⟩
    rw [h.exponent]
    push_cast
    ring

theorem exists_pushFraction (h : r.Keeps n e lost) (d : Nat) (low : -2 ^ 31 ≤ e - 1)
    (high : e < 2 ^ 31) : ∃ r', r.pushFraction d = some r' := by
  unfold Reading.pushFraction
  split
  · next room =>
    obtain ⟨-, -, exponent⟩ := h.eq_of_lt room
    refine ⟨_, checked_eq_some.mpr ⟨countable_iff.mpr ?_, rfl⟩⟩
    dsimp only
    omega
  · exact ⟨r, rfl⟩

/-- All digits before the point. -/
theorem of_foldlM_pushWhole {digits : List Nat} (h : r.Keeps n e lost)
    (all : ∀ d ∈ digits, d < 10) (run : digits.foldlM Reading.pushWhole r = some r') :
    ∃ lost', r'.Keeps (digits.foldl appendDigit n) e lost' ∧ lost' ≤ lost + digits.length := by
  induction digits generalizing r n lost with
  | nil =>
    obtain rfl := Option.some.inj run
    exact ⟨lost, h, le_rfl⟩
  | cons d digits ih =>
    obtain ⟨first, others⟩ := List.forall_mem_cons.mp all
    rw [List.foldlM_cons] at run
    obtain ⟨middle, pushed, rest⟩ := Option.bind_eq_some_iff.mp run
    obtain ⟨lost', kept, few⟩ := h.of_pushWhole first pushed
    obtain ⟨lost'', kept', few'⟩ := ih kept others rest
    rw [List.length_cons]
    exact ⟨lost'', kept', by omega⟩

theorem exists_foldlM_pushWhole {digits : List Nat} (h : r.Keeps n e lost)
    (all : ∀ d ∈ digits, d < 10) (low : -2 ^ 31 ≤ e) (high : e + lost + digits.length < 2 ^ 31) :
    ∃ r', digits.foldlM Reading.pushWhole r = some r' := by
  induction digits generalizing r n lost with
  | nil => exact ⟨r, rfl⟩
  | cons d digits ih =>
    obtain ⟨first, others⟩ := List.forall_mem_cons.mp all
    rw [List.length_cons] at high
    obtain ⟨middle, pushed⟩ := h.exists_pushWhole d low (by omega)
    obtain ⟨lost', kept, few⟩ := h.of_pushWhole first pushed
    obtain ⟨r', run⟩ := ih kept others (by omega)
    refine ⟨r', ?_⟩
    rw [List.foldlM_cons, pushed]
    exact run

/-- All digits behind the point. -/
theorem of_foldlM_pushFraction {digits : List Nat} (h : r.Keeps n e lost)
    (all : ∀ d ∈ digits, d < 10) (run : digits.foldlM Reading.pushFraction r = some r') :
    ∃ lost', r'.Keeps (digits.foldl appendDigit n) (e - digits.length) lost' := by
  induction digits generalizing r n lost e with
  | nil =>
    obtain rfl := Option.some.inj run
    exact ⟨lost, by simpa using h⟩
  | cons d digits ih =>
    obtain ⟨first, others⟩ := List.forall_mem_cons.mp all
    rw [List.foldlM_cons] at run
    obtain ⟨middle, pushed, rest⟩ := Option.bind_eq_some_iff.mp run
    obtain ⟨lost', kept⟩ := h.of_pushFraction first pushed
    obtain ⟨lost'', kept'⟩ := ih kept others rest
    refine ⟨lost'', ?_⟩
    rwa [sub_sub, add_comm 1, ← Nat.cast_succ] at kept'

theorem exists_foldlM_pushFraction {digits : List Nat} (h : r.Keeps n e lost)
    (all : ∀ d ∈ digits, d < 10) (low : -2 ^ 31 ≤ e - digits.length) (high : e < 2 ^ 31) :
    ∃ r', digits.foldlM Reading.pushFraction r = some r' := by
  induction digits generalizing r n lost e with
  | nil => exact ⟨r, rfl⟩
  | cons d digits ih =>
    obtain ⟨first, others⟩ := List.forall_mem_cons.mp all
    rw [List.length_cons] at low
    obtain ⟨middle, pushed⟩ := h.exists_pushFraction d (by omega) high
    obtain ⟨lost', kept⟩ := h.of_pushFraction first pushed
    obtain ⟨r', run⟩ := ih kept others (by omega) (by omega)
    refine ⟨r', ?_⟩
    rw [List.foldlM_cons, pushed]
    exact run

/-- Nothing has been read, and nothing lost. -/
theorem start (e : Int) : Reading.Keeps ⟨0, e⟩ 0 e 0 :=
  ⟨rfl, by rw [Nat.cast_zero, add_zero], nofun⟩

end Reading.Keeps

namespace Numeral

variable {whole fraction : List Nat} {e : Int}

/-- **Digits that are read one by one** are kept from the first one on. -/
theorem keeps_of_readFrom {r : Reading} (wholes : ∀ d ∈ whole, d < 10)
    (fractions : ∀ d ∈ fraction, d < 10) (read : readFrom whole fraction e = some r) :
    ∃ lost, r.Keeps ((whole ++ fraction).foldl appendDigit 0) (e - fraction.length) lost := by
  obtain ⟨before, run, behind⟩ := Option.bind_eq_some_iff.mp read
  obtain ⟨lost, kept, -⟩ := (Reading.Keeps.start e).of_foldlM_pushWhole wholes run
  rw [List.foldl_append]
  exact kept.of_foldlM_pushFraction fractions behind

/-- Digits are read when they can be counted. -/
theorem exists_readFrom (wholes : ∀ d ∈ whole, d < 10) (fractions : ∀ d ∈ fraction, d < 10)
    (low : -2 ^ 31 ≤ e - fraction.length) (high : e + whole.length < 2 ^ 31) :
    ∃ r, readFrom whole fraction e = some r := by
  have start := Reading.Keeps.start e
  obtain ⟨before, run⟩ := start.exists_foldlM_pushWhole wholes (by omega) (by omega)
  obtain ⟨lost, kept, -⟩ := start.of_foldlM_pushWhole wholes run
  obtain ⟨r, behind⟩ := kept.exists_foldlM_pushFraction fractions low (by omega)
  exact ⟨r, Option.bind_eq_some_iff.mpr ⟨before, run, behind⟩⟩

end Numeral

/-! ## Digits that have no say -/

/-- **What is lost has no say**: from the first sixteen digits on, a number with fewer digits and a
greater exponent makes the same quantity. -/
theorem ofParts_div_pow (negative : Bool) {n k : Nat} {e : Int} (many : 10 ^ 15 ≤ n / 10 ^ k)
    (counted : countable (e + digitCount n - 16) = true) :
    ofParts negative (n / 10 ^ k) (e + k) = ofParts negative n e := by
  have kept : n / 10 ^ k ≠ 0 := by omega
  have whole : n ≠ 0 := by
    rintro rfl
    exact kept (Nat.zero_div _)
  have count := digitCount_div_pow (pow_le_of_le_div many)
  have digits := sixteenDigits_div_pow many
  have exponent : e + k + digitCount (n / 10 ^ k) - 16 = e + digitCount n - 16 := by omega
  unfold ofParts
  rw [dif_neg kept, dif_neg whole]
  simp only [exponent, digits, counted]
  rfl

theorem Reading.Keeps.ofParts_eq {r : Reading} {n lost : Nat} {e : Int} (h : r.Keeps n e lost)
    (negative : Bool) (counted : countable (e + digitCount n - 16) = true) :
    ofParts negative r.mantissa r.exponent = ofParts negative n e := by
  rcases Nat.eq_zero_or_pos lost with rfl | some
  · rw [h.mantissa, h.exponent, Nat.pow_zero, Nat.div_one, Nat.cast_zero, add_zero]
  · rw [h.mantissa, h.exponent]
    exact ofParts_div_pow negative (h.many some.ne') counted

/-- What is lost moves no digit: the exponent of the first sixteen is the same. -/
theorem Reading.Keeps.exponent_eq {r : Reading} {n lost : Nat} {e : Int} (h : r.Keeps n e lost) :
    r.exponent + digitCount r.mantissa = e + digitCount n := by
  rcases Nat.eq_zero_or_pos lost with rfl | some
  · rw [h.mantissa, h.exponent, Nat.pow_zero, Nat.div_one, Nat.cast_zero, add_zero]
  · have count := digitCount_div_pow (pow_le_of_le_div (h.many some.ne'))
    rw [h.mantissa, h.exponent]
    omega

/-- What is made of a reading is made of all the digits. -/
theorem Reading.Keeps.ofParts_eq_ok {r : Reading} {n lost : Nat} {e : Int} {negative : Bool}
    {q : Quantity} (h : r.Keeps n e lost)
    (made : ofParts negative r.mantissa r.exponent = .ok q) : ofParts negative n e = .ok q := by
  rcases Nat.eq_zero_or_pos n with rfl | positive
  · -- Zero is made of any exponent, so nothing has to be counted.
    have zero : r.mantissa = 0 := by rw [h.mantissa, Nat.zero_div]
    rw [zero] at made
    exact made
  · have kept : 0 < r.mantissa := by
      rcases Nat.eq_zero_or_pos lost with rfl | some
      · rwa [h.mantissa, Nat.pow_zero, Nat.div_one]
      · have many := h.many some.ne'
        rw [h.mantissa]
        omega
    have counted := countable_of_ofParts kept made
    rw [h.exponent_eq] at counted
    rwa [h.ofParts_eq negative counted] at made

/-! ## Decimals -/

theorem digitOf_lt {c : Char} (h : c.isDigit = true) : digitOf c < 10 := by
  obtain ⟨-, high⟩ := Char.isDigit_iff_toNat.mp h
  have nine : '9'.toNat = 57 := rfl
  unfold digitOf
  omega

theorem lt_ten_of_mem_digits {text : List Char} (all : ∀ c ∈ text, c.isDigit = true) :
    ∀ d ∈ text.map digitOf, d < 10 := by
  intro d member
  obtain ⟨c, inText, rfl⟩ := List.mem_map.mp member
  exact digitOf_lt (all c inText)

/-- Digits make no number with more digits. -/
theorem foldl_appendDigit_lt {digits : List Nat} (all : ∀ d ∈ digits, d < 10) (n : Nat) :
    digits.foldl appendDigit n < (n + 1) * 10 ^ digits.length := by
  induction digits generalizing n with
  | nil =>
    rw [List.length_nil, Nat.pow_zero, Nat.mul_one]
    exact Nat.lt_succ_self n
  | cons d digits ih =>
    obtain ⟨first, others⟩ := List.forall_mem_cons.mp all
    rw [List.foldl_cons, List.length_cons, Nat.pow_succ']
    calc digits.foldl appendDigit (appendDigit n d)
        < (appendDigit n d + 1) * 10 ^ digits.length := ih others _
      _ ≤ ((n + 1) * 10) * 10 ^ digits.length := by
          apply Nat.mul_le_mul_right
          unfold appendDigit
          omega
      _ = (n + 1) * (10 * 10 ^ digits.length) := Nat.mul_assoc ..

namespace Decimal

variable (d : Decimal)

theorem number_eq : d.number = (d.digits.map digitOf).foldl appendDigit 0 := by
  rw [number, Nat.ofDigitChars_eq_foldl, List.foldl_map]
  rfl

theorem digitCount_number : digitCount d.number ≤ d.digits.length := by
  have all := lt_ten_of_mem_digits d.all
  have below : d.number < 10 ^ d.digits.length := by
    rw [number_eq]
    simpa [digits] using foldl_appendDigit_lt all 0
  rcases Nat.eq_zero_or_pos d.number with zero | positive
  · rw [zero, digitCount, if_pos (by decide)]
    exact List.length_pos_of_ne_nil d.filled
  · exact digitCount_le below positive

theorem length_digits : d.digits.length = d.whole.length + (d.fraction.getD []).length :=
  List.length_append

theorem length_digits_le : d.digits.length ≤ d.chars.length := by
  unfold chars body digits
  cases d.fraction with
  | none => simp; omega
  | some fraction => simp; omega

theorem abs_value : |d.value| = d.magnitude := by
  have nonneg : 0 ≤ d.magnitude := by
    unfold magnitude
    positivity
  unfold value
  split
  · rw [abs_neg, abs_of_nonneg nonneg]
  · exact abs_of_nonneg nonneg

/-- The exponent of the sixteen digits of a decimal that is not too long. -/
theorem countable_of_small {d : Decimal} (small : d.shift.natAbs + d.chars.length < 2 ^ 31 - 32) :
    countable (d.power + digitCount d.number - 16) = true := by
  have length := d.length_digits_le
  have parts := d.length_digits
  have count := d.digitCount_number
  have positive := digitCount_pos d.number
  unfold power
  rw [countable_iff]
  omega

end Decimal

namespace Decimal

variable {d : Decimal}

/-- What is read of a decimal leads its number. -/
theorem keeps_of_read {r : Reading} (read : d.numeral.read? = some r) :
    ∃ lost, r.Keeps d.number d.power lost := by
  have wholes := lt_ten_of_mem_digits fun c member => d.all c (List.mem_append_left _ member)
  have fractions := lt_ten_of_mem_digits fun c member => d.all c (List.mem_append_right _ member)
  obtain ⟨lost, kept⟩ := Numeral.keeps_of_readFrom wholes fractions (d.read?_numeral.mp read)
  rw [List.length_map, ← List.map_append] at kept
  have number : (List.map digitOf (d.whole ++ d.fraction.getD [])).foldl appendDigit 0 = d.number :=
    d.number_eq.symm
  rw [number] at kept
  exact ⟨lost, kept⟩

/-- **A decimal is read** when it can be counted. -/
theorem exists_read (small : d.shift.natAbs + d.chars.length < 2 ^ 31 - 32) :
    ∃ r, d.numeral.read? = some r := by
  have length := d.length_digits_le
  have parts := d.length_digits
  have wholes := lt_ten_of_mem_digits fun c member => d.all c (List.mem_append_left _ member)
  have fractions := lt_ten_of_mem_digits fun c member => d.all c (List.mem_append_right _ member)
  obtain ⟨r, run⟩ := Numeral.exists_readFrom wholes fractions
    (show -2 ^ 31 ≤ d.shift - _ by rw [List.length_map]; omega)
    (by rw [List.length_map]; omega)
  exact ⟨r, d.read?_numeral.mpr run⟩

end Decimal

/-- **A decimal is read as if all its digits were kept**, as long as its length and its exponent can
be counted. -/
theorem parse_of_chars {text : String} {d : Decimal} (shape : Text.trimChars text.toList = d.chars)
    (small : d.shift.natAbs + d.chars.length < 2 ^ 31 - 32) :
    parse text = ofParts d.sign.isNegative d.number d.power := by
  obtain ⟨r, read⟩ := Decimal.exists_read small
  obtain ⟨lost, kept⟩ := Decimal.keeps_of_read read
  unfold parse
  rw [shape, d.ofChars_chars]
  dsimp only
  rw [read]
  exact kept.ofParts_eq _ (Decimal.countable_of_small small)

/-- **A decimal is rounded**, whatever its length. -/
theorem rounded_parse {text : String} {d : Decimal} (shape : Text.trimChars text.toList = d.chars)
    (small : d.shift.natAbs + d.chars.length < 2 ^ 31 - 32) :
    Rounded d.sign.isNegative |d.value| (parse text) := by
  have counted := countable_iff.mp (Decimal.countable_of_small small)
  rw [parse_of_chars shape small, d.abs_value]
  exact rounded_ofParts _ d.number d.power fun _ => counted.1

/-- **Whatever is accepted is rounded**: a text that is too long to be counted is refused, or it is
rounded as all others. -/
theorem rounded_of_parse {text : String} {d : Decimal} {q : Quantity}
    (shape : Text.trimChars text.toList = d.chars) (accepted : parse text = .ok q) :
    Rounded d.sign.isNegative |d.value| (.ok q) := by
  unfold parse at accepted
  rw [shape, d.ofChars_chars] at accepted
  dsimp only at accepted
  split at accepted
  · next r read =>
    obtain ⟨lost, kept⟩ := Decimal.keeps_of_read read
    rw [d.abs_value]
    exact rounded_of_ofParts (kept.ofParts_eq_ok accepted)
  · cases accepted

theorem exists_decimal_of_parse {text : String} {q : Quantity} (h : parse text = .ok q) :
    ∃ d : Decimal, Text.trimChars text.toList = d.chars := by
  unfold parse at h
  dsimp only at h
  split at h
  · next r read => exact exists_decimal_of_read read
  · cases h

/-! ## Words -/

/-- An answer, or else a refusal. -/
def orRefuse {α : Type} (cause : FormatError) : Option α → Except Halt α
  | some a => .ok a
  | none => .error (.refused cause)

/-- A digit before the point, in words. -/
def Reading.pushWholeInWords (cause : FormatError) (r : Reading) (d : Nat) :
    Except Halt Reading :=
  if r.mantissa < keptLimit then do
    let tens ← word (r.mantissa * 10)
    let mantissa ← word (tens + d)
    return { r with mantissa }
  else orRefuse cause (checked { r with exponent := r.exponent + 1 })

/-- A digit behind the point, in words. -/
def Reading.pushFractionInWords (cause : FormatError) (r : Reading) (d : Nat) :
    Except Halt Reading :=
  if r.mantissa < keptLimit then do
    let tens ← word (r.mantissa * 10)
    let mantissa ← word (tens + d)
    orRefuse cause (checked ⟨mantissa, r.exponent - 1⟩)
  else return r

/-- The digits and the exponent of a numeral, in words. -/
def Numeral.readInWords (cause : FormatError) (n : Numeral) : Except Halt Reading :=
  if n.whole.isEmpty && n.fraction.isEmpty then .error (.refused cause)
  else do
    let whole ← orRefuse cause (n.whole.mapM Text.digitValue?)
    let fraction ← orRefuse cause (n.fraction.mapM Text.digitValue?)
    let e ← orRefuse cause n.shift?
    let r ← whole.foldlM (Reading.pushWholeInWords cause) ⟨0, e⟩
    fraction.foldlM (Reading.pushFractionInWords cause) r

/-- The words of a decimal, made in words. -/
def parseInWords (text : String) : Except Halt Words := do
  let n := Numeral.ofChars (Text.trimChars text.toList)
  let r ← n.readInWords (.amount text)
  ofWords n.negative r.mantissa r.exponent

section

variable {cause : FormatError}

theorem orRefuse_bind {α β : Type} (x : Option α) (f : α → Option β) :
    orRefuse cause (x.bind f) = orRefuse cause x >>= fun a => orRefuse cause (f a) := by
  cases x <;> rfl

/-- Two steps that refuse alike refuse a list alike. -/
theorem foldlM_orRefuse {f : Reading → Nat → Option Reading}
    {g : Reading → Nat → Except Halt Reading} {digits : List Nat}
    (alike : ∀ r, ∀ d ∈ digits, g r d = orRefuse cause (f r d)) (r : Reading) :
    digits.foldlM g r = orRefuse cause (digits.foldlM f r) := by
  induction digits generalizing r with
  | nil => rfl
  | cons d digits ih =>
    obtain ⟨first, others⟩ : (∀ r, g r d = orRefuse cause (f r d)) ∧
        ∀ r, ∀ d ∈ digits, g r d = orRefuse cause (f r d) :=
      ⟨fun r => alike r d List.mem_cons_self,
        fun r d' member => alike r d' (List.mem_cons_of_mem _ member)⟩
    rw [List.foldlM_cons, List.foldlM_cons, first, Option.bind_eq_bind, orRefuse_bind]
    congr 1
    funext r'
    exact ih others r'

theorem Reading.pushWholeInWords_eq (r : Reading) {d : Nat} (digit : d < 10) :
    r.pushWholeInWords cause d = orRefuse cause (r.pushWhole d) := by
  unfold pushWholeInWords pushWhole
  split
  · next room =>
    unfold keptLimit at room
    rw [word_eq_ok (by omega)]
    show (word (r.mantissa * 10 + d) >>= _) = _
    rw [word_eq_ok (by omega)]
    rfl
  · rfl

theorem Reading.pushFractionInWords_eq (r : Reading) {d : Nat} (digit : d < 10) :
    r.pushFractionInWords cause d = orRefuse cause (r.pushFraction d) := by
  unfold pushFractionInWords pushFraction
  split
  · next room =>
    unfold keptLimit at room
    rw [word_eq_ok (by omega)]
    show (word (r.mantissa * 10 + d) >>= _) = _
    rw [word_eq_ok (by omega)]
    rfl
  · rfl

/-- **Digits are read in words without a fault.** -/
theorem Numeral.readInWords_eq (n : Numeral) : n.readInWords cause = orRefuse cause n.read? := by
  rw [readInWords, n.read?_eq]
  split
  · rfl
  · cases wholes : n.whole.mapM Text.digitValue? with
    | none => rfl
    | some whole =>
      cases fractions : n.fraction.mapM Text.digitValue? with
      | none => rfl
      | some fraction =>
        cases n.shift? with
        | none => rfl
        | some e =>
          obtain ⟨allWhole, rfl⟩ := mapM_digitValue?_eq_some.mp wholes
          obtain ⟨allFraction, rfl⟩ := mapM_digitValue?_eq_some.mp fractions
          show (List.foldlM _ _ _ >>= _) = orRefuse cause (readFrom _ _ e)
          rw [readFrom, Option.bind_eq_bind, orRefuse_bind,
            foldlM_orRefuse fun r d member =>
              r.pushWholeInWords_eq (lt_ten_of_mem_digits allWhole d member)]
          congr 1
          funext r
          exact foldlM_orRefuse (fun r d member =>
            r.pushFractionInWords_eq (lt_ten_of_mem_digits allFraction d member)) r

end

/-! ### Exponents that were counted -/

theorem Reading.countable_of_pushWhole {r r' : Reading} {d : Nat}
    (counted : countable r.exponent = true) (h : r.pushWhole d = some r') :
    countable r'.exponent = true := by
  unfold pushWhole at h
  split at h
  · obtain rfl := Option.some.inj h
    exact counted
  · obtain ⟨counted', rfl⟩ := checked_eq_some.mp h
    exact counted'

theorem Reading.countable_of_pushFraction {r r' : Reading} {d : Nat}
    (counted : countable r.exponent = true) (h : r.pushFraction d = some r') :
    countable r'.exponent = true := by
  unfold pushFraction at h
  split at h
  · obtain ⟨counted', rfl⟩ := checked_eq_some.mp h
    exact counted'
  · obtain rfl := Option.some.inj h
    exact counted

/-- What each digit keeps, all digits keep. -/
theorem countable_of_foldlM {f : Reading → Nat → Option Reading} {digits : List Nat}
    (step : ∀ {r r' : Reading} {d : Nat}, countable r.exponent = true → f r d = some r' →
      countable r'.exponent = true) {r r' : Reading} (counted : countable r.exponent = true)
    (h : digits.foldlM f r = some r') : countable r'.exponent = true := by
  induction digits generalizing r with
  | nil =>
    obtain rfl := Option.some.inj h
    exact counted
  | cons d digits ih =>
    rw [List.foldlM_cons] at h
    obtain ⟨r'', first, others⟩ := Option.bind_eq_some_iff.mp h
    exact ih (step counted first) others

theorem Numeral.countable_of_shift? {n : Numeral} {e : Int} (h : n.shift? = some e) :
    countable e = true := by
  unfold shift? at h
  cases exponent : n.exponent with
  | none =>
    rw [exponent] at h
    obtain rfl := Option.some.inj h
    rfl
  | some text =>
    rw [exponent] at h
    obtain ⟨-, -, -, -, -, -, low, high⟩ := Text.readInt_eq_ok.mp (toOption_eq_some.mp h)
    exact countable_iff.mpr ⟨by omega, by omega⟩

theorem Numeral.countable_of_read? {n : Numeral} {r : Reading} (h : n.read? = some r) :
    countable r.exponent = true := by
  obtain ⟨-, -, e, shift, run⟩ := read?_eq_some.mp h
  obtain ⟨r', whole, fraction⟩ := Option.bind_eq_some_iff.mp run
  have counted := countable_of_foldlM Reading.countable_of_pushWhole
    (countable_of_shift? shift) whole
  exact countable_of_foldlM Reading.countable_of_pushFraction counted fraction

/-- **Texts are read in words without a fault**, and refused in the same words. -/
theorem parseInWords_eq (text : String) :
    parseInWords text = ((parse text).map words).mapError .refused := by
  unfold parseInWords parse
  dsimp only
  rw [Numeral.readInWords_eq]
  cases read : (Numeral.ofChars (Text.trimChars text.toList)).read? with
  | none => rfl
  | some r => exact ofWords_eq _ _ (Numeral.countable_of_read? read)

/-- No count leaves its word: the digits of a text are read and the loops end, with no refusal. -/
def CountsFit (text : String) : Prop :=
  ∀ cause, ∃ r, (Numeral.ofChars (Text.trimChars text.toList)).readInWords cause = .ok r ∧
    (r.mantissa ≠ 0 → ∃ scaled, scale cause r.mantissa r.exponent = .ok scaled)

theorem countsFit_of_chars {text : String} {d : Decimal}
    (shape : Text.trimChars text.toList = d.chars)
    (small : d.shift.natAbs + d.chars.length < 2 ^ 31 - 32) : CountsFit text := by
  intro cause
  obtain ⟨r, read⟩ := Decimal.exists_read small
  obtain ⟨lost, kept⟩ := Decimal.keeps_of_read read
  refine ⟨r, ?_, ?_⟩
  · rw [Numeral.readInWords_eq, shape, d.ofChars_chars, read]
    rfl
  · intro nonzero
    have counted := Decimal.countable_of_small small
    rw [← kept.exponent_eq] at counted
    rw [scale_eq cause (Nat.pos_of_ne_zero nonzero) (Numeral.countable_of_read? read), levelled,
      if_pos counted]
    exact ⟨_, rfl⟩

/-! ## All together -/

/-- **Reading decimals.** Only decimals between blanks are accepted, and every one that is not
too long to be counted is rounded as the number that it denotes, with counts that fit their words;
every text is read in words without a fault. -/
theorem parse_decimals (text : String) :
    (∀ q, parse text = .ok q → ∃ d : Decimal, Text.trimChars text.toList = d.chars) ∧
    (∀ d : Decimal, Text.trimChars text.toList = d.chars →
      d.shift.natAbs + d.chars.length < 2 ^ 31 - 32 →
      Rounded d.sign.isNegative |d.value| (parse text) ∧ CountsFit text) ∧
    parseInWords text = ((parse text).map words).mapError .refused :=
  ⟨fun _ => exists_decimal_of_parse,
    fun _ shape small => ⟨rounded_parse shape small, countsFit_of_chars shape small⟩,
    parseInWords_eq text⟩

/-- More digits than are kept, before a point and an exponent. -/
def longText : String := " -12345678901234567890.5E+3\n"

def longDecimal : Decimal where
  sign := .minus
  whole := "12345678901234567890".toList
  fraction := some ['5']
  exponent := some
    { mark := 'E'
      isMark := .inr rfl
      sign := .plus
      digits := ['3']
      filled := by decide
      all := List.all_eq_true.mp (by decide)
      counted := by decide }
  filled := by decide
  all := List.all_eq_true.mp (by decide)

/-- Five of the digits are cut off, three of them while reading. -/
theorem longText_parsed :
    Text.trimChars longText.toList = longDecimal.chars ∧
      longDecimal.value = -12345678901234567890500 ∧
      parse longText = .ok ⟨true, 1234567890123456, 7, .inr (by decide)⟩ ∧
      CountsFit longText ∧ ∃ d : Decimal, Text.trimChars longText.toList = d.chars := by
  have shape : Text.trimChars longText.toList = longDecimal.chars := by decide +kernel
  have number : longDecimal.number = 123456789012345678905 := by decide +kernel
  have power : longDecimal.power = 2 := by decide +kernel
  have value : longDecimal.value = -12345678901234567890500 := by
    have negative : longDecimal.sign.isNegative = true := rfl
    rw [Decimal.value, if_pos negative, Decimal.magnitude, number, power]
    norm_num
  obtain ⟨only, every, -⟩ := parse_decimals longText
  obtain ⟨rounded, fit⟩ := every longDecimal shape (by decide +kernel)
  have parsed : parse longText = .ok ⟨true, 1234567890123456, 7, .inr (by decide)⟩ := by
    refine rounded.of_isCut ⟨rfl, ⟨by decide, by decide⟩, by decide, ?_, ?_⟩
    · norm_num [value, magnitude]
    · norm_num [value, nextMagnitude]
  exact ⟨shape, value, parsed, fit, only _ parsed⟩

end SwapPayout.Quantity
