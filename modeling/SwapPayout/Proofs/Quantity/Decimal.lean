import SwapPayout.Proofs.Quantity.Value
import SwapPayout.Proofs.Text.Cut
import SwapPayout.Proofs.Text.Integer
import SwapPayout.Quantity.Notation

/-!
# Decimals in text

A decimal is a sign, digits with a point before, among or behind them, and an exponent; all but one
digit may be absent (`Decimal`). A text is cut at its sign, its first exponent mark and its first
point without a look at what stands between. Cutting loses nothing (`exists_cut`), and finds the
parts of each decimal (`Decimal.ofChars_chars`); so what is read is a decimal
(`exists_decimal_of_read`), and a decimal is read digit by digit (`Decimal.read?_numeral`).
-/

namespace SwapPayout.Quantity

open Text (Sign)

/-! ## Decimals -/

/-- The exponent of a decimal, as it is written. -/
structure WrittenExponent where
  mark : Char
  isMark : mark = 'e' ∨ mark = 'E'
  sign : Sign
  digits : List Char
  filled : digits ≠ []
  all : ∀ c ∈ digits, c.isDigit = true
  counted : countable (sign.apply (Nat.ofDigitChars 10 digits 0)) = true

namespace WrittenExponent

def value (x : WrittenExponent) : Int := x.sign.apply (Nat.ofDigitChars 10 x.digits 0)

/-- The exponent without its mark. -/
def text (x : WrittenExponent) : List Char := x.sign.chars ++ x.digits

end WrittenExponent

/-- A decimal, as it is written. -/
structure Decimal where
  sign : Sign
  whole : List Char
  /-- The digits behind the point, where there is a point. -/
  fraction : Option (List Char)
  exponent : Option WrittenExponent
  filled : whole ++ fraction.getD [] ≠ []
  all : ∀ c ∈ whole ++ fraction.getD [], c.isDigit = true

namespace Decimal

variable (d : Decimal)

/-- All digits, without the point. -/
def digits : List Char := d.whole ++ d.fraction.getD []

def shift : Int := d.exponent.elim 0 WrittenExponent.value

/-- The digits as a number. -/
def number : Nat := Nat.ofDigitChars 10 d.digits 0

/-- The power of ten that this number is to be multiplied with. -/
def power : Int := d.shift - (d.fraction.getD []).length

def magnitude : ℚ := d.number * 10 ^ d.power

/-- The number that a decimal denotes. -/
def value : ℚ := if d.sign.isNegative then -d.magnitude else d.magnitude

/-- The digits and the point. -/
def body : List Char := d.whole ++ d.fraction.elim [] ('.' :: ·)

def tail : List Char := d.exponent.elim [] fun x => x.mark :: x.text

def chars : List Char := d.sign.chars ++ (d.body ++ d.tail)

/-- The parts of a decimal, as a text is cut into them. -/
def numeral : Numeral := ⟨d.sign.isNegative, d.whole, d.fraction.getD [], d.exponent.map (·.text)⟩

end Decimal

/-! ## Cutting -/

/-- No mark of an exponent. -/
def isPlain (c : Char) : Bool := c != 'e' && c != 'E'

/-- A text behind its sign, cut. -/
def Numeral.ofUnsigned (negative : Bool) (text : List Char) : Numeral :=
  let number := text.takeWhile isPlain
  let whole := number.takeWhile (· != '.')
  { negative
    whole
    fraction := (number.drop whole.length).drop 1
    exponent :=
      match text.drop number.length with
      | [] => none
      | _ :: exponent => some exponent }

/-- A sign in front of a text is the sign of the numeral. -/
theorem ofChars_signed (sign : Sign) (text : List Char)
    (unsigned : sign = .absent → ∀ c ∈ text.head?, c ≠ '-' ∧ c ≠ '+') :
    Numeral.ofChars (sign.chars ++ text) = .ofUnsigned sign.isNegative text := by
  cases sign with
  | plus => rfl
  | minus => rfl
  | absent =>
    show Numeral.ofChars text = _
    unfold Numeral.ofChars
    split
    next negative rest cut =>
    split at cut
    · exact absurd rfl (unsigned rfl '-' rfl).1
    · exact absurd rfl (unsigned rfl '+' rfl).2
    · cases cut
      rfl

/-- **Cutting loses nothing** but the way in which a sign, a point or a mark was written. -/
theorem exists_cut (text : List Char) :
    ∃ (sign : Sign) (point mark : List Char),
      text = sign.chars ++ ((Numeral.ofChars text).whole ++ point ++ mark) ∧
      sign.isNegative = (Numeral.ofChars text).negative ∧
      (point = [] ∧ (Numeral.ofChars text).fraction = [] ∨
        point = '.' :: (Numeral.ofChars text).fraction) ∧
      (mark = [] ∧ (Numeral.ofChars text).exponent = none ∨
        ∃ c exponent, mark = c :: exponent ∧ (c = 'e' ∨ c = 'E') ∧
          (Numeral.ofChars text).exponent = some exponent) := by
  obtain ⟨sign, rest, rfl, cut⟩ : ∃ (sign : Sign) (rest : List Char), text = sign.chars ++ rest ∧
      Numeral.ofChars text = .ofUnsigned sign.isNegative rest := by
    cases text with
    | nil => exact ⟨.absent, [], rfl, rfl⟩
    | cons c rest =>
      by_cases minus : c = '-'
      · exact ⟨.minus, rest, by rw [minus]; rfl, by rw [minus]; rfl⟩
      · by_cases plus : c = '+'
        · exact ⟨.plus, rest, by rw [plus]; rfl, by rw [plus]; rfl⟩
        · refine ⟨.absent, c :: rest, rfl, ofChars_signed .absent (c :: rest) ?_⟩
          rintro - _ ⟨⟩
          exact ⟨minus, plus⟩
  rw [cut]
  obtain ⟨tail, parts, behind, marked⟩ := Text.exists_drop_takeWhile isPlain rest
  obtain ⟨pointed, digits, after, point⟩ :=
    Text.exists_drop_takeWhile (· != '.') (rest.takeWhile isPlain)
  refine ⟨sign, pointed, tail, ?_, rfl, ?_, ?_⟩
  · show sign.chars ++ rest = sign.chars ++ (_ ++ pointed ++ tail)
    rw [Numeral.ofUnsigned, ← digits, ← parts]
  · show _ ∧ List.drop 1 _ = [] ∨ _ = '.' :: List.drop 1 _
    rw [after]
    rcases point with rfl | ⟨c, t, rfl, stop⟩
    · exact .inl ⟨rfl, rfl⟩
    · obtain rfl : c = '.' := by simpa using stop
      exact .inr rfl
  · rw [Numeral.ofUnsigned]
    dsimp only
    rw [behind]
    rcases marked with rfl | ⟨c, t, rfl, stop⟩
    · exact .inl ⟨rfl, rfl⟩
    · refine .inr ⟨c, t, rfl, ?_, rfl⟩
      simpa only [isPlain, Bool.and_eq_false_iff, bne_eq_false_iff_eq] using stop

/-- No digit is a sign, a point or a mark. -/
theorem ne_of_isDigit {c : Char} (h : c.isDigit = true) :
    c ≠ '-' ∧ c ≠ '+' ∧ c ≠ '.' ∧ c ≠ 'e' ∧ c ≠ 'E' := by
  refine ⟨?_, ?_, ?_, ?_, ?_⟩ <;> rintro rfl <;> exact absurd h (by decide)

namespace Decimal

variable (d : Decimal)

theorem isDigit_of_mem_whole {c : Char} (h : c ∈ d.whole) : c.isDigit = true :=
  d.all c (List.mem_append_left _ h)

/-- Digits and points are plain. -/
theorem isPlain_of_mem_body {c : Char} (h : c ∈ d.body) : c.isDigit = true ∨ c = '.' := by
  unfold body at h
  have all := d.all
  cases fraction : d.fraction with
  | none =>
    rw [fraction] at h
    exact .inl (d.isDigit_of_mem_whole (by simpa using h))
  | some digits =>
    rw [fraction] at h all
    rcases List.mem_append.mp h with before | behind
    · exact .inl (d.isDigit_of_mem_whole before)
    · rcases List.mem_cons.mp behind with point | digit
      · exact .inr point
      · exact .inl (all c (List.mem_append_right _ digit))

/-- A decimal without a sign begins with a digit or the point. -/
theorem head_body : ∃ c rest, d.body = c :: rest := by
  unfold body
  cases whole : d.whole with
  | cons c rest => exact ⟨c, _, rfl⟩
  | nil =>
    cases fraction : d.fraction with
    | some digits => exact ⟨'.', digits, rfl⟩
    | none =>
      have filled := d.filled
      rw [whole, fraction] at filled
      exact absurd rfl filled

theorem takeWhile_isPlain : (d.body ++ d.tail).takeWhile isPlain = d.body := by
  apply Text.takeWhile_append_eq
  · intro c member
    unfold isPlain
    rcases d.isPlain_of_mem_body member with digit | rfl
    · obtain ⟨-, -, -, small, capital⟩ := ne_of_isDigit digit
      rw [bne_iff_ne.mpr small, bne_iff_ne.mpr capital]
      rfl
    · rfl
  · intro c first
    unfold tail at first
    cases exponent : d.exponent with
    | none => rw [exponent] at first; cases first
    | some x =>
      rw [exponent] at first
      obtain rfl := Option.some.inj first
      rcases x.isMark with mark | mark <;> rw [mark] <;> rfl

theorem takeWhile_whole : d.body.takeWhile (· != '.') = d.whole := by
  apply Text.takeWhile_append_eq
  · intro c member
    exact bne_iff_ne.mpr (ne_of_isDigit (d.isDigit_of_mem_whole member)).2.2.1
  · intro c first
    cases fraction : d.fraction with
    | none => rw [fraction] at first; cases first
    | some digits =>
      rw [fraction] at first
      obtain rfl := Option.some.inj first
      rfl

/-- **The parts of a decimal are found.** -/
theorem ofChars_chars : Numeral.ofChars d.chars = d.numeral := by
  have unsigned : d.sign = .absent → ∀ c ∈ (d.body ++ d.tail).head?, c ≠ '-' ∧ c ≠ '+' := by
    intro _ c first
    obtain ⟨c', rest, body⟩ := d.head_body
    rw [body] at first
    obtain rfl := Option.some.inj first
    rcases d.isPlain_of_mem_body (body ▸ List.mem_cons_self) with digit | rfl
    · exact ⟨(ne_of_isDigit digit).1, (ne_of_isDigit digit).2.1⟩
    · decide
  rw [chars, ofChars_signed d.sign _ unsigned, Numeral.ofUnsigned, d.takeWhile_isPlain,
    d.takeWhile_whole, List.drop_left, numeral]
  congr 1
  · rw [body, List.drop_left]
    cases d.fraction <;> rfl
  · unfold tail
    cases d.exponent <;> rfl

end Decimal

/-! ## Reading -/

/-- The number that a digit stands for. -/
def digitOf (c : Char) : Nat := c.toNat - 48

theorem mapM_digitValue?_eq_some {text : List Char} {digits : List Nat} :
    text.mapM Text.digitValue? = some digits ↔
      (∀ c ∈ text, c.isDigit = true) ∧ digits = text.map digitOf := by
  induction text generalizing digits with
  | nil =>
    rw [List.mapM_nil]
    constructor
    · rintro ⟨⟩
      exact ⟨nofun, rfl⟩
    · rintro ⟨-, rfl⟩
      rfl
  | cons c text ih =>
    rw [List.mapM_cons, List.forall_mem_cons]
    constructor
    · intro h
      obtain ⟨d, first, h⟩ := Option.bind_eq_some_iff.mp h
      obtain ⟨ds, others, same⟩ := Option.bind_eq_some_iff.mp h
      obtain rfl := Option.some.inj same
      obtain ⟨digit, rfl⟩ := Text.digitValue?_eq_some.mp first
      obtain ⟨all, rfl⟩ := ih.mp others
      exact ⟨⟨digit, all⟩, rfl⟩
    · rintro ⟨⟨digit, all⟩, rfl⟩
      apply Option.bind_eq_some_iff.mpr
      refine ⟨digitOf c, Text.digitValue?_eq_some.mpr ⟨digit, rfl⟩, ?_⟩
      exact Option.bind_eq_some_iff.mpr ⟨_, ih.mpr ⟨all, rfl⟩, rfl⟩

namespace Numeral

/-- The exponent that is written, or none. -/
def shift? (n : Numeral) : Option Int :=
  match n.exponent with
  | none => some 0
  | some text => (Text.readInt (2 ^ 31 - 1) text).toOption

/-- Digits before and behind the point, read one by one from an exponent on. -/
def readFrom (whole fraction : List Nat) (e : Int) : Option Reading := do
  let r ← whole.foldlM Reading.pushWhole ⟨0, e⟩
  fraction.foldlM Reading.pushFraction r

/-- The steps of reading a numeral. -/
theorem read?_eq (n : Numeral) :
    n.read? =
      if n.whole.isEmpty && n.fraction.isEmpty then none
      else (n.whole.mapM Text.digitValue?).bind fun whole =>
        (n.fraction.mapM Text.digitValue?).bind fun fraction =>
          n.shift?.bind (readFrom whole fraction) := by
  unfold read? shift?
  cases n.exponent <;> rfl

/-- **A numeral is read when it has digits, nothing but digits, and an exponent to start from.** -/
theorem read?_eq_some {n : Numeral} {r : Reading} :
    n.read? = some r ↔
      n.whole ++ n.fraction ≠ [] ∧ (∀ c ∈ n.whole ++ n.fraction, c.isDigit = true) ∧
        ∃ e, n.shift? = some e ∧
          readFrom (n.whole.map digitOf) (n.fraction.map digitOf) e = some r := by
  have empty : (n.whole.isEmpty && n.fraction.isEmpty) = true ↔ n.whole ++ n.fraction = [] := by
    rw [Bool.and_eq_true, List.isEmpty_iff, List.isEmpty_iff, List.append_eq_nil_iff]
  rw [List.forall_mem_append, read?_eq]
  split
  · next without =>
    refine ⟨nofun, ?_⟩
    rintro ⟨filled, -⟩
    exact absurd (empty.mp without) filled
  · next filled =>
    rw [empty] at filled
    simp only [Option.bind_eq_some_iff, mapM_digitValue?_eq_some]
    constructor
    · rintro ⟨_, ⟨whole, rfl⟩, _, ⟨fraction, rfl⟩, read⟩
      exact ⟨filled, ⟨whole, fraction⟩, read⟩
    · rintro ⟨-, ⟨whole, fraction⟩, read⟩
      exact ⟨_, ⟨whole, rfl⟩, _, ⟨fraction, rfl⟩, read⟩

end Numeral

namespace WrittenExponent

theorem read (x : WrittenExponent) :
    (Text.readInt (2 ^ 31 - 1) x.text).toOption = some x.value := by
  obtain ⟨low, high⟩ : -2 ^ 31 ≤ x.value ∧ x.value < 2 ^ 31 := countable_iff.mp x.counted
  apply toOption_eq_some.mpr
  exact Text.readInt_eq_ok.mpr ⟨x.sign, x.digits, rfl, x.filled, x.all, rfl, by omega, by omega⟩

/-- An exponent that is read is a sign and digits, and it can be counted. -/
theorem exists_of_read {text : List Char} {e : Int}
    (read : (Text.readInt (2 ^ 31 - 1) text).toOption = some e) {mark : Char}
    (isMark : mark = 'e' ∨ mark = 'E') :
    ∃ x : WrittenExponent, x.mark :: x.text = mark :: text := by
  obtain ⟨sign, digits, rfl, filled, all, rfl, low, high⟩ :=
    Text.readInt_eq_ok.mp (toOption_eq_some.mp read)
  have counted : countable (sign.apply (Nat.ofDigitChars 10 digits 0)) = true :=
    countable_iff.mpr ⟨by omega, by omega⟩
  exact ⟨⟨mark, isMark, sign, digits, filled, all, counted⟩, rfl⟩

end WrittenExponent

/-- **What is read is a decimal.** -/
theorem exists_decimal_of_read {text : List Char} {r : Reading}
    (h : (Numeral.ofChars text).read? = some r) : ∃ d : Decimal, text = d.chars := by
  obtain ⟨filled, all, e, shift, -⟩ := Numeral.read?_eq_some.mp h
  obtain ⟨sign, point, mark, parts, -, pointed, marked⟩ := exists_cut text
  obtain ⟨fraction, behind, digits⟩ : ∃ fraction : Option (List Char),
      point = fraction.elim [] ('.' :: ·) ∧ (Numeral.ofChars text).fraction = fraction.getD [] := by
    rcases pointed with ⟨rfl, without⟩ | rfl
    · exact ⟨none, rfl, without⟩
    · exact ⟨some _, rfl, rfl⟩
  obtain ⟨exponent, tail⟩ : ∃ exponent : Option WrittenExponent,
      mark = exponent.elim [] fun x => x.mark :: x.text := by
    rcases marked with ⟨rfl, -⟩ | ⟨c, written, rfl, isMark, found⟩
    · exact ⟨none, rfl⟩
    · unfold Numeral.shift? at shift
      rw [found] at shift
      obtain ⟨x, same⟩ := WrittenExponent.exists_of_read shift isMark
      exact ⟨some x, same.symm⟩
  rw [digits] at filled all
  refine ⟨⟨sign, _, fraction, exponent, filled, all⟩, parts.trans ?_⟩
  rw [behind, tail]
  rfl

namespace Decimal

variable {d d' : Decimal}

theorem shift?_numeral (d : Decimal) : d.numeral.shift? = some d.shift := by
  unfold Numeral.shift? numeral shift
  cases d.exponent with
  | none => rfl
  | some x => exact x.read

/-- **A decimal is read digit by digit.** -/
theorem read?_numeral (d : Decimal) {r : Reading} :
    d.numeral.read? = some r ↔
      Numeral.readFrom (d.whole.map digitOf) ((d.fraction.getD []).map digitOf) d.shift =
        some r := by
  rw [Numeral.read?_eq_some]
  constructor
  · rintro ⟨-, -, e, same, read⟩
    obtain rfl := Option.some.inj (d.shift?_numeral.symm.trans same)
    exact read
  · intro read
    exact ⟨d.filled, d.all, d.shift, d.shift?_numeral, read⟩

/-- **A text denotes one number**, in whatever way it is taken for a decimal. -/
theorem value_eq_of_chars_eq (h : d.chars = d'.chars) : d.value = d'.value := by
  have same : d.numeral = d'.numeral := by rw [← ofChars_chars, h, ofChars_chars]
  have shift : d.shift = d'.shift := by
    apply Option.some.inj
    rw [← shift?_numeral, same, shift?_numeral]
  have negative : d.sign.isNegative = d'.sign.isNegative := congrArg Numeral.negative same
  have whole : d.whole = d'.whole := congrArg Numeral.whole same
  have fraction : d.fraction.getD [] = d'.fraction.getD [] := congrArg Numeral.fraction same
  unfold value magnitude number power digits
  rw [negative, whole, fraction, shift]

end Decimal

/-- A text is a decimal between blanks, and denotes a number. -/
def Denotes (text : String) (x : ℚ) : Prop :=
  ∃ d : Decimal, Text.trimChars text.toList = d.chars ∧ d.value = x

theorem Denotes.unique {text : String} {x y : ℚ} (h : Denotes text x) (h' : Denotes text y) :
    x = y := by
  obtain ⟨d, shape, rfl⟩ := h
  obtain ⟨d', shape', rfl⟩ := h'
  exact Decimal.value_eq_of_chars_eq (shape.symm.trans shape')

end SwapPayout.Quantity
