import SwapPayout.Quantity.Basic
import SwapPayout.Radix
import SwapPayout.Text.Blank
import SwapPayout.Text.Integer

/-!
# Quantities in text

Reading takes a decimal with an optional sign, point and exponent, surrounded by blanks. Eighteen
digits are kept while reading; further ones only count, before the point, toward the exponent.
Writing is positional, without exponent, trailing zeros or a needless point.
-/

namespace SwapPayout.Quantity

/-! ## Reading -/

/-- Digits read so far, and the power of ten they are to be multiplied with. -/
structure Reading where
  mantissa : Nat
  exponent : Int

/-- From this number on, further digits are not kept. -/
def keptLimit : Nat := 10 ^ 17

namespace Reading

/-- A reading whose exponent can still be counted. -/
def checked (r : Reading) : Option Reading := if countable r.exponent then some r else none

/-- A digit before the point. -/
def pushWhole (r : Reading) (d : Nat) : Option Reading :=
  if r.mantissa < keptLimit then some { r with mantissa := r.mantissa * 10 + d }
  else checked { r with exponent := r.exponent + 1 }

/-- A digit after the point. -/
def pushFraction (r : Reading) (d : Nat) : Option Reading :=
  if r.mantissa < keptLimit then checked ⟨r.mantissa * 10 + d, r.exponent - 1⟩ else some r

end Reading

/-- The parts of a decimal text, each as it is written. -/
structure Numeral where
  negative : Bool
  whole : List Char
  fraction : List Char
  exponent : Option (List Char)

/-- Cuts a text at its sign, its first exponent mark and its first point. -/
def Numeral.ofChars (text : List Char) : Numeral :=
  let (negative, unsigned) : Bool × List Char :=
    match text with
    | '-' :: rest => (true, rest)
    | '+' :: rest => (false, rest)
    | rest => (false, rest)
  let number := unsigned.takeWhile fun c => c != 'e' && c != 'E'
  let whole := number.takeWhile (· != '.')
  { negative
    whole
    fraction := (number.drop whole.length).drop 1
    exponent :=
      match unsigned.drop number.length with
      | [] => none
      | _ :: exponent => some exponent }

/-- The digits and the exponent of a numeral with at least one digit and nothing but digits. -/
def Numeral.read? (n : Numeral) : Option Reading := do
  if n.whole.isEmpty && n.fraction.isEmpty then none
  let whole ← n.whole.mapM Text.digitValue?
  let fraction ← n.fraction.mapM Text.digitValue?
  let exponent ← match n.exponent with
    | none => some 0
    | some text => (Text.readInt (2 ^ 31 - 1) text).toOption
  let r ← whole.foldlM Reading.pushWhole ⟨0, exponent⟩
  fraction.foldlM Reading.pushFraction r

def parse (text : String) : Except FormatError Quantity :=
  let numeral := Numeral.ofChars (Text.trimChars text.toList)
  match numeral.read? with
  | some r => ofParts numeral.negative r.mantissa r.exponent
  | none => .error (.amount text)

/-! ## Writing -/

/-- The digits of a number without the zeros at its end. -/
def leadingDigits (digits : List Nat) : List Nat := (digits.reverse.dropWhile (· == 0)).reverse

/-- The characters of a magnitude `digits × 10 ^ exponent`, with a point where one is needed. -/
def positional (digits : List Char) (exponent : Int) : List Char :=
  if 0 ≤ exponent then digits ++ List.replicate exponent.toNat '0'
  else
    let places := exponent.natAbs
    if places < digits.length then
      digits.take (digits.length - places) ++ '.' :: digits.drop (digits.length - places)
    else '0' :: '.' :: List.replicate (places - digits.length) '0' ++ digits

def text (q : Quantity) : String :=
  if q.isZero then "0"
  else
    let all := Radix.toDigits 10 q.mantissa
    let digits := leadingDigits all
    let magnitude :=
      positional (digits.map Nat.digitChar) (q.exponent + (all.length - digits.length : Nat))
    String.ofList (if q.negative then '-' :: magnitude else magnitude)

end SwapPayout.Quantity
