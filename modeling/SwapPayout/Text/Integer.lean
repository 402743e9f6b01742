/-!
# Integers in text

Decimal integers within a bound: an optional sign, then ASCII digits and nothing else. The text is
read from the left, so a number that has grown past its bound is refused before a stray character
further right is seen.
-/

-- As for byte strings, powers of numbers are the core library's.
attribute [instance (high), default_instance (high + 1)] instPowNat

namespace SwapPayout.Text

/-- Why a text is no integer of the wanted range. -/
inductive IntegerError where
  | empty
  | strayCharacter
  | aboveRange
  | belowRange
  deriving Repr, DecidableEq

def IntegerError.message : IntegerError → String
  | .empty => "cannot parse integer from empty string"
  | .strayCharacter => "invalid digit found in string"
  | .aboveRange => "number too large to fit in target type"
  | .belowRange => "number too small to fit in target type"

/-- The value of an ASCII decimal digit. -/
def digitValue? (c : Char) : Option Nat :=
  if '0' ≤ c ∧ c ≤ '9' then some (c.toNat - 48) else none

/-- Appends digits to a number that must stay at or below the limit; `beyond` is the error past
it. -/
def readDigits (limit : Nat) (beyond : IntegerError) :
    (read : Nat) → List Char → Except IntegerError Nat
  | n, [] => .ok n
  | n, c :: rest =>
    match digitValue? c with
    | none => .error .strayCharacter
    | some d =>
      if n * 10 + d ≤ limit then readDigits limit beyond (n * 10 + d) rest else .error beyond

/-- A natural number at most `limit`, with an optional plus sign. -/
def readNat (limit : Nat) (text : List Char) : Except IntegerError Nat :=
  match text with
  | [] => .error .empty
  | ['+'] => .error .strayCharacter
  | '+' :: digits => readDigits limit .aboveRange 0 digits
  | digits => readDigits limit .aboveRange 0 digits

/-- An integer of `-limit - 1 … limit`, with an optional sign. -/
def readInt (limit : Nat) (text : List Char) : Except IntegerError Int :=
  match text with
  | [] => .error .empty
  | ['+'] => .error .strayCharacter
  | ['-'] => .error .strayCharacter
  | '+' :: digits => (readDigits limit .aboveRange 0 digits).map Int.ofNat
  | '-' :: digits => (readDigits (limit + 1) .belowRange 0 digits).map fun n => -(n : Int)
  | digits => (readDigits limit .aboveRange 0 digits).map Int.ofNat

/-- A number of 64 bits. -/
def readUInt64 (text : String) : Except IntegerError UInt64 :=
  (readNat (2 ^ 64 - 1) text.toList).map UInt64.ofNat

end SwapPayout.Text
