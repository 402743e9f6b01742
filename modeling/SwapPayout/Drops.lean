import SwapPayout.Amount
import SwapPayout.Text.Integer

/-!
# Drops in text

An amount of the ledger's own asset as an operator writes it: a whole number of drops, or, with a
point, a decimal number of units of a million drops.
-/

namespace SwapPayout.Drops

/-- The number of digits after the point. -/
def places : Nat := 6

def perUnit : Int := 10 ^ 6

/-- The drops of a whole part and up to six digits after the point. The sign of the whole part is
that of a number of its own: the digits after the point are added whatever it is. -/
def ofDecimal? (whole fraction : List Char) : Option Int := do
  let digits ← fraction.mapM Text.digitValue?
  if digits.length > places then none
  let units ← if whole.isEmpty then some 0 else (Text.readInt (2 ^ 63 - 1) whole).toOption
  let rest := (digits ++ List.replicate (places - digits.length) 0).foldl (fun n d => n * 10 + d) 0
  return units * perUnit + (rest : Nat)

/-- The drops that a text denotes, whether or not there can be so many. -/
def read? (text : List Char) : Option Int :=
  let whole := text.takeWhile (· != '.')
  match text.drop whole.length with
  | [] => (Text.readInt (2 ^ 63 - 1) whole).toOption
  | _ :: fraction => ofDecimal? whole fraction

def parse (text : String) : Except FormatError Int :=
  match (read? text.toList).filter Amount.areDrops with
  | some drops => .ok drops
  | none => .error (.amount ("malformed native value " ++ text))

end SwapPayout.Drops
