/-!
# Powers by repeated doubling

A number's binary digits, read from the top, say how to reach a power or a multiple in few steps:
double for every digit, and add once more for every one. The same scheme serves numbers modulo a
prime and points of a curve.
-/

namespace SwapPayout.Curve

/-- The binary digits of a number, most significant first; none for zero. -/
def bits (n : Nat) : List Bool :=
  if n = 0 then [] else (List.range (n.log2 + 1)).reverse.map n.testBit

/-- Doubles for every digit of the number and adds the element for every one, starting at zero. -/
@[specialize] def multiple {α : Type} (zero : α) (double : α → α) (add : α → α → α) (element : α)
    (n : Nat) : α :=
  (bits n).foldl (fun sum one => if one then add (double sum) element else double sum) zero

/-- A power modulo `m`. -/
def powMod (m base exponent : Nat) : Nat :=
  multiple 1 (fun x => x * x % m) (fun x y => x * y % m) (base % m) exponent

/-- The inverse modulo a prime; zero for zero. -/
def inverseMod (prime n : Nat) : Nat := powMod prime n (prime - 2)

/-- The difference modulo `m` of two numbers below it. -/
def subMod (m a b : Nat) : Nat := (a + (m - b)) % m

end SwapPayout.Curve
