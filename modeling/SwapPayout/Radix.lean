/-!
# Numerals in any base

A number as the list of its digits, most significant first, without leading zeros; zero has no
digits. `ofDigits` reads any list of digits, so `ofDigits_toDigits` says that nothing is lost by
writing.
-/

namespace SwapPayout.Radix

/-- Puts the digits of a number in front of some others. -/
def prependDigits (base n : Nat) (digits : List Nat) : List Nat :=
  if n = 0 ∨ base < 2 then digits
  else prependDigits base (n / base) (n % base :: digits)
termination_by n
decreasing_by exact Nat.div_lt_self (by omega) (by omega)

def toDigits (base n : Nat) : List Nat := prependDigits base n []

def ofDigits (base : Nat) (digits : List Nat) : Nat := digits.foldl (fun n d => n * base + d) 0

/-- Reading goes on behind a number that has been put in front. -/
theorem foldl_prependDigits (base : Nat) (h : 2 ≤ base) (n : Nat) (digits : List Nat) :
    ofDigits base (prependDigits base n digits) = digits.foldl (fun n d => n * base + d) n := by
  fun_induction prependDigits base n digits with
  | case1 n digits hn =>
    have : n = 0 := by omega
    simp [ofDigits, this]
  | case2 n digits hn ih =>
    rw [ih, List.foldl_cons, Nat.div_add_mod']

/-- What is written reads back. -/
theorem ofDigits_toDigits (base : Nat) (h : 2 ≤ base) (n : Nat) :
    ofDigits base (toDigits base n) = n := by
  rw [toDigits, foldl_prependDigits base h n []]
  rfl

end SwapPayout.Radix
