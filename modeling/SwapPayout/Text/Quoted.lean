import SwapPayout.Bytes.Hex

/-!
# Quoted characters

How a stray character is shown in a diagnostic: between single quotes, with the usual escapes for
the five awkward ones and the backslash, and by its number when it has no visible form. Only
characters below 256 are ever shown, because a stray byte is shown as the character of its number.
-/

namespace SwapPayout.Text

/-- Has a character below 256 a visible form? The controls, the hard space and the soft hyphen have
none. -/
def isVisible (c : Char) : Bool :=
  (0x20 ≤ c.toNat && c.toNat < 0x7f) || (0xa0 < c.toNat && c.toNat != 0xad)

/-- The number of a character in lower-case digits, without leading zeros. -/
def codeDigits (n : Nat) : List Char := Nat.toDigits 16 n

/-- What stands between the quotes for a character. -/
def escaped (c : Char) : List Char :=
  match c with
  | '\x00' => ['\\', '0']
  | '\t' => ['\\', 't']
  | '\n' => ['\\', 'n']
  | '\r' => ['\\', 'r']
  | '\'' => ['\\', '\'']
  | '\\' => ['\\', '\\']
  | c => if isVisible c then [c] else ['\\', 'u', '\x7b'] ++ codeDigits c.toNat ++ ['\x7d']

def quoted (c : Char) : String := String.ofList ('\'' :: escaped c ++ ['\''])

end SwapPayout.Text

namespace SwapPayout.Hex

def Error.message : Error → String
  | .halfByte => "Odd number of digits"
  | .strayByte byte offset =>
    "Invalid character " ++ Text.quoted (Char.ofNat byte.toNat) ++ s!" at position {offset}"

end SwapPayout.Hex
