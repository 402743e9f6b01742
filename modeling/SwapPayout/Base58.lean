import SwapPayout.Bytes
import SwapPayout.Radix
import SwapPayout.Text.Quoted

/-!
# Base 58

Byte strings as numerals in an alphabet of 58 letters and digits. Leading zero bytes, which a
numeral would lose, are written as as many leading zero letters, so no two byte strings share a
text.
-/

namespace SwapPayout.Base58

def alphabet : List Char :=
  "rpshnaf39wBUDNEGHJKLM4PQRST7VWXYZ2bcdeCg65jkm8oFqi1tuvAxyz".toList

def zeroLetter : Char := 'r'

def letter (value : Nat) : Char := alphabet.getD value zeroLetter

def value? (c : Char) : Option Nat := alphabet.idxOf? c

def encode (bytes : Bytes) : String :=
  let zeros := (bytes.takeWhile (· == 0)).length
  String.ofList
    (List.replicate zeros zeroLetter ++ (Radix.toDigits 58 (Bytes.toNat bytes)).map letter)

/-- Why a text stands for no byte string. -/
inductive Error where
  /-- A character outside the alphabet, after so many bytes. -/
  | strayCharacter (c : Char) (offset : Nat)
  /-- A character outside ASCII, after so many bytes. -/
  | beyondAscii (offset : Nat)
  deriving Repr, DecidableEq

def Error.message : Error → String
  | .strayCharacter c offset =>
    "provided string contained invalid character " ++ Text.quoted c ++ s!" at byte {offset}"
  | .beyondAscii offset =>
    s!"provided string contained non-ascii character starting at byte {offset}"

/-- The values of the characters of a text, up to the first that is no digit. -/
def values : (offset : Nat) → List Char → Except Error (List Nat)
  | _, [] => .ok []
  | offset, c :: rest =>
    match value? c with
    | some value => (values (offset + 1) rest).map (value :: ·)
    | none => .error (if c.toNat < 128 then .strayCharacter c offset else .beyondAscii offset)

def decode (text : String) : Except Error Bytes := do
  let digits ← values 0 text.toList
  let zeros := (digits.takeWhile (· == 0)).length
  return List.replicate zeros 0
    ++ (Radix.toDigits 256 (Radix.ofDigits 58 digits)).map UInt8.ofNat

end SwapPayout.Base58
