import SwapPayout.Bytes.Hex
import SwapPayout.Error.Format

/-!
# Currencies

A currency is a code of twenty bytes; all zeros is the ledger's own asset. In text it is the native
name, a three-character code kept in the thirteenth to fifteenth byte, or forty hexadecimal digits.
-/

namespace SwapPayout

/-- A currency code: twenty bytes. -/
structure Currency where
  bytes : Bytes
  length_bytes : bytes.length = 20
  deriving DecidableEq, Repr

namespace Currency

def native : Currency := ⟨List.replicate 20 0, rfl⟩

def isNative (c : Currency) : Bool := c == native

/-- The currency with these bytes, if they are twenty. -/
def ofBytes? (bytes : Bytes) : Option Currency :=
  if h : bytes.length = 20 then some ⟨bytes, h⟩ else none

def nativeName : String := "XRP"

def isCodeChar (c : Char) : Bool :=
  ('A' ≤ c && c ≤ 'Z') || ('a' ≤ c && c ≤ 'z') || ('0' ≤ c && c ≤ '9')
    || "?!@#$%^&*<>()\x7b\x7d[]|".toList.contains c

/-- The code with three characters in its standard place. -/
def standard (a b c : UInt8) : Currency :=
  ⟨List.replicate 12 0 ++ [a, b, c] ++ List.replicate 5 0, rfl⟩

def ofHex? (code : String) : Option Currency := do
  let bytes ← (Hex.decode code).toOption
  ofBytes? bytes

def ofCode (code : String) : Except FormatError Currency :=
  if code = nativeName then .ok native
  else match code.toList with
    | [a, b, c] =>
      if isCodeChar a && isCodeChar b && isCodeChar c then
        .ok (standard (UInt8.ofNat a.toNat) (UInt8.ofNat b.toNat) (UInt8.ofNat c.toNat))
      else .error (.currency code)
    | _ =>
      match ofHex? code with
      | some currency => .ok currency
      | none => .error (.currency code)

/-- The three bytes in the standard place, when all others are zero. -/
def standardBytes? (c : Currency) : Option Bytes :=
  if (c.bytes.take 12).all (· == 0) && (c.bytes.drop 15).all (· == 0) then
    some ((c.bytes.drop 12).take 3)
  else none

/-- The text of a currency: its name, three characters where they are text, or all its digits. -/
def text (c : Currency) : String :=
  if c.isNative then nativeName
  else match c.standardBytes?.bind fun bs => String.fromUTF8? ⟨bs.toArray⟩ with
    | some code => code
    | none => Hex.upper c.bytes

end Currency

end SwapPayout
