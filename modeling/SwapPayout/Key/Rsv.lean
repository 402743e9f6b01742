import SwapPayout.Key.Scheme
import SwapPayout.Radix
import SwapPayout.Signature.Der

/-!
# Signature texts

The signing network gives signatures as hexadecimal text. An ECDSA text holds `r` and `s`, 32 bytes
each, and one more byte that means nothing; an EdDSA text holds the signature's 64 bytes.

Signatures made from ECDSA texts are always the low one of the pair that verifies together.
-/

namespace SwapPayout.Rsv

def ecdsaDigits : Nat := 130

/-- The numbers `r` and `s` of an ECDSA text. -/
def readEcdsa (rsv : String) : Except PayoutError (Nat × Nat) :=
  let digits := Hex.withoutMarker rsv
  if digits.utf8ByteSize ≠ ecdsaDigits then
    .error (.badSignature
      s!"ecdsa rsv must be {ecdsaDigits} hex chars, got {digits.utf8ByteSize}")
  else match Hex.decode digits with
    | .error e => .error (.badSignature ("invalid rsv hex: " ++ e.message))
    | .ok bytes => .ok (Bytes.toNat (bytes.take 32), Bytes.toNat ((bytes.drop 32).take 32))

/-- The upper-case digits of a number, filled up with zeros to 64. -/
def paddedDigits (n : Nat) : List Char :=
  let digits := (Radix.toDigits 16 n).map Hex.upperDigit
  List.replicate (64 - digits.length) '0' ++ digits

/-- The ECDSA text of `r` and `s`. -/
def writeEcdsa (r s : Nat) : String :=
  String.ofList (paddedDigits r ++ paddedDigits s ++ ['0', '0'])

/-- The low signature of two numbers, in its distinguished form. -/
def derOfNumbers (r s : Nat) : Except PayoutError Bytes :=
  if 2 ^ 256 ≤ r then .error (.badSignature "r exceeds 32 bytes")
  else if 2 ^ 256 ≤ s then .error (.badSignature "s exceeds 32 bytes")
  else match Ecdsa.Scalar.ofNat? r, Ecdsa.Scalar.ofNat? s with
    | some r, some s => .ok (Ecdsa.Signature.normalize ⟨r, s⟩).toDer
    | _, _ => .error (.badSignature "invalid ecdsa scalars: signature error")

/-- The signature that the ledger stores, from its text. -/
def toSignature (rsv : String) : SignatureScheme → Except PayoutError Bytes
  | .ecdsa => do
    let (r, s) ← readEcdsa rsv
    derOfNumbers r s
  | .eddsa =>
    match readHex rsv with
    | .error e => .error (.badSignature e.message)
    | .ok signature =>
      if signature.length = 64 then .ok signature
      else .error (.badSignature s!"ed25519 signature must be 64 bytes, got {signature.length}")

/-- The text of a signature that the ledger stores. -/
def ofSignature (signature : Bytes) : SignatureScheme → Except PayoutError String
  | .ecdsa =>
    match Ecdsa.Signature.ofDer? signature with
    | some sig => .ok (writeEcdsa sig.r.val sig.s.val)
    | none => .error (.badSignature "parse signature error: signature error")
  | .eddsa => .ok (Hex.upper signature)

end SwapPayout.Rsv
