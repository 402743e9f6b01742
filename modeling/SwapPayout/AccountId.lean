import SwapPayout.Base58
import SwapPayout.Error.Format
import SwapPayout.Hash.Ripemd160
import SwapPayout.Hash.Sha2

/-!
# Accounts

An account is named by twenty bytes, the double digest of its public key. Its classic address is the
base-58 text of a version byte, these bytes and a four-byte checksum of both, so a mistyped address
is noticed. Reading an address checks, in this order, the letters, the length, the version and the
checksum.
-/

namespace SwapPayout

/-- The name of an account: twenty bytes. -/
@[ext]
structure AccountId where
  bytes : Bytes
  length_bytes : bytes.length = 20
  deriving Repr

namespace AccountId

instance : DecidableEq AccountId := fun a b =>
  decidable_of_iff (a.bytes = b.bytes) AccountId.ext_iff.symm

/-- The account with these bytes, if they are twenty. -/
def ofBytes? (bytes : Bytes) : Option AccountId :=
  if h : bytes.length = 20 then some ⟨bytes, h⟩ else none

def ofPublicKey (key : Bytes) : Except FormatError AccountId :=
  if key.length = 33 then .ok ⟨ripemd160 (sha256 key), length_ripemd160 _⟩
  else .error (.publicKey s!"expected 33 bytes, got {key.length}")

/-! ## Classic addresses -/

def addressVersion : UInt8 := 0

/-- Four bytes that depend on every byte of the content. -/
def checksum (content : Bytes) : Bytes := (sha256 (sha256 content)).take 4

def address (id : AccountId) : String :=
  let content := addressVersion :: id.bytes
  Base58.encode (content ++ checksum content)

/-- What is wrong with an address. -/
inductive AddressError where
  | letters (error : Base58.Error)
  | length
  | version
  | checksum
  deriving Repr, DecidableEq

def AddressError.message : AddressError → String
  | .letters error => error.message
  | .length => "wrong length"
  | .version => "wrong version"
  | .checksum => "checksum mismatch"

def ofAddressBytes (bytes : Bytes) : Except AddressError AccountId :=
  if h : bytes.length = 25 then
    if bytes.head? ≠ some addressVersion then .error .version
    else if checksum (bytes.take 21) ≠ bytes.drop 21 then .error .checksum
    else .ok ⟨(bytes.drop 1).take 20, by simp [h]⟩
  else .error .length

/-- The account behind a classic address, or what is wrong with it. -/
def readAddress (text : String) : Except AddressError AccountId :=
  match Base58.decode text with
  | .error e => .error (.letters e)
  | .ok bytes => ofAddressBytes bytes

def ofAddress (text : String) : Except FormatError AccountId :=
  (readAddress text).mapError fun e => .address (text ++ ": " ++ e.message)

/-- Is the text the classic address of an account? -/
def isAddress (text : String) : Bool := (ofAddress text).toOption.isSome

end AccountId

end SwapPayout
