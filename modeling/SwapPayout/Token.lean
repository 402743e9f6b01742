import SwapPayout.Amount
import SwapPayout.Error.Payout
import SwapPayout.Json.Record

/-!
# Tokens

What the router knows of a token on a chain. A token of the ledger stands for an asset there: a
currency, and for an issued one its issuer. Amounts of the router are natural numbers of the token's
smallest unit; `Token.ledgerAmount` turns one into what the ledger moves.
-/

namespace SwapPayout

open Json (Value Record)

/-- An asset of the ledger, as it is written in settings. -/
structure LedgerAsset where
  currency : String
  issuer : String := ""
  deriving DecidableEq, Repr

namespace LedgerAsset

def native : LedgerAsset := { currency := Currency.nativeName }

def isNative (a : LedgerAsset) : Bool := a.currency == Currency.nativeName

def ofJson? (v : Value) : Option LedgerAsset := do
  let record ← Record.ofValue? ["currency", "issuer"] v
  return { currency := ← record.required "currency" Value.text?
           issuer := ← record.defaulted "issuer" "" Value.text? }

def toJson (a : LedgerAsset) : Value :=
  Value.ofMembers [("currency", .ofString a.currency), ("issuer", .ofString a.issuer)]

end LedgerAsset

/-- What the router knows of a token on a chain. -/
structure Token where
  tokenId : String
  decimals : UInt8
  contractAddress : String
  asset : Option LedgerAsset := none
  deriving DecidableEq, Repr

namespace Token

def isNative (t : Token) : Bool := (t.asset.map LedgerAsset.isNative).getD false

/-- The currency code on the ledger; empty for a token that is not on it. -/
def currencyCode (t : Token) : String := (t.asset.map (·.currency)).getD ""

/-- The issuer on the ledger; empty for a token that has none. -/
def issuerText (t : Token) : String := (t.asset.map (·.issuer)).getD ""

def ofJson? (v : Value) : Option Token := do
  let record ← Record.ofValue? ["token_id", "decimals", "contract_address", "ripple_extra"] v
  let decimals ← record.required "decimals" (Value.natBelow? 256)
  return { tokenId := ← record.required "token_id" Value.text?
           decimals := UInt8.ofNat decimals
           contractAddress := ← record.required "contract_address" Value.text?
           asset := ← record.omissible "ripple_extra" LedgerAsset.ofJson? }

def toJson (t : Token) : Value :=
  Value.ofMembers [
    ("token_id", .ofString t.tokenId),
    ("decimals", .ofInt t.decimals.toNat),
    ("contract_address", .ofString t.contractAddress),
    ("ripple_extra", (t.asset.map LedgerAsset.toJson).getD .null)]

/-- What the ledger moves for a number of the token's smallest units: drops, or the number scaled by
the token's decimals. -/
def ledgerAmount (t : Token) (units : Nat) : Except PayoutError Amount := do
  let currency ← (Currency.ofCode t.currencyCode).mapError fun _ => .noSuchCurrency t.currencyCode
  if 2 ^ 63 ≤ units then throw (.amountTooLarge (toString units))
  if currency.isNative then
    (Amount.ofDrops units).mapError PayoutError.ofFormat
  else
    let issuer ← (AccountId.ofAddress t.issuerText).mapError fun _ => .noSuchIssuer t.issuerText
    let quantity ← (Quantity.scaled units (-(t.decimals.toNat : Int))).mapError
      PayoutError.ofFormat
    return .issued quantity currency issuer

end Token

end SwapPayout
