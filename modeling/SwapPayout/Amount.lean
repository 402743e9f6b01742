import SwapPayout.AccountId
import SwapPayout.Currency
import SwapPayout.Quantity.Notation

/-!
# Amounts

A payment moves either the ledger's own asset, counted in drops, or a quantity of an issued asset.
In binary the first takes eight bytes and the second forty-eight, told apart by the first bit.
-/

namespace SwapPayout

/-- What a payment moves. -/
inductive Amount where
  | native (drops : Int)
  | issued (quantity : Quantity) (currency : Currency) (issuer : AccountId)
  deriving DecidableEq, Repr

namespace Amount

def maxDrops : Int := 10 ^ 17

def areDrops (drops : Int) : Bool := 0 ≤ drops && drops ≤ maxDrops

def ofDrops (drops : Int) : Except FormatError Amount :=
  if areDrops drops then .ok (native drops)
  else .error (.amount s!"native amount {drops} out of range")

def isNative : Amount → Bool
  | native _ => true
  | issued .. => false

/-- The binary form: drops with a marker bit, or the quantity, the currency and the issuer. -/
def toBytes : Amount → Except FormatError Bytes
  | native drops =>
    if areDrops drops then .ok (Bytes.ofNat 8 (2 ^ 62 + drops.toNat))
    else .error (.amount s!"native amount {drops} out of range")
  | issued quantity currency issuer =>
    if currency.isNative then .error (.currency "issued amount cannot use XRP")
    else .ok (quantity.toBytes ++ currency.bytes ++ issuer.bytes)

/-- The text of an amount: drops, or quantity, currency and issuer with slashes between. -/
def text : Amount → String
  | native drops => toString drops
  | issued quantity currency issuer =>
    quantity.text ++ "/" ++ currency.text ++ "/" ++ issuer.address

end Amount

end SwapPayout
