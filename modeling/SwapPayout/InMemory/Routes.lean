import SwapPayout.Swap.Routes

/-!
# Routes and registry in memory

Tables in place of the router's own services. Of repeated entries the last counts. A swap is worth
its origin value rescaled from the decimals of one token to those of the other, or a fixed number.
-/

namespace SwapPayout.InMemory

def lookupLast {α β : Type} [BEq α] (key : α) (entries : List (α × β)) : Option β :=
  entries.reverse.lookup key

/-- A number of smallest units in other decimals, rounded down. -/
def rescale (value fromDecimals toDecimals : Nat) : Nat :=
  if fromDecimals ≤ toDecimals then value * 10 ^ (toDecimals - fromDecimals)
  else value / 10 ^ (fromDecimals - toDecimals)

/-- Routes from tables of tokens by chain and name, and of names by router token and chain. -/
def routes (tokens : List ((String × String) × Token))
    (destinations : List ((String × String) × String)) (worth : Option Nat) : Routes where
  payoutToken tokenId chain := lookupLast (tokenId, chain) destinations
  token chain name := lookupLast (chain, name) tokens
  convert c := worth.getD (rescale c.paidIn c.fromDecimals.toNat c.toDecimals.toNat)

/-- A registry with one paying account, which pays every named token. -/
def registry (served : List String) (payer : String) (publicKeys : List (String × String)) :
    Registry where
  serves chain := served.contains chain
  payer tokenId chain :=
    if tokenId.isEmpty then .error (.noPayer tokenId chain) else .ok payer
  publicKey address := lookupLast address publicKeys

end SwapPayout.InMemory
