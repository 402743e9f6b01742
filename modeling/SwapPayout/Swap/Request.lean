import SwapPayout.Json.Printer

/-!
# Swap requests

A swap that was paid in on one chain and is to be paid out on another. The first attempt to build
its payout pins a sequence number and a fee, and every later attempt uses these, so that one swap is
never paid twice.

The context is what the signing network's operators are told of a swap: one line of JSON.
-/

namespace SwapPayout

/-- The kinds of swaps. -/
inductive SwapKind where
  | erc20
  | nft
  | anyCall
  deriving DecidableEq, Repr

def SwapKind.name : SwapKind → String
  | erc20 => "erc20swap"
  | nft => "nftswap"
  | anyCall => "anycallswap"

/-- The token that was paid in: its address there, and the router's name for it. -/
structure SwapToken where
  token : String
  tokenId : String
  deriving DecidableEq, Repr

/-- The sequence number and the fee that a swap's payout uses. -/
structure Pinned where
  sequence : UInt64
  fee : String
  deriving DecidableEq, Repr

/-- A swap to be paid out. -/
structure SwapRequest where
  id : String
  kind : SwapKind
  fromChain : String
  toChain : String
  sender : String
  receiver : String
  originSender : String
  originTarget : String
  paidIn : Nat
  token : Option SwapToken
  pinned : Option Pinned
  deriving DecidableEq, Repr

namespace SwapRequest

/-- The router's name for the token; empty when the swap names none. -/
def tokenId (r : SwapRequest) : String := (r.token.map (·.tokenId)).getD ""

open Json (Value)

/-- The context of a swap as members of a JSON object. What is not pinned yet is left out. -/
def contextMembers (r : SwapRequest) : List (String × Value) :=
  [("swap_id", .ofString r.id), ("from_chain_id", .ofString r.fromChain),
    ("to_chain_id", .ofString r.toChain), ("token_id", .ofString r.tokenId)]
    ++ match r.pinned with
      | none => []
      | some p => [("sequence", .ofInt p.sequence.toNat), ("fee", .ofString p.fee)]

def context (r : SwapRequest) : String := (Value.ofMembers r.contextMembers).render

end SwapRequest

end SwapPayout
