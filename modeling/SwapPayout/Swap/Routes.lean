import SwapPayout.Error.Payout
import SwapPayout.Token

/-!
# Routes and registry

What the router itself knows and a payout looks up: which token a swap pays out, what is known of a
token, what a swap is worth on the other side; which chains are served, which account pays on each,
and with which key.
-/

namespace SwapPayout

/-- The question what a swap is worth in the token it pays out. -/
structure Conversion where
  tokenId : String
  toChain : String
  paidIn : Nat
  fromDecimals : UInt8
  toDecimals : UInt8
  originSender : String
  originTarget : String

/-- What is known of tokens. -/
structure Routes where
  /-- The token that stands for a router token on a chain. -/
  payoutToken : (tokenId chain : String) → Option String
  token : (chain name : String) → Option Token
  /-- What is paid out, in smallest units. -/
  convert : Conversion → Nat

/-- What is known of chains and the accounts that pay on them. -/
structure Registry where
  serves : (chain : String) → Bool
  /-- The account that pays a router token on a chain. -/
  payer : (tokenId chain : String) → Except PayoutError String
  /-- The public key of an account, in hexadecimal digits. -/
  publicKey : (address : String) → Option String

end SwapPayout
