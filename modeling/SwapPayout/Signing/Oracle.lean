import SwapPayout.Key.Scheme

/-!
# The signing network

Keys of payouts are held in shares by a network that signs on request. A request names the key and
what to sign, and carries a context by which its operators can tell what they sign for. A reply
holds any number of signature texts; what to make of them is for the asking side to say.
-/

namespace SwapPayout

/-- What the signing network is asked for. -/
structure OracleRequest where
  scheme : SignatureScheme
  publicKey : String
  content : String
  context : String
  deriving DecidableEq, Repr

/-- What the signing network answers. -/
structure OracleReply where
  round : String
  rsvs : List String
  deriving DecidableEq, Repr

/-- A signing network with states of type `Ω`. -/
class Oracle (Ω : Type) where
  sign : OracleRequest → Ω → Except PayoutError OracleReply × Ω

end SwapPayout
