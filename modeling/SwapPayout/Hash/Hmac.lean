import SwapPayout.Hash.Sha2

/-!
# Keyed digests

HMAC over SHA-256: the digest of a message under a key of at most one block, which is all that
deterministic signing needs.
-/

namespace SwapPayout

/-- The SHA-256 HMAC of a message under a key of at most 64 bytes. -/
def hmacSha256 (key message : Bytes) : Bytes :=
  let block := key ++ List.replicate (64 - key.length) 0
  sha256 (block.map (· ^^^ 0x5c) ++ sha256 (block.map (· ^^^ 0x36) ++ message))

end SwapPayout
