/-!
# What the ledger's formats refuse

A value that cannot be read from its text, or cannot be written in the ledger's binary form. Each
cause says what the value was meant to be, and carries the detail that its wording shows.
-/

namespace SwapPayout

/-- Why a text or a value has no place in the ledger's formats. -/
inductive FormatError where
  | address (detail : String)
  | publicKey (detail : String)
  | currency (detail : String)
  | amount (detail : String)
  | path (detail : String)
  | binary (detail : String)
  deriving Repr, DecidableEq

def FormatError.message : FormatError → String
  | .address detail => "Invalid address: " ++ detail
  | .publicKey detail => "Invalid public key format: " ++ detail
  | .currency detail => "Invalid currency: " ++ detail
  | .amount detail => "Invalid amount: " ++ detail
  | .path detail => "Invalid path: " ++ detail
  | .binary detail => "Encoding error: " ++ detail

end SwapPayout
