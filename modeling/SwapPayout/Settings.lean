import SwapPayout.Json.Reader
import SwapPayout.Json.Record

/-!
# Settings

The router's settings: the chains it serves, by their identifiers, and the private keys of chains
that are signed for locally. `Settings.ofText` reads and checks them; settings that did not come
from a text may break the rules that are checked there.
-/

namespace SwapPayout

open Json (Value Record)

/-- The settings of a chain. -/
structure ChainSettings where
  id : String
  ledgerName : String
  /-- Drops that a sender must keep on top of a payment. -/
  margin : Option UInt64 := none
  reserve : Option UInt64 := none
  /-- The fee of a transaction in drops. -/
  fee : Option UInt64 := none
  deriving DecidableEq, Repr

/-- The settings of the router. -/
structure Settings where
  /-- Serve swaps to any chain, not only to one's own. -/
  testMode : Bool := false
  /-- Sign with the private keys of the settings and not through the signing network. -/
  signsLocally : Bool := false
  chains : List (String × ChainSettings) := []
  privateKeys : List (String × String) := []
  deriving Repr

def readWord (v : Value) : Option UInt64 := (v.natBelow? (2 ^ 64)).map UInt64.ofNat

def ChainSettings.ofJson? (v : Value) : Option ChainSettings := do
  let record ← Record.ofValue?
    ["chain_id", "block_chain", "min_reserve_fee", "account_reserve", "default_fee"] v
  return { id := ← record.required "chain_id" Value.text?
           ledgerName := ← record.required "block_chain" Value.text?
           margin := ← record.omissible "min_reserve_fee" readWord
           reserve := ← record.omissible "account_reserve" readWord
           fee := ← record.omissible "default_fee" readWord }

namespace Settings

/-- Reads the settings of the router. Of two settings for one chain the later counts. -/
def ofJson? (v : Value) : Option Settings := do
  let record ← Record.ofValue?
    ["is_test_mode", "sign_with_private_key", "chains", "signer_private_keys"] v
  return { testMode := ← record.defaulted "is_test_mode" false Value.bool?
           signsLocally := ← record.defaulted "sign_with_private_key" false Value.bool?
           chains := ← record.defaulted "chains" [] (Value.table? ChainSettings.ofJson?)
           privateKeys := ← record.defaulted "signer_private_keys" [] (Value.table? Value.text?) }

def chain? (settings : Settings) (chain : String) : Option ChainSettings :=
  settings.chains.lookup chain

def privateKey? (settings : Settings) (chain : String) : Option String :=
  settings.privateKeys.lookup chain

/-- Why settings cannot be used. -/
inductive Error where
  | malformed
  | unreadable (path : String)
  /-- A chain is entered under another identifier than its own. -/
  | misfiled (key id : String)
  | namelessLedger (key : String)
  | noPrivateKey (key : String)
  deriving Repr, DecidableEq

def Error.message : Error → String
  | malformed => "Failed to parse router config"
  | unreadable path => s!"Failed to read router config {path}"
  | misfiled key id => s!"chain config key {key} does not match chain_id {id}"
  | namelessLedger key => s!"chain {key} has empty block_chain"
  | noPrivateKey key => s!"sign_with_private_key is set but chain {key} has no signer private key"

def checkChain (settings : Settings) (key : String) (chain : ChainSettings) : Except Error Unit :=
  if key ≠ chain.id then .error (.misfiled key chain.id)
  else if chain.ledgerName.isEmpty then .error (.namelessLedger key)
  else if settings.signsLocally && (settings.privateKey? key).isNone then
    .error (.noPrivateKey key)
  else .ok ()

def check (settings : Settings) : Except Error Unit :=
  settings.chains.forM fun (key, chain) => settings.checkChain key chain

/-- The settings that a text spells, checked. -/
def ofText (text : String) : Except Error Settings :=
  match (Value.read? text).bind ofJson? with
  | none => .error .malformed
  | some settings => settings.check.map fun _ => settings

end Settings

end SwapPayout
