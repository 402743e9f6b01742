import SwapPayout.Bytes

/-!
# Fields

A serialized object is a sequence of fields. A field is known by the code of its type and its own
code within the type; the pair orders the fields of an object, and the header that announces a field
in binary packs it in one to three bytes.
-/

namespace SwapPayout

/-- The types of field values. -/
inductive FieldType where
  | uint16
  | uint32
  | uint64
  | hash128
  | hash256
  | amount
  | blob
  | accountId
  | object
  | array
  | uint8
  | hash160
  | pathSet
  | vector256
  deriving DecidableEq, Repr

namespace FieldType

def code : FieldType → UInt8
  | uint16 => 1
  | uint32 => 2
  | uint64 => 3
  | hash128 => 4
  | hash256 => 5
  | amount => 6
  | blob => 7
  | accountId => 8
  | object => 14
  | array => 15
  | uint8 => 16
  | hash160 => 17
  | pathSet => 18
  | vector256 => 19

def all : List FieldType :=
  [uint16, uint32, uint64, hash128, hash256, amount, blob, accountId, object, array, uint8, hash160,
    pathSet, vector256]

def ofCode? (code : Nat) : Option FieldType := all.find? fun t => t.code.toNat == code

end FieldType

/-- A field of a serialized object. -/
structure Field where
  name : String
  type : FieldType
  code : UInt8
  signed : Bool := true
  deriving DecidableEq, Repr

namespace Field

/-- The key by which fields are ordered: the code of the type, then the field's own. -/
def rank (f : Field) : UInt8 × UInt8 := (f.type.code, f.code)

/-- Does the first field stand before the second? -/
def before (f g : Field) : Bool :=
  f.type.code < g.type.code || (f.type.code == g.type.code && f.code < g.code)

theorem before_asymm {f g : Field} (h : f.before g = true) : g.before f = false := by
  simp only [before, Bool.or_eq_true, Bool.and_eq_true, beq_iff_eq, decide_eq_true_eq] at h
  simp only [before, Bool.or_eq_false_iff, decide_eq_false_iff_not, Bool.and_eq_false_imp,
    beq_iff_eq]
  rcases h with type | ⟨type, code⟩
  · exact ⟨UInt8.lt_asymm type, fun same => absurd (same ▸ type) (UInt8.lt_irrefl _)⟩
  · exact ⟨type ▸ UInt8.lt_irrefl _, fun _ => UInt8.lt_asymm code⟩

/-- Fields in their order; fields with equal keys stay as they came. -/
def sort (fields : List Field) : List Field := fields.mergeSort fun f g => !g.before f

/-- The header: codes below sixteen share a byte, others take a byte of their own. -/
def header (f : Field) : Bytes :=
  let type := f.type.code
  if type < 16 then
    if f.code < 16 then [type <<< 4 ||| f.code] else [type <<< 4, f.code]
  else if f.code < 16 then [f.code, type] else [0, type, f.code]

/-! ## The fields of payments -/

def transactionType : Field where
  name := "TransactionType"
  type := .uint16
  code := 2

def flags : Field where
  name := "Flags"
  type := .uint32
  code := 2

/-- The number of the transaction among the sender's. -/
def sequence : Field where
  name := "Sequence"
  type := .uint32
  code := 4

/-- A number by which the receiver tells payments apart. -/
def destinationTag : Field where
  name := "DestinationTag"
  type := .uint32
  code := 14

def amount : Field where
  name := "Amount"
  type := .amount
  code := 1

def fee : Field where
  name := "Fee"
  type := .amount
  code := 8

def signingPubKey : Field where
  name := "SigningPubKey"
  type := .blob
  code := 3

/-- The signature, which cannot be part of what is signed. -/
def txnSignature : Field where
  name := "TxnSignature"
  type := .blob
  code := 4
  signed := false

def memoType : Field where
  name := "MemoType"
  type := .blob
  code := 12

def memoData : Field where
  name := "MemoData"
  type := .blob
  code := 13

def account : Field where
  name := "Account"
  type := .accountId
  code := 1

def destination : Field where
  name := "Destination"
  type := .accountId
  code := 3

def objectEndMarker : Field where
  name := "ObjectEndMarker"
  type := .object
  code := 1

def memo : Field where
  name := "Memo"
  type := .object
  code := 10

def arrayEndMarker : Field where
  name := "ArrayEndMarker"
  type := .array
  code := 1

def memos : Field where
  name := "Memos"
  type := .array
  code := 9

def paths : Field where
  name := "Paths"
  type := .pathSet
  code := 1

def known : List Field :=
  [transactionType, flags, sequence, destinationTag, amount, fee, signingPubKey, txnSignature,
    memoType, memoData, account, destination, objectEndMarker, memo, arrayEndMarker, memos, paths]

def ofName? (name : String) : Option Field := known.find? (·.name == name)

end Field

end SwapPayout
