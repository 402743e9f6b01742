import SwapPayout.Wire.Field
import SwapPayout.Wire.Length

/-!
# Entries of serialized objects

A serialized object is its entries, one after the other: each a field's header and the bytes of its
value. A value without a binary form leaves the object without one.
-/

namespace SwapPayout.Wire

/-- A field with the binary form of its value, or why the value has none. -/
structure Entry where
  field : Field
  value : Except FormatError Bytes

namespace Entry

def uint16 (field : Field) (value : UInt16) : Entry := ⟨field, .ok (Bytes.ofNat 2 value.toNat)⟩

def uint32 (field : Field) (value : UInt32) : Entry := ⟨field, .ok (Bytes.ofNat 4 value.toNat)⟩

def blob (field : Field) (bytes : Bytes) : Entry := ⟨field, framed bytes⟩

/-- A field that has nothing but its header. -/
def marker (field : Field) : Entry := ⟨field, .ok []⟩

def encode (e : Entry) : Except FormatError Bytes := e.value.map (e.field.header ++ ·)

end Entry

/-- The binary form of an object; of several values without one, the first says why. -/
def encodeEntries (entries : List Entry) : Except FormatError Bytes :=
  (entries.mapM Entry.encode).map List.flatten

end SwapPayout.Wire
