import SwapPayout.Wire.Entry

/-!
# Writing on after a failure

Writes go to one byte string, one after the other. One that fails leaves the header of its field
behind and does not stop the next.
-/

namespace SwapPayout.Wire

/-- One thing to write. -/
inductive Write where
  | raw (bytes : Bytes)
  | entry (entry : Entry)

/-- The bytes that were written, and why not all were. -/
def Write.run : Write → Bytes × Option FormatError
  | raw bytes => (bytes, none)
  | entry e =>
    match e.value with
    | .ok bytes => (e.field.header ++ bytes, none)
    | .error cause => (e.field.header, some cause)

/-- All that was written, and how each write ended. -/
def runAll (writes : List Write) : Bytes × List (Option FormatError) :=
  let outcomes := writes.map Write.run
  (outcomes.flatMap (·.1), outcomes.map (·.2))

end SwapPayout.Wire
