import SwapPayout.Bytes
import SwapPayout.Error.Format

/-!
# Lengths

A value of variable length is announced by its length, in one to three bytes. The first byte says
how many there are: up to 192 it is the length itself, up to 240 it starts a pair, from 241 a
triple.
-/

namespace SwapPayout.Wire

def maxShort : Nat := 192

def maxMiddle : Nat := 12480

def maxLength : Nat := 918744

def lengthHeader (length : Nat) : Except FormatError Bytes :=
  if length ≤ maxShort then .ok [UInt8.ofNat length]
  else if length ≤ maxMiddle then
    let rest := length - (maxShort + 1)
    .ok [193 + UInt8.ofNat (rest / 256), UInt8.ofNat rest]
  else if length ≤ maxLength then
    let rest := length - (maxMiddle + 1)
    .ok [241 + UInt8.ofNat (rest / 65536), UInt8.ofNat (rest / 256), UInt8.ofNat rest]
  else .error (.binary s!"variable length {length} exceeds {maxLength}")

def framed (bytes : Bytes) : Except FormatError Bytes :=
  (lengthHeader bytes.length).map (· ++ bytes)

end SwapPayout.Wire
