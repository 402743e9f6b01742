import SwapPayout.Bytes.Hex
import SwapPayout.Json.Value

/-!
# JSON tokens

The words of a JSON text: brackets, separators and leaf values. Scanning is one step a character, on
a state that holds the tokens so far and the token in progress, so it is a fold over the text and no
text is too long or too deep for it.

Numbers follow the strict grammar: no leading zero, digits on both sides of a point, an optional
exponent. Texts may not hold control characters, and every escape must be one of the known ones.
-/

namespace SwapPayout.Json

/-- A word of a JSON text. -/
inductive Token where
  | openArray
  | closeArray
  | openObject
  | closeObject
  | comma
  | colon
  | leaf (value : Value)

namespace Token

/-! ## Texts in progress -/

/-- A text that is being read. -/
structure Unfinished where
  /-- The characters so far, last first. -/
  chars : List Char := []
  /-- The first half of a surrogate pair, when it was the last escape. -/
  half : Option Nat := none
  /-- Has a half been left without its partner? -/
  broken : Bool := false

namespace Unfinished

/-- A half that nothing completed leaves the text broken. -/
def settle (p : Unfinished) : Unfinished :=
  { p with half := none, broken := p.broken || p.half.isSome }

def push (p : Unfinished) (c : Char) : Unfinished :=
  let p := p.settle
  { p with chars := c :: p.chars }

/-- The text goes on with a 16-bit unit, which may be half of a pair. -/
def pushUnit (p : Unfinished) (unit : Nat) : Unfinished :=
  if 0xDC00 ≤ unit && unit ≤ 0xDFFF then
    match p.half with
    | some high =>
      { p with
        chars := Char.ofNat (0x10000 + (high - 0xD800) * 0x400 + (unit - 0xDC00)) :: p.chars
        half := none }
    | none => { p with broken := true }
  else if 0xD800 ≤ unit && unit ≤ 0xDBFF then
    { p.settle with half := some unit }
  else p.push (Char.ofNat unit)

def close (p : Unfinished) : Option String :=
  let p := p.settle
  if p.broken then none else some (String.ofList p.chars.reverse)

end Unfinished

/-! ## The scanner -/

/-- How far a number has been read. -/
inductive NumberPart where
  | sign
  | zero
  | whole
  | point
  | fraction
  | exponentMark
  | exponentSign
  | exponent

/-- The token in progress. -/
inductive Mode where
  | between
  | text (soFar : Unfinished)
  | escape (soFar : Unfinished)
  /-- Inside a numbered escape: digits still to come and the number so far. -/
  | unit (soFar : Unfinished) (digitsLeft : Nat) (value : Nat)
  | number (part : NumberPart) (read : List Char)
  /-- Inside `null`, `true` or `false`: the letters still to come. -/
  | word (left : List Char) (value : Value)

/-- The tokens so far, last first, and the one in progress. -/
structure Scan where
  tokens : List Token := []
  mode : Mode := .between

/-- Is this one of the four blanks between tokens? -/
def isSpace (c : Char) : Bool := c == ' ' || c == '\t' || c == '\n' || c == '\r'

/-- How a number goes on after a part of it, if the character belongs to it. -/
def NumberPart.next? (part : NumberPart) (c : Char) : Option NumberPart :=
  match part with
  | sign => if c = '0' then some zero else if c.isDigit then some whole else none
  | zero | whole =>
    if c = '.' then some point
    else if c = 'e' ∨ c = 'E' then some exponentMark
    else match part with
      | whole => if c.isDigit then some whole else none
      | _ => none
  | point => if c.isDigit then some fraction else none
  | fraction =>
    if c.isDigit then some fraction
    else if c = 'e' ∨ c = 'E' then some exponentMark
    else none
  | exponentMark =>
    if c.isDigit then some exponent
    else if c = '+' ∨ c = '-' then some exponentSign
    else none
  | exponentSign | exponent => if c.isDigit then some exponent else none

def NumberPart.isComplete : NumberPart → Bool
  | zero | whole | fraction | exponent => true
  | _ => false

def escaped? : Char → Option Char
  | '"' => some '"'
  | '\\' => some '\\'
  | '/' => some '/'
  | 'b' => some '\x08'
  | 'f' => some '\x0c'
  | 'n' => some '\n'
  | 'r' => some '\r'
  | 't' => some '\t'
  | _ => none

def start (tokens : List Token) (c : Char) : Option Scan :=
  if isSpace c then some ⟨tokens, .between⟩
  else match c with
    | '[' => some ⟨openArray :: tokens, .between⟩
    | ']' => some ⟨closeArray :: tokens, .between⟩
    | '\x7b' => some ⟨openObject :: tokens, .between⟩
    | '\x7d' => some ⟨closeObject :: tokens, .between⟩
    | ',' => some ⟨comma :: tokens, .between⟩
    | ':' => some ⟨colon :: tokens, .between⟩
    | '"' => some ⟨tokens, .text {}⟩
    | '-' => some ⟨tokens, .number .sign ['-']⟩
    | 'n' => some ⟨tokens, .word ['u', 'l', 'l'] .null⟩
    | 't' => some ⟨tokens, .word ['r', 'u', 'e'] (.bool true)⟩
    | 'f' => some ⟨tokens, .word ['a', 'l', 's', 'e'] (.bool false)⟩
    | c => (NumberPart.sign.next? c).map fun part => ⟨tokens, .number part [c]⟩

def step (scan : Scan) (c : Char) : Option Scan :=
  match scan.mode with
  | .between => start scan.tokens c
  | .text soFar =>
    if c = '"' then some ⟨leaf (.string soFar.close) :: scan.tokens, .between⟩
    else if c = '\\' then some { scan with mode := .escape soFar }
    else if c.toNat < 0x20 then none
    else some { scan with mode := .text (soFar.push c) }
  | .escape soFar =>
    if c = 'u' then some { scan with mode := .unit soFar 3 0 }
    else (escaped? c).map fun e => { scan with mode := .text (soFar.push e) }
  | .unit soFar digitsLeft value =>
    (Hex.digitValue? c).map fun d =>
      match digitsLeft with
      | 0 => { scan with mode := .text (soFar.pushUnit (value * 16 + d)) }
      | left + 1 => { scan with mode := .unit soFar left (value * 16 + d) }
  | .number part read =>
    match part.next? c with
    | some part => some { scan with mode := .number part (c :: read) }
    | none =>
      if part.isComplete then
        start (leaf (.number (String.ofList read.reverse)) :: scan.tokens) c
      else none
  | .word left value =>
    match left with
    | [] => none
    | [last] => if c = last then some ⟨leaf value :: scan.tokens, .between⟩ else none
    | next :: left => if c = next then some { scan with mode := .word left value } else none

/-- The tokens of a text. A blank is read after it, which ends a number in progress. -/
def scan (text : String) : Option (List Token) :=
  match ((text.toList.foldlM step {}).bind fun s => step s ' ') with
  | some ⟨tokens, .between⟩ => some tokens.reverse
  | _ => none

end Token

end SwapPayout.Json
