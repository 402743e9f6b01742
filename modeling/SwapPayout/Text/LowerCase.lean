import SwapPayout.Text.LowerCase.Table

/-!
# Lower case

The lower-case form of a whole text. Characters map one by one, with two exceptions: `İ` becomes an
`i` with a combining dot, and a capital sigma at the end of a word takes its final form. A sigma
ends a word when, passing over ignored characters, a cased letter stands before it and none after.
-/

namespace SwapPayout.Text

namespace LowerCase

/-- Does one of the closed ranges hold the character? -/
def within (ranges : List (Nat × Nat)) (c : Char) : Bool :=
  ranges.any fun (first, last) => first ≤ c.toNat && c.toNat ≤ last

/-- The run that maps the character, if its lower-case form is another character. -/
def run? (c : Char) : Option Run :=
  runs.find? fun r => r.first ≤ c.toNat && c.toNat ≤ r.last && (c.toNat - r.first) % r.step == 0

/-- The lower-case form of a character on its own. -/
def ofChar (c : Char) : List Char :=
  if c = 'İ' then ['i', '\u0307']
  else match run? c with
    | some r => [Char.ofNat (c.toNat + r.shift).toNat]
    | none => [c]

/-- Passing over ignored characters, is the first one a cased letter? -/
def meetsCased (cs : List Char) : Bool :=
  match cs.dropWhile (within ignoredRanges) with
  | c :: _ => within casedRanges c
  | [] => false

/-- Lower-cases the rest of a text of which `before` has been passed, last character first. -/
def ofChars : (before : List Char) → List Char → List Char
  | _, [] => []
  | before, c :: rest =>
    if c = 'Σ' then
      (if meetsCased before && !meetsCased rest then 'ς' else 'σ') :: ofChars (c :: before) rest
    else ofChar c ++ ofChars (c :: before) rest

end LowerCase

/-- The text in lower case. -/
def lowerCase (s : String) : String := String.ofList (LowerCase.ofChars [] s.toList)

end SwapPayout.Text
