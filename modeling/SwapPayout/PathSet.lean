import SwapPayout.AccountId
import SwapPayout.Currency
import SwapPayout.Text.Blank

/-!
# Payment paths

A cross-currency payment may name the routes it can take: a set of paths, each a sequence of steps
through an account, a currency or the issuer of one.

In binary a step starts with a byte that says which of the three follow, so a step without any has
no form; `0xFF` stands between paths and `0x00` after the last. In text `=>` joins the steps of a
path and a comma the paths.
-/

namespace SwapPayout

/-- A step of a path. -/
structure PathStep where
  account : Option AccountId := none
  currency : Option Currency := none
  issuer : Option AccountId := none
  deriving DecidableEq, Repr

/-- A path is its steps, a set of paths a list of them. -/
abbrev PathSet := List (List PathStep)

namespace PathStep

/-! ## Binary form -/

/-- The byte that says which components a step has. -/
def kind (s : PathStep) : UInt8 :=
  (if s.account.isSome then 0x01 else 0) + (if s.currency.isSome then 0x10 else 0)
    + (if s.issuer.isSome then 0x20 else 0)

def isEmpty (s : PathStep) : Bool := s.account.isNone && s.currency.isNone && s.issuer.isNone

def components (s : PathStep) : Bytes :=
  (s.account.map (·.bytes)).getD [] ++ (s.currency.map (·.bytes)).getD []
    ++ (s.issuer.map (·.bytes)).getD []

def encode (s : PathStep) : Except FormatError Bytes :=
  if s.isEmpty then .error (.path "empty path step") else .ok (s.kind :: s.components)

/-! ## Text -/

def ofCurrencyAndIssuer (currency issuer : List Char) : Except FormatError PathStep := do
  let currency ← Currency.ofCode (String.ofList currency)
  let issuer ← AccountId.ofAddress (String.ofList issuer)
  return { currency := some currency, issuer := some issuer }

/-- Does a text look like an address rather than a currency code? -/
def looksLikeAddress (text : String) : Bool :=
  text.toList.head? == some 'r' && 20 < text.utf8ByteSize

/-- The step that a text denotes: an address, a currency code, or a code, a slash and an address. -/
def parse (text : String) : Except FormatError PathStep :=
  let step := Text.trimChars text.toList
  if step.isEmpty then .error (.path "empty path step")
  else if step.contains '/' then
    let currency := step.takeWhile (· != '/')
    ofCurrencyAndIssuer currency (step.drop (currency.length + 1))
  else
    let step := String.ofList step
    if looksLikeAddress step then
      (AccountId.ofAddress step).map fun account => { account := some account }
    else (Currency.ofCode step).map fun currency => { currency := some currency }

end PathStep

namespace PathSet

/-! ## Binary form -/

def separator : UInt8 := 0xFF

def terminator : UInt8 := 0x00

/-- The binary form of a path, which needs at least one step. -/
def encodePath (path : List PathStep) : Except FormatError Bytes :=
  if path.isEmpty then .error (.path "empty path")
  else (path.mapM PathStep.encode).map List.flatten

def encode (paths : PathSet) : Except FormatError Bytes :=
  (paths.mapM encodePath).map fun encoded => [separator].intercalate encoded ++ [terminator]

/-! ## Text -/

/-- The pieces of a text between arrows `=>`. -/
def splitArrows : (piece : List Char) → List Char → List (List Char)
  | piece, '=' :: '>' :: rest => piece.reverse :: splitArrows [] rest
  | piece, c :: rest => splitArrows (c :: piece) rest
  | piece, [] => [piece.reverse]

def splitCommas : (piece : List Char) → List Char → List (List Char)
  | piece, c :: rest =>
    if c = ',' then piece.reverse :: splitCommas [] rest else splitCommas (c :: piece) rest
  | piece, [] => [piece.reverse]

def parsePath (text : List Char) : Except FormatError (List PathStep) :=
  (splitArrows [] text).mapM fun step => PathStep.parse (String.ofList step)

/-- The set of paths that a text denotes; none for a blank text. -/
def parse (text : String) : Except FormatError PathSet :=
  if (Text.trimChars text.toList).isEmpty then .ok []
  else (splitCommas [] text.toList).mapM parsePath

end PathSet

end SwapPayout
