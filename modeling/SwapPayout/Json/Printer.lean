import SwapPayout.Bytes.Hex
import SwapPayout.Json.Value

/-!
# Printing JSON

The compact form: no blanks, members in their order. In texts the quote, the backslash and the
control characters are escaped, the latter by letter where there is one, and nothing else is.
-/

namespace SwapPayout.Json

/-- A character as it stands inside a quoted text. -/
def escapeChar (c : Char) : List Char :=
  if c = '"' then ['\\', '"']
  else if c = '\\' then ['\\', '\\']
  else if c = '\x08' then ['\\', 'b']
  else if c = '\x0c' then ['\\', 'f']
  else if c = '\n' then ['\\', 'n']
  else if c = '\r' then ['\\', 'r']
  else if c = '\t' then ['\\', 't']
  else if c.toNat < 0x20 then
    ['\\', 'u', '0', '0', Hex.lowerDigit (c.toNat / 16), Hex.lowerDigit (c.toNat % 16)]
  else [c]

def quote (s : String) : String :=
  String.ofList ('"' :: s.toList.flatMap escapeChar ++ ['"'])

mutual

/-- The compact form of a value. A text that could not be read is printed as `null`. -/
def Value.render : Value → String
  | .null => "null"
  | .bool b => if b then "true" else "false"
  | .number literal => literal
  | .string text => (text.map quote).getD "null"
  | .array items => "[" ++ String.intercalate "," (renderItems items) ++ "]"
  | .object members => "\x7b" ++ String.intercalate "," (renderMembers members) ++ "\x7d"

def renderItems : List Value → List String
  | [] => []
  | v :: rest => v.render :: renderItems rest

/-- The compact forms of the members of an object. -/
def renderMembers : List (Option String × Value) → List String
  | [] => []
  | (key, v) :: rest => ((key.map quote).getD "null" ++ ":" ++ v.render) :: renderMembers rest

end

end SwapPayout.Json
