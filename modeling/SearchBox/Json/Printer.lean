import SearchBox.Json.Basic

/-!
This module contains the printer of JSON values. Each item and member stands on a line of its own,
two spaces deeper than what it belongs to. All that is not printable ASCII is escaped.
-/

namespace SearchBox.Json

def escapeUnit (unit : Nat) : List Char :=
  '\\' :: 'u' :: Text.hex 4 unit

/--
The spelling of `c` in a string. A character beyond the sixteen bits is a pair of surrogates.
-/
def escapeChar (c : Char) : List Char :=
  if c == '\x22' || c == '\\' then
    ['\\', c]
  else if c == '\n' then
    ['\\', 'n']
  else if c == '\r' then
    ['\\', 'r']
  else if c == '\t' then
    ['\\', 't']
  else if c == '\x08' then
    ['\\', 'b']
  else if c == '\x0c' then
    ['\\', 'f']
  else if 0x20 ≤ c.toNat && c.toNat ≤ 0x7E then
    [c]
  else if c.toNat ≤ 0xFFFF then
    escapeUnit c.toNat
  else
    let rest := c.toNat - 0x10000
    escapeUnit (0xD800 + rest / 0x400) ++ escapeUnit (0xDC00 + rest % 0x400)

def renderString (value : String) : String :=
  String.ofList ('\x22' :: value.toList.flatMap escapeChar ++ ['\x22'])

def lineBreak (depth : Nat) : String :=
  String.ofList ('\n' :: List.replicate (2 * depth) ' ')

def renderParts (depth : Nat) (opening closing : String) (parts : List String) : String :=
  if parts.isEmpty then
    opening ++ closing
  else
    opening ++ lineBreak (depth + 1) ++ ("," ++ lineBreak (depth + 1)).intercalate parts
      ++ lineBreak depth ++ closing

mutual

def renderAt (depth : Nat) : Json → String
  | .null => "null"
  | .bool true => "true"
  | .bool false => "false"
  | .int value => toString value
  | .decimal mantissa exponent => decimalText mantissa exponent
  | .string value => renderString value
  | .array items => renderParts depth "[" "]" (renderItems (depth + 1) items)
  | .object members => renderParts depth "\x7b" "\x7d" (renderMembers (depth + 1) members)

def renderItems (depth : Nat) : List Json → List String
  | [] => []
  | item :: items => renderAt depth item :: renderItems depth items

def renderMembers (depth : Nat) : List (String × Json) → List String
  | [] => []
  | (name, value) :: members =>
    (renderString name ++ ": " ++ renderAt depth value) :: renderMembers depth members

end

def render (value : Json) : String :=
  renderAt 0 value

end SearchBox.Json
