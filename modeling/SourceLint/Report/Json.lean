import SourceLint.Text.Quoted

/-! Structured output as indented JSON text in ASCII. -/

namespace SourceLint.Report

/-- A value of structured output. -/
inductive Json where
  | null
  | bool (value : Bool)
  | int (value : Int)
  | string (value : String)
  | array (items : List Json)
  | object (fields : List (String × Json))
deriving Inhabited

namespace Json

/-- The escape of a unit of sixteen bits. -/
def escapeUnit (unit : Nat) : List Char :=
  Text.backslash :: 'u' :: Text.hexDigits 4 unit

/-- A character inside a string, escaped unless it is printable ASCII. -/
def escapeChar (c : Char) : List Char :=
  let code := c.toNat
  if c == Text.doubleQuote || c == Text.backslash then [Text.backslash, c]
  else if 0x20 ≤ code && code ≤ 0x7e then [c]
  else if c == '\n' then [Text.backslash, 'n']
  else if c == '\r' then [Text.backslash, 'r']
  else if c == '\t' then [Text.backslash, 't']
  else if code == 0x0c then [Text.backslash, 'f']
  else if code == 0x08 then [Text.backslash, 'b']
  else if code < 0x10000 then escapeUnit code
  else
    let offset := code - 0x10000
    escapeUnit (0xd800 + offset / 0x400) ++ escapeUnit (0xdc00 + offset % 0x400)

/-- A string with its quotes. -/
def quote (value : String) : String :=
  String.ofList (Text.doubleQuote :: value.toList.flatMap escapeChar ++ [Text.doubleQuote])

/-- The start of a line at the given depth. -/
def lineStart (indent depth : Nat) : String :=
  "\n" ++ String.ofList (List.replicate (indent * depth) ' ')

/-- Items between brackets, each on a line of its own. Without items the brackets touch. -/
def block (indent depth : Nat) (opening closing : String) (items : List String) : String :=
  if items.isEmpty then opening ++ closing
  else
    opening ++ String.intercalate "," (items.map (lineStart indent (depth + 1) ++ ·)) ++
      lineStart indent depth ++ closing

mutual

/-- The text of a value at the given depth. -/
def renderAt (indent depth : Nat) : Json → String
  | null => "null"
  | bool value => if value then "true" else "false"
  | int value => toString value
  | string value => quote value
  | array items => block indent depth "[" "]" (renderItems indent (depth + 1) items)
  | object fields => block indent depth "\x7b" "\x7d" (renderFields indent (depth + 1) fields)

/-- The texts of the items of an array. -/
def renderItems (indent depth : Nat) : List Json → List String
  | [] => []
  | item :: items => renderAt indent depth item :: renderItems indent depth items

/-- The texts of the fields of an object. -/
def renderFields (indent depth : Nat) : List (String × Json) → List String
  | [] => []
  | (key, value) :: fields =>
    (quote key ++ ": " ++ renderAt indent depth value) :: renderFields indent depth fields

end

/-- The text of a value, indented by the given number of spaces per level. -/
def render (indent : Nat) (value : Json) : String :=
  renderAt indent 0 value

end Json

end SourceLint.Report
