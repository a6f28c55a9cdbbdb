import CorpusQuery.Json.Value
import CorpusQuery.Number.Written

namespace CorpusQuery.Json

/-! JSON values as text, in one line or with one item a line. -/

/-- A control character, a quote or a backslash as its escape. -/
def escapedChar (c : Char) : List Char :=
  match c with
  | '"' => ['\\', '"']
  | '\\' => ['\\', '\\']
  | '\n' => ['\\', 'n']
  | '\r' => ['\\', 'r']
  | '\t' => ['\\', 't']
  | '\x08' => ['\\', 'b']
  | '\x0c' => ['\\', 'f']
  | c =>
      if c.toNat < 0x20 then
        ['\\', 'u', '0', '0', Nat.digitChar (c.toNat / 16), Nat.digitChar (c.toNat % 16)]
      else [c]

def quote (text : String) : String :=
  String.ofList ('"' :: text.toList.flatMap escapedChar ++ ['"'])

/-- Numbers that are not finite have no form of their own. -/
def numeral (value : Number.Binary64) : String :=
  value.json?.getD "null"

mutual

/-- A value in one line, without spaces.  What is unusable has no form of its
own. -/
def compact : Json → String
  | .null | .unusable => "null"
  | .bool value => if value then "true" else "false"
  | .integer value => toString value
  | .fraction value => numeral value
  | .text value => quote value
  | .list items => "[" ++ String.intercalate "," (compactItems items) ++ "]"
  | .object fields => "\x7b" ++ String.intercalate "," (compactFields fields) ++ "\x7d"

def compactItems : List Json → List String
  | [] => []
  | item :: items => compact item :: compactItems items

def compactFields : List (String × Json) → List String
  | [] => []
  | (name, value) :: fields => (quote name ++ ":" ++ compact value) :: compactFields fields

end

/-- Lines between brackets, each indented, or the brackets alone. -/
def block (indent : String) (opening closing : String) (lines : List String) : String :=
  if lines.isEmpty then opening ++ closing
  else
    opening ++ "\n" ++ String.intercalate ",\n" (lines.map (indent ++ "  " ++ ·)) ++ "\n" ++
      indent ++ closing

mutual

/-- A value with every item and field on a line of its own, two spaces deeper
than what holds it. -/
def pretty (indent : String) : Json → String
  | .list items => block indent "[" "]" (prettyItems indent items)
  | .object fields => block indent "\x7b" "\x7d" (prettyFields indent fields)
  | .null | .unusable => "null"
  | .bool value => if value then "true" else "false"
  | .integer value => toString value
  | .fraction value => numeral value
  | .text value => quote value

def prettyItems (indent : String) : List Json → List String
  | [] => []
  | item :: items => pretty (indent ++ "  ") item :: prettyItems indent items

def prettyFields (indent : String) : List (String × Json) → List String
  | [] => []
  | (name, value) :: fields =>
      (quote name ++ ": " ++ pretty (indent ++ "  ") value) :: prettyFields indent fields

end

end CorpusQuery.Json
