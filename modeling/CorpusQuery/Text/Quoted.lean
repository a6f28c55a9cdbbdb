import CorpusQuery.Text.Unprinted

namespace CorpusQuery.Text

/-! The quoted form in which values are listed for a reader: double quotes
around the text, escapes for quotes, backslashes and line breaks, and code
points for what would not show. -/

/-- A code point in braces, in lower-case hexadecimal digits. -/
def codePoint (c : Char) : List Char :=
  ['\\', 'u', '\x7b'] ++ Nat.toDigits 16 c.toNat ++ ['\x7d']

/-- One character of a quoted text.  A single quote needs no escape. -/
def quotedChar (c : Char) : List Char :=
  match c with
  | '"' => ['\\', '"']
  | '\\' => ['\\', '\\']
  | '\n' => ['\\', 'n']
  | '\r' => ['\\', 'r']
  | '\t' => ['\\', 't']
  | '\x00' => ['\\', '0']
  | c => if isUnprinted c then codePoint c else [c]

def quoted (text : String) : String :=
  String.ofList ('"' :: text.toList.flatMap quotedChar ++ ['"'])

example : quoted "it's \"q\"\n" = "\"it's \\\"q\\\"\\n\"" := by decide +kernel

example : quoted "a\x7f" = "\"a\\u\x7b7f\x7d\"" := by decide +kernel

end CorpusQuery.Text
