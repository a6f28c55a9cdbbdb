namespace CorpusQuery.Text

/-! White space, as the Unicode property `White_Space` defines it, and the
trimming and blank tests that follow from it. -/

/-- The twenty-five code points with the property `White_Space`. -/
def isBlank (c : Char) : Bool :=
  let code := c.toNat
  (9 ≤ code && code ≤ 13) || code == 0x20 || code == 0x85 || code == 0xA0 ||
    code == 0x1680 || (0x2000 ≤ code && code ≤ 0x200A) || code == 0x2028 ||
    code == 0x2029 || code == 0x202F || code == 0x205F || code == 0x3000

/-- Whether a text has nothing but white space in it. -/
def allBlank (text : String) : Bool :=
  text.toList.all isBlank

def trimStart (chars : List Char) : List Char :=
  chars.dropWhile isBlank

def trimEnd (chars : List Char) : List Char :=
  (chars.reverse.dropWhile isBlank).reverse

def trim (chars : List Char) : List Char :=
  trimEnd (trimStart chars)

end CorpusQuery.Text
