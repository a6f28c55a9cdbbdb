import CorpusQuery.Expression.Tree
import CorpusQuery.Number.Integer
import CorpusQuery.Number.Reading

namespace CorpusQuery.Expression

/-! The smallest parts of an expression's text: words, texts, patterns, numbers and
the functions of layers.

A lexeme is a value with what follows it; a reader yields none if its input does
not start with such a value.  Every reader returns a proper suffix of its input. -/

/-- A suffix that lacks at least the first character. -/
def Proper (rest input : List Char) : Prop :=
  rest <:+ input ∧ rest.length < input.length

theorem Proper.of_append {consumed rest input : List Char} (some : consumed ≠ [])
    (parts : consumed ++ rest = input) : Proper rest input := by
  refine ⟨⟨consumed, parts⟩, ?_⟩
  have := List.length_pos_iff.2 some
  rw [← parts, List.length_append]
  omega

theorem Proper.trans_suffix {rest middle input : List Char} (proper : Proper rest middle)
    (suffix : middle <:+ input) : Proper rest input :=
  ⟨proper.1.trans suffix, Nat.lt_of_lt_of_le proper.2 suffix.length_le⟩

theorem Proper.of_suffix {rest middle input : List Char} (suffix : rest <:+ middle)
    (proper : Proper middle input) : Proper rest input :=
  ⟨suffix.trans proper.1, Nat.lt_of_le_of_lt suffix.length_le proper.2⟩

theorem Proper.tail (c : Char) (rest : List Char) : Proper rest (c :: rest) :=
  .of_append (List.cons_ne_nil c []) rfl

/-- The spaces that may stand between the parts of an expression. -/
def isSpace (c : Char) : Bool :=
  c == ' ' || c == '\t' || c == '\r' || c == '\n'

def skipSpace (input : List Char) : List Char :=
  input.dropWhile isSpace

theorem skipSpace_suffix (input : List Char) : skipSpace input <:+ input :=
  List.dropWhile_suffix isSpace

/-- What follows a mark. -/
def mark? (mark : Char) : List Char → Option (List Char)
  | [] => none
  | c :: rest => if c = mark then some rest else none

theorem eq_cons_of_mark? {mark : Char} {input rest : List Char}
    (found : mark? mark input = some rest) : input = mark :: rest := by
  match input, found with
  | c :: tail, found =>
      obtain ⟨rfl, rfl⟩ : c = mark ∧ tail = rest := by simpa [mark?] using found
      rfl

theorem proper_of_mark? {mark : Char} {input rest : List Char}
    (found : mark? mark input = some rest) : Proper rest input := by
  rw [eq_cons_of_mark? found]
  exact .tail mark rest

/-- What follows a word. -/
def after? : List Char → List Char → Option (List Char)
  | [], input => some input
  | _ :: _, [] => none
  | w :: word, c :: input => if w = c then after? word input else none

theorem append_of_after? {word input rest : List Char} (found : after? word input = some rest) :
    word ++ rest = input := by
  induction word generalizing input with
  | nil => simpa [after?] using found.symm
  | cons w word ih =>
      cases input with
      | nil => simp [after?] at found
      | cons c input =>
          unfold after? at found
          split at found
          · rename_i same
            rw [List.cons_append, ih found, same]
          · simp at found

theorem after?_append (word rest : List Char) : after? word (word ++ rest) = some rest := by
  induction word with
  | nil => rfl
  | cons w word ih => simp [after?, ih]

def isIdentifierStart (c : Char) : Bool :=
  c.isAlpha || c == '_'

def isIdentifierChar (c : Char) : Bool :=
  c.isAlphanum || c == '_'

/-- What follows a word that no letter, digit or underscore continues. -/
def keyword? (word : String) (input : List Char) : Option (List Char) :=
  match after? word.toList input with
  | some rest => if rest.head?.any isIdentifierChar then none else some rest
  | none => none

theorem append_of_keyword? {word : String} {input rest : List Char}
    (found : keyword? word input = some rest) : word.toList ++ rest = input := by
  unfold keyword? at found
  split at found
  · rename_i tail next
    split at found
    · simp at found
    · obtain rfl : tail = rest := by simpa using found
      exact append_of_after? next
  · simp at found

theorem suffix_of_keyword? {word : String} {input rest : List Char}
    (found : keyword? word input = some rest) : rest <:+ input :=
  ⟨_, append_of_keyword? found⟩

/-! ### Texts and patterns -/

def escape? : Char → Option Char
  | '\\' => some '\\'
  | '"' => some '"'
  | '\'' => some '\''
  | 'n' => some '\n'
  | 't' => some '\t'
  | 'r' => some '\r'
  | _ => none

/-- The characters up to the closing mark, and what follows it.  A backslash must
stand before one of the characters that can be escaped. -/
def quotedBody (mark : Char) : List Char → Option (List Char × List Char)
  | [] => none
  | '\\' :: [] => none
  | '\\' :: c :: rest =>
      match escape? c with
      | some plain => (quotedBody mark rest).map fun (chars, tail) => (plain :: chars, tail)
      | none => none
  | c :: rest =>
      if c = mark then some ([], rest)
      else (quotedBody mark rest).map fun (chars, tail) => (c :: chars, tail)

theorem suffix_of_quotedBody {mark : Char} {input chars rest : List Char}
    (found : quotedBody mark input = some (chars, rest)) : rest <:+ input := by
  fun_induction quotedBody mark input generalizing chars with
  | case1 | case2 => simp at found
  | case3 c input plain _ ih =>
      obtain ⟨⟨inner, tail⟩, read, same⟩ := Option.map_eq_some_iff.1 found
      obtain ⟨_, rfl⟩ : plain :: inner = chars ∧ tail = rest := by simpa using same
      exact (ih read).trans ((List.suffix_cons c input).trans (List.suffix_cons '\\' _))
  | case4 => simp at found
  | case5 input =>
      obtain ⟨_, rfl⟩ : [] = chars ∧ input = rest := by simpa using found
      exact List.suffix_cons _ _
  | case6 c input _ _ _ ih =>
      obtain ⟨⟨inner, tail⟩, read, same⟩ := Option.map_eq_some_iff.1 found
      obtain ⟨_, rfl⟩ : c :: inner = chars ∧ tail = rest := by simpa using same
      exact (ih read).trans (List.suffix_cons c input)

/-- A text between double or single quotes. -/
def text? : List Char → Option (String × List Char)
  | '"' :: rest => (quotedBody '"' rest).map fun (chars, tail) => (String.ofList chars, tail)
  | '\'' :: rest => (quotedBody '\'' rest).map fun (chars, tail) => (String.ofList chars, tail)
  | _ => none

theorem proper_of_text? {input rest : List Char} {value : String}
    (found : text? input = some (value, rest)) : Proper rest input := by
  unfold text? at found
  split at found
  · obtain ⟨⟨chars, tail⟩, read, same⟩ := Option.map_eq_some_iff.1 found
    obtain ⟨_, rfl⟩ : String.ofList chars = value ∧ tail = rest := by simpa using same
    exact .of_suffix (suffix_of_quotedBody read) (.tail _ _)
  · obtain ⟨⟨chars, tail⟩, read, same⟩ := Option.map_eq_some_iff.1 found
    obtain ⟨_, rfl⟩ : String.ofList chars = value ∧ tail = rest := by simpa using same
    exact .of_suffix (suffix_of_quotedBody read) (.tail _ _)
  · simp at found

/-- An escaped slash loses its backslash, all other escapes keep theirs. -/
def patternEscape (c : Char) : List Char :=
  if c = '/' then ['/'] else ['\\', c]

/-- The characters up to the closing slash, and what follows it. -/
def readPatternBody : List Char → Option (List Char × List Char)
  | [] => none
  | '\\' :: [] => none
  | '\\' :: c :: rest =>
      (readPatternBody rest).map fun (chars, tail) => (patternEscape c ++ chars, tail)
  | c :: rest =>
      if c = '/' then some ([], rest)
      else (readPatternBody rest).map fun (chars, tail) => (c :: chars, tail)

theorem suffix_of_readPatternBody {input chars rest : List Char}
    (found : readPatternBody input = some (chars, rest)) : rest <:+ input := by
  fun_induction readPatternBody input generalizing chars with
  | case1 | case2 => simp at found
  | case3 c input ih =>
      obtain ⟨⟨inner, tail⟩, read, same⟩ := Option.map_eq_some_iff.1 found
      obtain ⟨_, rfl⟩ : _ = chars ∧ tail = rest := by simpa using same
      exact (ih read).trans ((List.suffix_cons c input).trans (List.suffix_cons '\\' _))
  | case4 input =>
      obtain ⟨_, rfl⟩ : [] = chars ∧ input = rest := by simpa using found
      exact List.suffix_cons _ _
  | case5 c input _ _ _ ih =>
      obtain ⟨⟨inner, tail⟩, read, same⟩ := Option.map_eq_some_iff.1 found
      obtain ⟨_, rfl⟩ : c :: inner = chars ∧ tail = rest := by simpa using same
      exact (ih read).trans (List.suffix_cons c input)

/-- A pattern between slashes, and then the word that applies it, up to and with
the opening parenthesis. -/
def testHead? : List Char → Option (String × List Char)
  | '/' :: input =>
      match readPatternBody input with
      | some (chars, '.' :: rest) =>
          match keyword? "test" rest with
          | some rest =>
              match skipSpace rest with
              | '(' :: rest => some (String.ofList chars, rest)
              | _ => none
          | none => none
      | _ => none
  | _ => none

theorem proper_of_testHead? {input rest : List Char} {value : String}
    (found : testHead? input = some (value, rest)) : Proper rest input := by
  unfold testHead? at found
  split at found
  · split at found
    · rename_i chars afterPattern read
      split at found
      · rename_i afterTest word
        split at found
        · rename_i tail opened
          obtain ⟨_, rfl⟩ : String.ofList chars = value ∧ tail = rest := by simpa using found
          have inner : '(' :: tail <:+ afterTest := opened ▸ skipSpace_suffix afterTest
          have outer : afterTest <:+ afterPattern := suffix_of_keyword? word
          refine .of_suffix ?_ (.tail _ _)
          exact (((List.suffix_cons _ _).trans inner).trans outer).trans
            ((List.suffix_cons _ _).trans (suffix_of_readPatternBody read))
        · simp at found
      · simp at found
    · simp at found
  · simp at found

/-! ### Numbers -/

/-- A minus or nothing, and what follows. -/
def minus (input : List Char) : Bool × List Char :=
  match input with
  | '-' :: rest => (true, rest)
  | rest => (false, rest)

/-- An integer, or a number with digits on both sides of its point.  An integer must
fit 64 bits. -/
def number? (input : List Char) : Option (Operand × List Char) :=
  let (negative, start) := minus input
  let (whole, rest) := Number.takeDigits start
  if whole = [] then none
  else
    let integer :=
      let value : Int := Nat.ofDigitChars 10 whole 0
      (Number.int64? (if negative then -value else value)).map fun value =>
        (Operand.integer value, rest)
    match rest with
    | '.' :: more =>
        let (fraction, tail) := Number.takeDigits more
        if fraction = [] then integer
        else
          let d : Number.Decimal :=
            ⟨Nat.ofDigitChars 10 (whole ++ fraction) 0, -(fraction.length : Int)⟩
          some (.number (d.round negative), tail)
    | _ => integer

theorem proper_of_number? {input rest : List Char} {value : Operand}
    (found : number? input = some (value, rest)) : Proper rest input := by
  have begin : (minus input).2 <:+ input := by
    unfold minus
    split
    · exact List.suffix_cons _ _
    · exact List.suffix_refl _
  have parts : (Number.takeDigits (minus input).2).1 ++ (Number.takeDigits (minus input).2).2 =
      (minus input).2 := List.takeWhile_append_dropWhile
  unfold number? at found
  simp only at found
  split at found
  · simp at found
  · rename_i digits
    have next : Proper (Number.takeDigits (minus input).2).2 input :=
      (Proper.of_append digits parts).trans_suffix begin
    split at found
    · rename_i more point
      split at found
      · obtain ⟨value', _, same⟩ := Option.map_eq_some_iff.1 found
        obtain ⟨_, rfl⟩ : Operand.integer value' = value ∧ _ = rest := by simpa using same
        exact next
      · obtain ⟨_, rfl⟩ : _ = value ∧ (Number.takeDigits more).2 = rest := by simpa using found
        refine .of_suffix ?_ next
        rw [point]
        exact (List.dropWhile_suffix Char.isDigit).trans (List.suffix_cons _ _)
    · obtain ⟨value', _, same⟩ := Option.map_eq_some_iff.1 found
      obtain ⟨_, rfl⟩ : Operand.integer value' = value ∧ _ = rest := by simpa using same
      exact next

/-! ### Names -/

/-- The attribute whose first fitting spelling the input starts with. -/
def attribute? (input : List Char) : Option (Attribute × List Char) :=
  Attribute.spellings.findSome? fun (spelling, attr) =>
    (keyword? spelling input).map (attr, ·)

theorem proper_of_attribute? {input rest : List Char} {attr : Attribute}
    (found : attribute? input = some (attr, rest)) : Proper rest input := by
  obtain ⟨⟨spelling, named⟩, known, read⟩ := List.exists_of_findSome?_eq_some found
  obtain ⟨tail, word, same⟩ := Option.map_eq_some_iff.1 read
  obtain ⟨_, rfl⟩ : named = attr ∧ tail = rest := by simpa using same
  refine .of_append ?_ (append_of_keyword? word)
  have : ∀ entry ∈ Attribute.spellings, entry.1.toList ≠ [] := by decide
  exact this _ known

/-- A name of letters, digits and underscores that starts with no digit. -/
def identifier? (input : List Char) : Option (String × List Char) :=
  if input.head?.any isIdentifierStart then
    some (String.ofList (input.takeWhile isIdentifierChar), input.dropWhile isIdentifierChar)
  else none

/-- A layer in parentheses, its id quoted or plain. -/
def layer? (input : List Char) : Option (String × List Char) :=
  match skipSpace input with
  | '(' :: rest =>
      match (text? (skipSpace rest)).or (identifier? (skipSpace rest)) with
      | some (layer, rest) =>
          match skipSpace rest with
          | ')' :: rest => some (layer, rest)
          | _ => none
      | none => none
  | _ => none

theorem suffix_of_layer? {input rest : List Char} {layer : String}
    (found : layer? input = some (layer, rest)) : rest <:+ input := by
  unfold layer? at found
  split at found
  · rename_i inside opened
    split at found
    · rename_i value behind read
      split at found
      · rename_i tail closed
        obtain ⟨_, rfl⟩ : value = layer ∧ tail = rest := by simpa using found
        have outer : inside <:+ input :=
          (List.suffix_cons _ _).trans (opened ▸ skipSpace_suffix input)
        have inner : tail <:+ behind :=
          (List.suffix_cons _ _).trans (closed ▸ skipSpace_suffix behind)
        have within : behind <:+ skipSpace inside := by
          rcases Option.or_eq_some_iff.1 read with quoted | ⟨_, plain⟩
          · exact (proper_of_text? quoted).1
          · unfold identifier? at plain
            split at plain
            · obtain ⟨_, rfl⟩ : _ = value ∧ _ = behind := by simpa using plain
              exact List.dropWhile_suffix _
            · simp at plain
        exact (inner.trans within).trans ((skipSpace_suffix inside).trans outer)
      · simp at found
    · simp at found
  · simp at found

/-- A function of a layer. -/
def function? (input : List Char) : Option (Operand × List Char) :=
  let first : Option (Operand × List Char) := do
    let rest ← keyword? "first" input
    let (layer, rest) ← layer? rest
    match rest with
    | '.' :: rest => (attribute? rest).map fun (attr, rest) => (Operand.first layer attr, rest)
    | _ => none
  let listing (word : String) (make : String → Operand) : Option (Operand × List Char) := do
    let rest ← keyword? word input
    let (layer, rest) ← layer? rest
    return (make layer, rest)
  first.or <| (listing "labels" .labels).or <| (listing "all" .all).or <|
    listing "annotators" .annotators

theorem proper_of_listing {word : String} {make : String → Operand} {input rest : List Char}
    {value : Operand} (named : word.toList ≠ [])
    (found : (do
      let rest ← keyword? word input
      let (layer, rest) ← layer? rest
      return (make layer, rest) : Option (Operand × List Char)) = some (value, rest)) :
    Proper rest input := by
  simp only [Option.bind_eq_bind, Option.bind_eq_some_iff] at found
  obtain ⟨afterWord, read, ⟨layer, tail⟩, argument, same⟩ := found
  obtain ⟨_, rfl⟩ : make layer = value ∧ tail = rest := by simpa using same
  exact .of_suffix (suffix_of_layer? argument) (.of_append named (append_of_keyword? read))

theorem proper_of_function? {input rest : List Char} {value : Operand}
    (found : function? input = some (value, rest)) : Proper rest input := by
  unfold function? at found
  simp only [Option.or_eq_some_iff] at found
  rcases found with first | ⟨_, listing | ⟨_, listing | ⟨_, listing⟩⟩⟩
  · simp only [Option.bind_eq_bind, Option.bind_eq_some_iff] at first
    obtain ⟨afterWord, read, ⟨layer, behind⟩, argument, named⟩ := first
    simp only at named
    split at named
    · rename_i afterDot
      obtain ⟨⟨attr, tail⟩, ofRow, same⟩ := Option.map_eq_some_iff.1 named
      obtain ⟨_, rfl⟩ : Operand.first layer attr = value ∧ tail = rest := by simpa using same
      have inner : tail <:+ '.' :: afterDot :=
        (proper_of_attribute? ofRow).1.trans (List.suffix_cons _ _)
      exact .of_suffix (inner.trans (suffix_of_layer? argument))
        (.of_append (by decide) (append_of_keyword? read))
    · simp at named
  · exact proper_of_listing (by decide) listing
  · exact proper_of_listing (by decide) listing
  · exact proper_of_listing (by decide) listing

/-- An operand that has no other operand in it. -/
def leaf? (input : List Char) : Option (Operand × List Char) :=
  ((text? input).map fun (value, rest) => (Operand.text value, rest)).or <|
    (number? input).or <| (function? input).or <|
    ((keyword? "null" input).map (Operand.null, ·)).or <|
    (attribute? input).map fun (attr, rest) => (Operand.own attr, rest)

theorem proper_of_leaf? {input rest : List Char} {value : Operand}
    (found : leaf? input = some (value, rest)) : Proper rest input := by
  unfold leaf? at found
  simp only [Option.or_eq_some_iff] at found
  rcases found with text | ⟨_, number | ⟨_, function | ⟨_, null | ⟨_, own⟩⟩⟩⟩
  · obtain ⟨⟨chars, tail⟩, read, same⟩ := Option.map_eq_some_iff.1 text
    obtain ⟨_, rfl⟩ : Operand.text chars = value ∧ tail = rest := by simpa using same
    exact proper_of_text? read
  · exact proper_of_number? number
  · exact proper_of_function? function
  · obtain ⟨tail, read, same⟩ := Option.map_eq_some_iff.1 null
    obtain ⟨_, rfl⟩ : Operand.null = value ∧ tail = rest := by simpa using same
    exact .of_append (by decide) (append_of_keyword? read)
  · obtain ⟨⟨attr, tail⟩, read, same⟩ := Option.map_eq_some_iff.1 own
    obtain ⟨_, rfl⟩ : Operand.own attr = value ∧ tail = rest := by simpa using same
    exact proper_of_attribute? read

/-! ### Symbols -/

/-- The comparison whose first fitting symbol the input starts with. -/
def comparison? (input : List Char) : Option (Comparison × List Char) :=
  Comparison.symbols.findSome? fun (symbol, op) => (after? symbol.toList input).map (op, ·)

theorem proper_of_comparison? {input rest : List Char} {op : Comparison}
    (found : comparison? input = some (op, rest)) : Proper rest input := by
  obtain ⟨⟨symbol, named⟩, known, read⟩ := List.exists_of_findSome?_eq_some found
  obtain ⟨tail, word, same⟩ := Option.map_eq_some_iff.1 read
  obtain ⟨_, rfl⟩ : named = op ∧ tail = rest := by simpa using same
  refine .of_append ?_ (append_of_after? word)
  have : ∀ entry ∈ Comparison.symbols, entry.1.toList ≠ [] := by decide
  exact this _ known

/-- What follows a symbol, or a word that stands for it, and the spaces on both
sides. -/
def operator? (symbol word : String) (input : List Char) : Option (List Char) :=
  ((after? symbol.toList (skipSpace input)).or (keyword? word (skipSpace input))).map skipSpace

theorem proper_of_operator? {symbol word : String} {input rest : List Char}
    (named : symbol.toList ≠ [] ∧ word.toList ≠ [])
    (found : operator? symbol word input = some rest) : Proper rest input := by
  obtain ⟨tail, read, rfl⟩ := Option.map_eq_some_iff.1 found
  refine .of_suffix (skipSpace_suffix tail) (.trans_suffix ?_ (skipSpace_suffix input))
  rcases Option.or_eq_some_iff.1 read with bySymbol | ⟨_, byWord⟩
  · exact .of_append named.1 (append_of_after? bySymbol)
  · exact .of_append named.2 (append_of_keyword? byWord)

end CorpusQuery.Expression
