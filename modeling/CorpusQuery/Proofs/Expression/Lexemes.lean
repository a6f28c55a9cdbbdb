import CorpusQuery.Proofs.Expression.Numerals
import CorpusQuery.Proofs.Expression.Shape
import Mathlib.Data.List.TakeWhile

namespace CorpusQuery.Expression

/-! The canonical texts of the smallest parts read back. -/

/-- What ends a number or a word: no letter, digit or underscore goes on with it, and
no point with a digit behind. -/
structure Ends (rest : List Char) : Prop where
  word : rest.head?.any isIdentifierChar = false
  point : ∀ more, rest = '.' :: more → more.head?.any Char.isDigit = false

namespace Ends

theorem nil : Ends [] :=
  ⟨rfl, nofun⟩

theorem cons {c : Char} (rest : List Char) (plain : isIdentifierChar c = false) (mark : c ≠ '.') :
    Ends (c :: rest) where
  word := plain
  point _ same := absurd (List.cons.inj same).1 mark

theorem method {c : Char} (rest : List Char) (letter : c.isDigit = false) :
    Ends ('.' :: c :: rest) where
  word := rfl
  point more same := by
    obtain rfl : c :: rest = more := (List.cons.inj same).2
    exact letter

theorem digit {rest : List Char} (ends : Ends rest) : rest.head?.any Char.isDigit = false := by
  have stop := ends.word
  cases rest with
  | nil => rfl
  | cons c rest =>
      simp only [List.head?_cons, Option.any_some, isIdentifierChar, Char.isAlphanum,
        Bool.or_eq_false_iff] at stop ⊢
      exact stop.1.2

end Ends

theorem skipSpace_cons {c : Char} (rest : List Char) (visible : isSpace c = false) :
    skipSpace (c :: rest) = c :: rest := by
  unfold skipSpace
  rw [List.dropWhile_cons_of_neg (by simp [visible])]

/-! ### Words -/

/-- A word that a text does not start with: they differ at a place, or a letter is
missing at the end of the text. -/
def apart : List Char → List Char → Bool
  | [], _ => false
  | w :: _, [] => isIdentifierChar w
  | w :: word, c :: chars => w != c || apart word chars

theorem after?_of_apart {word chars : List Char} (differ : apart word chars) {rest : List Char}
    (stop : rest.head?.any isIdentifierChar = false) : after? word (chars ++ rest) = none := by
  induction word generalizing chars with
  | nil => simp [apart] at differ
  | cons w word ih =>
      cases chars with
      | nil =>
          cases rest with
          | nil => rfl
          | cons c rest =>
              have other : w ≠ c := by
                rintro rfl
                exact absurd differ (Bool.eq_false_iff.1 stop)
              rw [List.nil_append, after?, if_neg other]
      | cons c chars =>
          rw [List.cons_append, after?]
          split
          · rename_i same
            have later : apart word chars := by simpa [apart, same] using differ
            exact ih later
          · rfl

theorem after?_of_head {word : List Char} {c : Char} (other : word.head?.any (· != c))
    (rest : List Char) : after? word (c :: rest) = none := by
  cases word with
  | nil => simp at other
  | cons w word =>
      have different : w ≠ c := by simpa using other
      rw [after?, if_neg different]

theorem keyword?_append (word : List Char) {rest : List Char}
    (stop : rest.head?.any isIdentifierChar = false) :
    keyword? (String.ofList word) (word ++ rest) = some rest := by
  unfold keyword?
  rw [String.toList_ofList, after?_append]
  simp only [stop, Bool.false_eq_true, if_false]

/-- The text goes on with a longer word. -/
theorem keyword?_of_continued (word : List Char) {c : Char} (letter : isIdentifierChar c)
    (rest : List Char) : keyword? (String.ofList word) (word ++ c :: rest) = none := by
  unfold keyword?
  rw [String.toList_ofList, after?_append]
  simp only [List.head?_cons, Option.any_some, letter, if_true]

theorem keyword?_of_after? {word input : List Char} (differ : after? word input = none) :
    keyword? (String.ofList word) input = none := by
  unfold keyword?
  rw [String.toList_ofList, differ]

/-! ### Texts and patterns -/

theorem quotedBody_quotedChar (c : Char) (rest : List Char) :
    quotedBody '\'' (quotedChar c ++ rest) =
      (quotedBody '\'' rest).map fun (chars, tail) => (c :: chars, tail) := by
  unfold quotedChar
  split
  · rfl
  · rfl
  · rfl
  · rfl
  · rfl
  · rename_i backslash quote _ _ _
    rw [List.singleton_append, quotedBody, if_neg quote]
    · intro same
      exact absurd same backslash
    · intro d more same
      exact absurd same backslash

theorem quotedBody_quoted (chars rest : List Char) :
    quotedBody '\'' (chars.flatMap quotedChar ++ '\'' :: rest) = some (chars, rest) := by
  induction chars with
  | nil => rfl
  | cons c chars ih =>
      rw [List.flatMap_cons, List.append_assoc, quotedBody_quotedChar, ih]
      rfl

theorem quoted_append (text : String) (rest : List Char) :
    quoted text ++ rest = '\'' :: (text.toList.flatMap quotedChar ++ '\'' :: rest) := by
  simp only [quoted, List.cons_append, List.append_assoc, List.nil_append]

theorem text?_quoted (text : String) (rest : List Char) :
    text? (quoted text ++ rest) = some (text, rest) := by
  rw [quoted_append]
  change (quotedBody '\'' _).map _ = _
  rw [quotedBody_quoted]
  simp only [Option.map_some, String.ofList_toList]

theorem text?_of_head {c : Char} (double : c ≠ '"') (single : c ≠ '\'') (rest : List Char) :
    text? (c :: rest) = none := by
  unfold text?
  split
  · rename_i same
    exact absurd (List.cons.inj same).1 double
  · rename_i same
    exact absurd (List.cons.inj same).1 single
  · rfl

theorem readPatternBody_patternBody {chars : List Char} (pattern : IsPattern chars)
    (rest : List Char) : readPatternBody (patternBody chars ++ '/' :: rest) = some (chars, rest) := by
  fun_induction IsPattern chars with
  | case1 => rfl
  | case2 => exact pattern.elim
  | case3 c chars ih =>
      obtain ⟨slash, pattern⟩ := pattern
      simp only [patternBody, List.cons_append, readPatternBody, ih pattern, patternEscape,
        if_neg slash, Option.map_some]
      rfl
  | case4 c chars lone pair ih =>
      have plain : c ≠ '\\' := by
        intro same
        cases chars with
        | nil => exact lone same rfl
        | cons d chars => exact pair d chars same rfl
      by_cases slash : c = '/'
      · rw [slash]
        simp [patternBody, readPatternBody, ih pattern, patternEscape]
      · simp [patternBody, readPatternBody, ih pattern, plain, slash]

theorem chars_test : ".test(".toList = ['.', 't', 'e', 's', 't', '('] := String.toList_ofList

theorem testHead?_pattern {text : String} (valid : IsPattern text.toList) (rest : List Char) :
    testHead? (pattern text ++ (".test(".toList ++ rest)) = some (text, rest) := by
  have parts : pattern text ++ (".test(".toList ++ rest) =
      '/' :: (patternBody text.toList ++ '/' :: '.' :: (['t', 'e', 's', 't'] ++ '(' :: rest)) := by
    simp only [pattern, chars_test, List.cons_append, List.append_assoc, List.nil_append]
  have word : keyword? "test" (['t', 'e', 's', 't'] ++ '(' :: rest) = some ('(' :: rest) :=
    keyword?_append ['t', 'e', 's', 't'] rfl
  rw [parts, testHead?, readPatternBody_patternBody valid]
  simp only [word, skipSpace_cons rest (show isSpace '(' = false from rfl), String.ofList_toList]

theorem testHead?_of_head {c : Char} (other : c ≠ '/') (rest : List Char) :
    testHead? (c :: rest) = none := by
  unfold testHead?
  split
  · rename_i same
    exact absurd (List.cons.inj same).1 other
  · rfl

/-! ### Numbers -/

theorem number?_of_head {c : Char} (digit : c.isDigit = false) (sign : c ≠ '-')
    (rest : List Char) : number? (c :: rest) = none := by
  have unsigned : minus (c :: rest) = (false, c :: rest) := by
    unfold minus
    split
    · rename_i same
      exact absurd (List.cons.inj same).1 sign
    · rfl
  have none : Number.takeDigits (c :: rest) = ([], c :: rest) := by
    simp [Number.takeDigits, digit]
  unfold number?
  simp only [unsigned, none, if_true]

theorem number?_of_sign {c : Char} (digit : c.isDigit = false) (rest : List Char) :
    number? ('-' :: c :: rest) = none := by
  have none : Number.takeDigits (c :: rest) = ([], c :: rest) := by
    simp [Number.takeDigits, digit]
  unfold number? minus
  simp only [none, if_true]

/-! ### Names -/

/-- The spellings of attributes as characters. -/
def spelled : List (List Char × Attribute) :=
  [(['l', 'a', 'y', 'e', 'r', '.', 'i', 'd'], .layerId),
    (['l', 'a', 'y', 'e', 'r', 'I', 'd'], .layerId),
    (['p', 'a', 'r', 'e', 'n', 't', '.', 'i', 'd'], .parentId),
    (['p', 'a', 'r', 'e', 'n', 't', 'I', 'd'], .parentId),
    (['g', 'r', 'a', 'p', 'h', '.', 'i', 'd'], .graphId),
    (['s', 't', 'a', 'r', 't', '.', 'o', 'f', 'f', 's', 'e', 't'], .startOffset),
    (['s', 't', 'a', 'r', 't', '.', 'c', 'o', 'n', 'f', 'i', 'd', 'e', 'n', 'c', 'e'],
      .startConfidence),
    (['e', 'n', 'd', '.', 'o', 'f', 'f', 's', 'e', 't'], .endOffset),
    (['e', 'n', 'd', '.', 'c', 'o', 'n', 'f', 'i', 'd', 'e', 'n', 'c', 'e'], .endConfidence),
    (['c', 'o', 'n', 'f', 'i', 'd', 'e', 'n', 'c', 'e'], .confidence),
    (['l', 'a', 'b', 'e', 'l'], .label), (['i', 'd'], .id)]

theorem spellings_eq :
    Attribute.spellings = spelled.map fun (chars, attr) => (String.ofList chars, attr) := rfl

/-- The canonical spelling as characters. -/
def nameChars : Attribute → List Char
  | .id => ['i', 'd']
  | .layerId => ['l', 'a', 'y', 'e', 'r', '.', 'i', 'd']
  | .label => ['l', 'a', 'b', 'e', 'l']
  | .parentId => ['p', 'a', 'r', 'e', 'n', 't', '.', 'i', 'd']
  | .graphId => ['g', 'r', 'a', 'p', 'h', '.', 'i', 'd']
  | .startOffset => ['s', 't', 'a', 'r', 't', '.', 'o', 'f', 'f', 's', 'e', 't']
  | .endOffset => ['e', 'n', 'd', '.', 'o', 'f', 'f', 's', 'e', 't']
  | .confidence => ['c', 'o', 'n', 'f', 'i', 'd', 'e', 'n', 'c', 'e']
  | .startConfidence =>
      ['s', 't', 'a', 'r', 't', '.', 'c', 'o', 'n', 'f', 'i', 'd', 'e', 'n', 'c', 'e']
  | .endConfidence => ['e', 'n', 'd', '.', 'c', 'o', 'n', 'f', 'i', 'd', 'e', 'n', 'c', 'e']

theorem toList_name (attr : Attribute) : attr.name.toList = nameChars attr := by
  cases attr <;> exact String.toList_ofList

theorem attribute?_eq (input : List Char) :
    attribute? input = spelled.findSome? fun (chars, attr) =>
      (keyword? (String.ofList chars) input).map (attr, ·) := by
  unfold attribute?
  rw [spellings_eq, List.findSome?_map]
  rfl

theorem attribute?_of_after? {input : List Char}
    (differ : ∀ entry ∈ spelled, after? entry.1 input = none) : attribute? input = none := by
  rw [attribute?_eq, List.findSome?_eq_none_iff]
  intro entry mem
  simp only [keyword?_of_after? (differ entry mem), Option.map_none]

/-- No spelling that is tried before the canonical one fits. -/
theorem apart_before (attr : Attribute) :
    ∃ before behind, spelled = before ++ (nameChars attr, attr) :: behind ∧
      ∀ entry ∈ before, apart entry.1 (nameChars attr) := by
  have found : (spelled.dropWhile fun entry => apart entry.1 (nameChars attr)).head? =
      some (nameChars attr, attr) := by
    cases attr <;> decide
  obtain ⟨behind, rest⟩ := List.head?_eq_some_iff.1 found
  refine ⟨spelled.takeWhile fun entry => apart entry.1 (nameChars attr), behind, ?_, ?_⟩
  · rw [← rest, List.takeWhile_append_dropWhile]
  · intro entry mem
    have same : _ = true := List.mem_takeWhile_imp mem
    simpa using same

theorem attribute?_name (attr : Attribute) {rest : List Char}
    (stop : rest.head?.any isIdentifierChar = false) :
    attribute? (nameChars attr ++ rest) = some (attr, rest) := by
  obtain ⟨before, behind, parts, differ⟩ := apart_before attr
  have skipped : before.findSome? (fun (chars, attr') =>
      (keyword? (String.ofList chars) (nameChars attr ++ rest)).map (attr', ·)) = none := by
    rw [List.findSome?_eq_none_iff]
    intro entry mem
    simp only [keyword?_of_after? (after?_of_apart (differ entry mem) stop), Option.map_none]
  rw [attribute?_eq, parts, List.findSome?_append, skipped, Option.none_or, List.findSome?_cons]
  simp only [keyword?_append _ stop, Option.map_some]

theorem layer?_quoted (layer : String) (rest : List Char) :
    layer? ('(' :: (quoted layer ++ ')' :: rest)) = some (layer, rest) := by
  have start (more : List Char) : skipSpace (quoted layer ++ more) = quoted layer ++ more := by
    rw [quoted_append]
    exact skipSpace_cons _ rfl
  unfold layer?
  simp only [skipSpace_cons _ (show isSpace '(' = false from rfl), start, text?_quoted,
    Option.some_or, skipSpace_cons _ (show isSpace ')' = false from rfl)]

/-- The names of the functions of layers. -/
def functionWords : List (List Char) :=
  [['f', 'i', 'r', 's', 't'], ['l', 'a', 'b', 'e', 'l', 's'], ['a', 'l', 'l'],
    ['a', 'n', 'n', 'o', 't', 'a', 't', 'o', 'r', 's']]

/-- What a keyword and a layer stand for. -/
def listing? (word : List Char) (make : String → Operand) (input : List Char) :
    Option (Operand × List Char) :=
  (keyword? (String.ofList word) input).bind fun rest =>
    (layer? rest).bind fun (layer, rest) => some (make layer, rest)

/-- What the first annotation of a layer has. -/
def firstOf? (input : List Char) : Option (Operand × List Char) :=
  (keyword? (String.ofList ['f', 'i', 'r', 's', 't']) input).bind fun rest =>
    (layer? rest).bind fun (layer, rest) =>
      match rest with
      | '.' :: rest => (attribute? rest).map fun (attr, rest) => (Operand.first layer attr, rest)
      | _ => none

theorem function?_eq (input : List Char) :
    function? input = (firstOf? input).or
      ((listing? ['l', 'a', 'b', 'e', 'l', 's'] .labels input).or
        ((listing? ['a', 'l', 'l'] .all input).or
          (listing? ['a', 'n', 'n', 'o', 't', 'a', 't', 'o', 'r', 's'] .annotators input))) := rfl

theorem listing?_append (word : List Char) (make : String → Operand) (layer : String)
    (rest : List Char) :
    listing? word make (word ++ '(' :: (quoted layer ++ ')' :: rest)) = some (make layer, rest) := by
  unfold listing?
  rw [keyword?_append word rfl, Option.bind_some, layer?_quoted]
  rfl

theorem listing?_of_after? {word input : List Char} (make : String → Operand)
    (differ : after? word input = none) : listing? word make input = none := by
  unfold listing?
  rw [keyword?_of_after? differ]
  rfl

theorem firstOf?_append (layer : String) (attr : Attribute) {rest : List Char}
    (stop : rest.head?.any isIdentifierChar = false) :
    firstOf? (['f', 'i', 'r', 's', 't'] ++
        '(' :: (quoted layer ++ ')' :: '.' :: (nameChars attr ++ rest))) =
      some (.first layer attr, rest) := by
  unfold firstOf?
  rw [keyword?_append _ rfl, Option.bind_some, layer?_quoted]
  simp only [Option.bind_some, attribute?_name attr stop, Option.map_some]

theorem firstOf?_of_after? {input : List Char}
    (differ : after? ['f', 'i', 'r', 's', 't'] input = none) : firstOf? input = none := by
  unfold firstOf?
  rw [keyword?_of_after? differ]
  rfl

theorem function?_of_after? {input : List Char}
    (differ : ∀ word ∈ functionWords, after? word input = none) : function? input = none := by
  simp only [functionWords, List.forall_mem_cons] at differ
  obtain ⟨first, labels, all, annotators, -⟩ := differ
  rw [function?_eq, firstOf?_of_after? first, listing?_of_after? _ labels,
    listing?_of_after? _ all, listing?_of_after? _ annotators]
  rfl

/-! ### Leaves -/

/-- Every word that an operand can start with. -/
def words : List (List Char) :=
  functionWords ++ ['n', 'u', 'l', 'l'] :: spelled.map Prod.fst

theorem leaf?_eq_none {input : List Char} (text : text? input = none)
    (number : number? input = none) (differ : ∀ word ∈ words, after? word input = none) :
    leaf? input = none := by
  simp only [words, List.forall_mem_append, List.forall_mem_cons] at differ
  obtain ⟨functions, null, names⟩ := differ
  have own : attribute? input = none := attribute?_of_after? fun entry mem =>
    names entry.1 (List.mem_map_of_mem mem)
  have nothing : keyword? "null" input = none := keyword?_of_after? null
  unfold leaf?
  rw [text, number, function?_of_after? functions, nothing, own]
  rfl

theorem leaf?_quoted (text : String) (rest : List Char) :
    leaf? (quoted text ++ rest) = some (.text text, rest) := by
  unfold leaf?
  rw [text?_quoted]
  rfl

theorem leaf?_of_number? {input rest : List Char} {value : Operand}
    (read : number? input = some (value, rest)) : leaf? input = some (value, rest) := by
  have text : text? input = none := by
    cases input with
    | nil => rfl
    | cons c input =>
        apply text?_of_head
        · rintro rfl
          simp [number?_of_head (show '"'.isDigit = false from rfl) (by decide)] at read
        · rintro rfl
          simp [number?_of_head (show '\''.isDigit = false from rfl) (by decide)] at read
  unfold leaf?
  rw [text, read]
  rfl

/-- The letters that the words of operands start with. -/
def letters : List Char :=
  ['f', 'l', 'a', 'n', 'p', 'g', 's', 'e', 'c', 'i']

/-- A letter starts no text and no number. -/
theorem leaf?_of_letter {c : Char} (letter : c ∈ letters) (rest : List Char) :
    leaf? (c :: rest) = (function? (c :: rest)).or
      (((keyword? "null" (c :: rest)).map (Operand.null, ·)).or
        ((attribute? (c :: rest)).map fun (attr, rest) => (Operand.own attr, rest))) := by
  have plain : ∀ c ∈ letters, c ≠ '"' ∧ c ≠ '\'' ∧ c.isDigit = false ∧ c ≠ '-' := by decide
  obtain ⟨double, single, digit, sign⟩ := plain c letter
  unfold leaf?
  rw [text?_of_head double single, number?_of_head digit sign]
  rfl

theorem leaf?_first (layer : String) (attr : Attribute) {rest : List Char}
    (stop : rest.head?.any isIdentifierChar = false) :
    leaf? (['f', 'i', 'r', 's', 't'] ++
        '(' :: (quoted layer ++ ')' :: '.' :: (nameChars attr ++ rest))) =
      some (.first layer attr, rest) := by
  have function := firstOf?_append layer attr stop
  rw [List.cons_append] at function ⊢
  rw [leaf?_of_letter (by decide), function?_eq, function]
  rfl

theorem leaf?_labels (layer : String) (rest : List Char) :
    leaf? (['l', 'a', 'b', 'e', 'l', 's'] ++ '(' :: (quoted layer ++ ')' :: rest)) =
      some (.labels layer, rest) := by
  have function := listing?_append ['l', 'a', 'b', 'e', 'l', 's'] .labels layer rest
  rw [List.cons_append] at function ⊢
  rw [leaf?_of_letter (by decide), function?_eq, function,
    firstOf?_of_after? (after?_of_head rfl _)]
  rfl

theorem leaf?_all (layer : String) (rest : List Char) :
    leaf? (['a', 'l', 'l'] ++ '(' :: (quoted layer ++ ')' :: rest)) = some (.all layer, rest) := by
  have function := listing?_append ['a', 'l', 'l'] .all layer rest
  rw [List.cons_append] at function ⊢
  rw [leaf?_of_letter (by decide), function?_eq, function,
    firstOf?_of_after? (after?_of_head rfl _), listing?_of_after? _ (after?_of_head rfl _)]
  rfl

theorem leaf?_annotators (layer : String) (rest : List Char) :
    leaf? (['a', 'n', 'n', 'o', 't', 'a', 't', 'o', 'r', 's'] ++
        '(' :: (quoted layer ++ ')' :: rest)) = some (.annotators layer, rest) := by
  have function :=
    listing?_append ['a', 'n', 'n', 'o', 't', 'a', 't', 'o', 'r', 's'] .annotators layer rest
  have all : after? ['a', 'l', 'l'] (['a', 'n', 'n', 'o', 't', 'a', 't', 'o', 'r', 's'] ++
      '(' :: (quoted layer ++ ')' :: rest)) = none := after?_of_apart rfl rfl
  rw [List.cons_append] at function all ⊢
  rw [leaf?_of_letter (by decide), function?_eq, function,
    firstOf?_of_after? (after?_of_head rfl _), listing?_of_after? _ (after?_of_head rfl _),
    listing?_of_after? _ all]
  rfl

theorem leaf?_null {rest : List Char} (stop : rest.head?.any isIdentifierChar = false) :
    leaf? (['n', 'u', 'l', 'l'] ++ rest) = some (.null, rest) := by
  have word : keyword? "null" (['n', 'u', 'l', 'l'] ++ rest) = some rest :=
    keyword?_append ['n', 'u', 'l', 'l'] stop
  have functions : function? (['n', 'u', 'l', 'l'] ++ rest) = none := by
    apply function?_of_after?
    intro name mem
    have differ : ∀ name ∈ functionWords, apart name ['n', 'u', 'l', 'l'] := by decide
    exact after?_of_apart (differ name mem) stop
  rw [List.cons_append] at word functions ⊢
  rw [leaf?_of_letter (by decide), functions, word]
  rfl

theorem leaf?_own (attr : Attribute) {rest : List Char}
    (stop : rest.head?.any isIdentifierChar = false) :
    leaf? (nameChars attr ++ rest) = some (.own attr, rest) := by
  obtain ⟨c, name, start, letter⟩ :
      ∃ c name, nameChars attr = c :: name ∧ c ∈ letters ∧ c ≠ 'n' := by
    cases attr <;> exact ⟨_, _, rfl, by decide, by decide⟩
  have own := attribute?_name attr stop
  have functions : function? (nameChars attr ++ rest) = none := by
    apply function?_of_after?
    intro name mem
    have differ : ∀ name ∈ functionWords, apart name (nameChars attr) := by
      cases attr <;> decide
    exact after?_of_apart (differ name mem) stop
  have null : keyword? "null" (nameChars attr ++ rest) = none := by
    have other : after? ['n', 'u', 'l', 'l'] (nameChars attr ++ rest) = none := by
      rw [start, List.cons_append]
      apply after?_of_head
      simpa using letter.2.symm
    exact keyword?_of_after? other
  rw [start, List.cons_append] at own functions null ⊢
  rw [leaf?_of_letter letter.1, functions, null, own]
  rfl

/-- The marks other than quotation marks. -/
def marks : List Char :=
  ['[', ']', '(', ')', '!', '/']

theorem leaf?_of_mark {c : Char} (mark : c ∈ marks) (rest : List Char) : leaf? (c :: rest) = none := by
  have plain : ∀ c ∈ marks, (c ≠ '"' ∧ c ≠ '\'' ∧ c.isDigit = false ∧ c ≠ '-') ∧
      ∀ word ∈ words, word.head?.any (· != c) := by decide
  obtain ⟨⟨double, single, digit, sign⟩, others⟩ := plain c mark
  apply leaf?_eq_none (text?_of_head double single rest) (number?_of_head digit sign rest)
  intro word mem
  exact after?_of_head (others word mem) rest

/-- An infinite value has no numeral. -/
theorem leaf?_infinite (negative : Bool) {rest : List Char}
    (stop : rest.head?.any isIdentifierChar = false) :
    leaf? (numeral (.infinite negative) ++ rest) = none := by
  have written : numeral (.infinite negative) ++ rest =
      (Number.sign negative).toList ++ (['i', 'n', 'f'] ++ rest) := by
    change (Number.sign negative ++ "inf").toList ++ rest = _
    have word : "inf".toList = ['i', 'n', 'f'] := String.toList_ofList
    rw [String.toList_append, word, List.append_assoc]
  rw [written]
  cases negative with
  | false =>
      change leaf? (['i', 'n', 'f'] ++ rest) = none
      apply leaf?_eq_none
      · exact text?_of_head (by decide) (by decide) _
      · exact number?_of_head rfl (by decide) _
      · intro word mem
        have differ : ∀ word ∈ words, apart word ['i', 'n', 'f'] := by decide
        exact after?_of_apart (differ word mem) stop
  | true =>
      change leaf? ('-' :: 'i' :: 'n' :: 'f' :: rest) = none
      apply leaf?_eq_none
      · exact text?_of_head (by decide) (by decide) _
      · exact number?_of_sign rfl _
      · intro word mem
        have differ : ∀ word ∈ words, word.head?.any (· != '-') := by decide
        exact after?_of_head (differ word mem) _

end CorpusQuery.Expression
