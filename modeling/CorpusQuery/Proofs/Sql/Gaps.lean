import CorpusQuery.Proofs.Sql.Placeholders

namespace CorpusQuery

/-! Whether what needs an operand in a text of SQL has one.

A reader goes through the text one character after the other, and knows of what it has
read whether an operand has to follow.  It stops where a connective, a comma or a closing
parenthesis comes instead. -/

namespace Sql

/-! ### Reading -/

/-- The words that have something on both sides. -/
def connectives : List String :=
  ["AND", "OR", "FROM", "WHERE", "ON"]

/-- The other words that have something behind them. -/
def openers : List String :=
  ["NOT", "SELECT", "DISTINCT", "EXISTS", "IN", "JOIN", "BY", "LIMIT", "REGEXP", "BINARY"]

structure Reading where
  mode : Mode
  /-- The word that has not ended yet. -/
  word : List Char
  /-- An operand has to follow. -/
  due : Bool
deriving DecidableEq

namespace Reading

/-- Between two words, in no literal. -/
def boundary (due : Bool) : Reading :=
  ⟨.plain, [], due⟩

/-- The word ends here. -/
def ended (reading : Reading) : Option Reading :=
  if reading.word = [] then some reading
  else if String.ofList reading.word ∈ connectives then
    if reading.due then none else some (boundary true)
  else some (boundary (String.ofList reading.word ∈ openers))

/-- What a character does that is in no word. -/
def punctuated (reading : Reading) (c : Char) : Option Reading :=
  if isMark c ∨ c ∈ ['?', '*'] then some ⟨Mode.plain.step c, [], false⟩
  else if c ∈ ['(', '=', '<', '>'] then some (boundary true)
  else if c = ',' then if reading.due then none else some (boundary true)
  else if c = ')' then if reading.due then none else some (boundary false)
  else some reading

def step (reading : Reading) (c : Char) : Option Reading :=
  if reading.mode ≠ .plain then some { reading with mode := reading.mode.step c }
  else if isWordChar c then some { reading with word := reading.word ++ [c] }
  else reading.ended.bind (·.punctuated c)

def after (reading : Reading) : List Char → Option Reading
  | [] => some reading
  | c :: rest => (reading.step c).bind (·.after rest)

/-- Nothing has to follow. -/
def isSettled (reading : Reading) : Bool :=
  reading.mode = .plain && reading.ended = some (boundary false)

end Reading

/-- The text is as good as an operand, wherever one may stand. -/
def Complete (text : List Char) : Prop :=
  ∀ due, ((Reading.boundary due).after text).any Reading.isSettled

instance (text : List Char) : Decidable (Complete text) :=
  inferInstanceAs (Decidable (∀ _ : Bool, _))

example : Complete "NOT (a IN (1, 2) AND b IS NULL)".toList := by decide

example : ¬Complete "a IN ()".toList := by decide

example : ¬Complete "(a = ? OR )".toList := by decide

/-- The text stands between two operands. -/
def Separates (text : List Char) : Prop :=
  (∃ c ∈ text.head?, isWordChar c = false) ∧
    (Reading.boundary false).after text = some (.boundary true)

/-- The text stands before an operand. -/
def Leads (text : List Char) : Prop :=
  ∀ due, (Reading.boundary due).after text = some (.boundary true)

/-- The text stands behind an operand. -/
def Trails (text : List Char) : Prop :=
  (∃ c ∈ text.head?, isWordChar c = false) ∧
    ((Reading.boundary false).after text).any Reading.isSettled

instance (text : List Char) : Decidable (Separates text) :=
  inferInstanceAs (Decidable (_ ∧ _))

instance (text : List Char) : Decidable (Leads text) :=
  inferInstanceAs (Decidable (∀ _ : Bool, _))

instance (text : List Char) : Decidable (Trails text) :=
  inferInstanceAs (Decidable (_ ∧ _))

/-! ### Texts one after the other -/

namespace Reading

theorem after_append (reading : Reading) (left right : List Char) :
    reading.after (left ++ right) = (reading.after left).bind (·.after right) := by
  induction left generalizing reading with
  | nil => rfl
  | cons c rest ih =>
      rw [List.cons_append, after, after, Option.bind_assoc]
      exact Option.bind_congr fun next _ => ih next

/-- A word that nothing has to follow may be taken as ended. -/
theorem after_of_isSettled {reading : Reading} (settled : reading.isSettled) {text : List Char}
    (apart : ∃ c ∈ text.head?, isWordChar c = false) :
    reading.after text = (boundary false).after text := by
  obtain ⟨c, first, notInWord⟩ := apart
  obtain ⟨rest, rfl⟩ := List.head?_eq_some_iff.1 first
  obtain ⟨plain, ended⟩ : reading.mode = .plain ∧ reading.ended = some (boundary false) := by
    simpa [isSettled] using settled
  have same : reading.step c = (boundary false).step c := by
    simp only [step, plain, notInWord, ended]
    rfl
  rw [after, after, same]

theorem any_after_append {reading : Reading} {left right : List Char}
    (first : (reading.after left).any isSettled)
    (apart : ∃ c ∈ right.head?, isWordChar c = false) :
    reading.after (left ++ right) = (boundary false).after right := by
  obtain ⟨next, read, settled⟩ := (Option.any_eq_true _ _).1 first
  rw [after_append, read, Option.bind_some, after_of_isSettled settled apart]

end Reading

theorem Leads.complete {left right : List Char} (leads : Leads left) (complete : Complete right) :
    Complete (left ++ right) := by
  intro due
  rw [Reading.after_append, leads due]
  exact complete true

namespace Complete

variable {left right : List Char}

theorem trails (complete : Complete left) (behind : Trails right) : Complete (left ++ right) := by
  intro due
  rw [Reading.any_after_append (complete due) behind.1]
  exact behind.2

theorem separated (complete : Complete left) {separator : List Char} (apart : Separates separator)
    (others : Complete right) : Complete (left ++ separator ++ right) := by
  intro due
  rw [Reading.after_append, Reading.any_after_append (complete due) apart.1, apart.2]
  exact others true

/-- Two operands side by side, the second in parentheses or behind a space. -/
theorem beside (complete : Complete left) (others : Complete right)
    (apart : ∃ c ∈ right.head?, isWordChar c = false) : Complete (left ++ right) :=
  complete.trails ⟨apart, others false⟩

theorem parenthesized (complete : Complete left) : Complete ('(' :: left ++ [')']) := by
  intro due
  have opened : (Reading.boundary due).step '(' = some (.boundary true) := by
    cases due <;> rfl
  rw [List.cons_append, Reading.after, opened, Option.bind_some,
    Reading.any_after_append (complete true) (by decide)]
  decide

theorem spaced (complete : Complete left) (others : Complete right) :
    Complete (left ++ ' ' :: right) :=
  complete.trails ⟨⟨' ', rfl, by decide⟩, others false⟩

end Complete

/-! ### Words -/

/-- Only words of capital letters are reserved. -/
theorem isUpper_of_reserved {word : List Char}
    (reserved : String.ofList word ∈ connectives ++ openers) : ∀ c ∈ word, c.isUpper := by
  have all : ∀ text ∈ connectives ++ openers, ∀ c ∈ text.toList, c.isUpper := by decide
  simpa using all _ reserved

theorem Reading.after_wordChars {text : List Char} (inWord : ∀ c ∈ text, isWordChar c)
    (word : List Char) (due : Bool) :
    after ⟨.plain, word, due⟩ text = some ⟨.plain, word ++ text, due⟩ := by
  induction text generalizing word with
  | nil => simp [after]
  | cons c rest ih =>
      obtain ⟨first, others⟩ := List.forall_mem_cons.1 inWord
      simp [after, step, first, ih others]

theorem Reading.isSettled_word {word : List Char} {c : Char} (member : c ∈ word)
    (free : c.isUpper = false) (due : Bool) : isSettled ⟨.plain, word, due⟩ := by
  have other : ∀ text ∈ connectives ++ openers, String.ofList word ≠ text := by
    rintro text reserved rfl
    simp [isUpper_of_reserved reserved c member] at free
  have some : word ≠ [] := List.ne_nil_of_mem member
  have noConnective : String.ofList word ∉ connectives := fun reserved =>
    other _ (List.mem_append_left _ reserved) rfl
  have noOpener : String.ofList word ∉ openers := fun reserved =>
    other _ (List.mem_append_right _ reserved) rfl
  simp [isSettled, ended, some, noConnective, noOpener]

theorem complete_word {text : List Char} (inWord : ∀ c ∈ text, isWordChar c) {c : Char}
    (member : c ∈ text) (free : c.isUpper = false) : Complete text := by
  intro due
  rw [Reading.boundary, Reading.after_wordChars inWord]
  exact Reading.isSettled_word member free due

/-- A name that is no reserved word. -/
def IsName (text : String) : Prop :=
  (∀ c ∈ text.toList, isWordChar c) ∧ ∃ c ∈ text.toList, c.isUpper = false

instance (text : String) : Decidable (IsName text) :=
  inferInstanceAs (Decidable (_ ∧ _))

theorem IsName.complete {text : String} (isName : IsName text) : Complete text.toList := by
  obtain ⟨inWord, c, member, free⟩ := isName
  exact complete_word inWord member free

theorem IsName.ne_empty {text : String} (isName : IsName text) : text ≠ "" := by
  rintro rfl
  exact absurd isName (by decide)

theorem complete_qualified {row name : String} (isRow : IsName row) (isName : IsName name) :
    Complete (row ++ "." ++ name).toList := by
  have spelled : (row ++ "." ++ name).toList = row.toList ++ ('.' :: name.toList) := by
    simp
  have dotted : Trails ('.' :: name.toList) := ⟨⟨'.', rfl, by decide⟩, isName.complete false⟩
  exact spelled ▸ isRow.complete.trails dotted

theorem isUpper_iff {c : Char} : c.isUpper ↔ 65 ≤ c.toNat ∧ c.toNat ≤ 90 :=
  decide_eq_true_iff

theorem isLower_iff {c : Char} : c.isLower ↔ 97 ≤ c.toNat ∧ c.toNat ≤ 122 :=
  Bool.and_eq_true_iff.trans (and_congr decide_eq_true_iff decide_eq_true_iff)

theorem isDigit_iff {c : Char} : c.isDigit ↔ 48 ≤ c.toNat ∧ c.toNat ≤ 57 :=
  Bool.and_eq_true_iff.trans (and_congr decide_eq_true_iff decide_eq_true_iff)

theorem isUpper_of_isDigit {c : Char} (digit : c.isDigit) : c.isUpper = false := by
  rw [isDigit_iff] at digit
  rw [Bool.eq_false_iff, ne_eq, isUpper_iff]
  omega

theorem isWordChar_of_isDigit {c : Char} (digit : c.isDigit) : isWordChar c := by
  simp [isWordChar, Char.isAlphanum, digit]

theorem complete_digits {text : List Char} (some : text ≠ []) (digits : ∀ c ∈ text, c.isDigit) :
    Complete text := by
  obtain ⟨c, rest, rfl⟩ := List.exists_cons_of_ne_nil some
  have first : c.isDigit := digits c (List.mem_cons_self ..)
  exact complete_word (fun other member => isWordChar_of_isDigit (digits other member))
    (List.mem_cons_self ..) (isUpper_of_isDigit first)

theorem complete_natural (n : Nat) : Complete n.repr.toList :=
  complete_digits (by simp) fun _ member => isDigit_of_mem_repr member

theorem complete_integer (n : Int64) : Complete (Number.text n).toList := by
  obtain ⟨negative, digits, parts, nonempty, all, -⟩ := Number.text_parts n
  have complete := complete_digits nonempty all
  rw [parts]
  cases negative with
  | false => exact complete
  | true =>
      intro due
      have stepped : (Reading.boundary due).after ['-'] = some (.boundary due) := by
        cases due <;> rfl
      exact (Reading.after_append _ ['-'] digits).symm ▸ stepped.symm ▸ complete due

theorem complete_layerTable (table : Int64) : Complete (layerTable table).toList := by
  obtain ⟨negative, digits, parts, nonempty, all, -⟩ := Number.text_parts table
  have number := complete_integer table
  have lower : 'a' ∈ "annotation_layer_".toList := by decide
  have inWord : ∀ c ∈ "annotation_layer_".toList, isWordChar c := by decide
  have spelled : (layerTable table).toList =
      "annotation_layer_".toList ++ (Number.text table).toList := String.toList_append
  rw [spelled]
  cases negative with
  | false =>
      refine complete_word (List.forall_mem_append.2 ⟨inWord, fun c member => ?_⟩)
        (List.mem_append_left _ lower) (by decide)
      rw [parts] at member
      exact isWordChar_of_isDigit (all c member)
  | true =>
      refine (complete_word inWord lower (by decide)).beside number ⟨'-', ?_, by decide⟩
      rw [parts]
      rfl

/-- What a literal has in it does not end it. -/
theorem Reading.after_literalChars (text : List Char) :
    after ⟨.quoted '\'', [], false⟩ (text.flatMap literalChar) =
      some ⟨.quoted '\'', [], false⟩ := by
  induction text with
  | nil => rfl
  | cons first others ih =>
      have stays : after ⟨.quoted '\'', [], false⟩ (literalChar first) =
          some ⟨.quoted '\'', [], false⟩ := by
        by_cases isQuote : first = '\''
        · subst first
          decide
        · by_cases isBackslash : first = '\\'
          · subst first
            decide
          · have alone : literalChar first = [first] := by
              simp [literalChar]
            simp [alone, after, step, Mode.step, isQuote, isBackslash]
      rw [List.flatMap_cons, after_append, stays]
      exact ih

theorem complete_literal (text : String) : Complete (literal text).toList := by
  intro due
  have opened : (Reading.boundary due).step '\'' = some ⟨.quoted '\'', [], false⟩ := by
    cases due <;> rfl
  rw [literal, String.toList_ofList, List.cons_append, Reading.after, opened, Option.bind_some,
    Reading.after_append, Reading.after_literalChars]
  decide

/-! ### Blank texts and empty groups -/

theorem isWordChar_of_isBlank {c : Char} (blank : Text.isBlank c) : isWordChar c = false := by
  rw [Bool.eq_false_iff]
  intro inWord
  have codes := blank
  simp only [Text.isBlank, Bool.or_eq_true, Bool.and_eq_true, decide_eq_true_eq, beq_iff_eq]
    at codes
  rcases Bool.or_eq_true_iff.1 inWord with alphanumeric | mark
  · rcases Bool.or_eq_true_iff.1 alphanumeric with letter | digit
    · rcases Bool.or_eq_true_iff.1 letter with upper | lower
      · have range := isUpper_iff.1 upper
        omega
      · have range := isLower_iff.1 lower
        omega
    · have range := isDigit_iff.1 digit
      omega
  · obtain rfl := eq_of_beq mark
    exact absurd blank (by decide)

theorem Reading.step_blank {c : Char} (blank : Text.isBlank c) (due : Bool) :
    (boundary due).step c = some (boundary due) := by
  have others : ∀ other ∈ ['\'', '"', '?', '*', '(', '=', '<', '>', ',', ')'],
      Text.isBlank other = false := by decide
  have apart : c ∉ ['\'', '"', '?', '*', '(', '=', '<', '>', ',', ')'] := fun listed => by
    simp [others c listed] at blank
  simp only [List.mem_cons, List.not_mem_nil, or_false, not_or] at apart
  simp [step, boundary, isWordChar_of_isBlank blank, ended, punctuated, isMark, apart]

theorem Reading.after_blank {text : List Char} (blank : ∀ c ∈ text, Text.isBlank c) (due : Bool) :
    (boundary due).after text = some (boundary due) := by
  induction text with
  | nil => rfl
  | cons c rest ih =>
      obtain ⟨first, others⟩ := List.forall_mem_cons.1 blank
      rw [after, step_blank first, Option.bind_some, ih others]

theorem Complete.visible {text : String} (complete : Complete text.toList) :
    Text.allBlank text = false := by
  rw [Bool.eq_false_iff]
  intro blank
  have nothing := complete true
  rw [Reading.after_blank (List.all_eq_true.1 blank)] at nothing
  exact absurd nothing (by decide)

theorem isMark_of_isWordChar {c : Char} (inWord : isWordChar c) : isMark c = false := by
  have marks : ∀ mark ∈ ['\'', '"'], isWordChar mark = false := by decide
  have apart : c ∉ ['\'', '"'] := fun listed => by simp [marks c listed] at inWord
  simpa [isMark] using apart

/-- The reading keeps to the literals of the text. -/
theorem Reading.mode_step {reading next : Reading} {c : Char}
    (read : reading.step c = some next) : next.mode = reading.mode.step c := by
  obtain ⟨mode, word, due⟩ := reading
  unfold step at read
  split at read
  · obtain rfl := Option.some.inj read
    rfl
  · rename_i isPlain
    obtain rfl : mode = .plain := by simpa using isPlain
    split at read
    · rename_i inWord
      obtain rfl := Option.some.inj read
      simp [Mode.step, isMark_of_isWordChar inWord]
    · obtain ⟨behind, ends, punctuated⟩ := Option.bind_eq_some_iff.1 read
      have plain : behind.mode = .plain := by
        unfold ended at ends
        grind [boundary]
      unfold Reading.punctuated at punctuated
      grind [boundary, Mode.step]

theorem Reading.mode_after {reading next : Reading} {text : List Char}
    (read : reading.after text = some next) : next.mode = reading.mode.after text := by
  induction text generalizing reading with
  | nil =>
      obtain rfl := Option.some.inj read
      rfl
  | cons c rest ih =>
      obtain ⟨between, first, others⟩ := Option.bind_eq_some_iff.1 read
      rw [ih others, mode_step first]
      rfl

/-! ### Fragments -/

namespace Fragment

def Complete (fragment : Fragment) : Prop :=
  Sql.Complete fragment.sql.toList

def Separates (fragment : Fragment) : Prop :=
  Sql.Separates fragment.sql.toList

def Leads (fragment : Fragment) : Prop :=
  Sql.Leads fragment.sql.toList

def Trails (fragment : Fragment) : Prop :=
  Sql.Trails fragment.sql.toList

instance (fragment : Fragment) : Decidable fragment.Complete :=
  inferInstanceAs (Decidable (Sql.Complete _))

instance (fragment : Fragment) : Decidable fragment.Separates :=
  inferInstanceAs (Decidable (Sql.Separates _))

instance (fragment : Fragment) : Decidable fragment.Leads :=
  inferInstanceAs (Decidable (Sql.Leads _))

instance (fragment : Fragment) : Decidable fragment.Trails :=
  inferInstanceAs (Decidable (Sql.Trails _))

theorem Leads.complete {left right : Fragment} (leads : left.Leads) (complete : right.Complete) :
    (left ++ right).Complete := by
  rw [Complete, sql_append, String.toList_append]
  exact Sql.Leads.complete leads complete

namespace Complete

variable {left right : Fragment}

theorem trails (complete : left.Complete) (behind : right.Trails) : (left ++ right).Complete := by
  rw [Complete, sql_append, String.toList_append]
  exact Sql.Complete.trails complete behind

theorem separated (complete : left.Complete) {separator : Fragment} (apart : separator.Separates)
    (others : right.Complete) : (left ++ separator ++ right).Complete := by
  rw [Complete, sql_append, sql_append, String.toList_append, String.toList_append]
  exact Sql.Complete.separated complete apart others

theorem parenthesized (complete : left.Complete) : left.parenthesized.Complete := by
  rw [Complete, sql_parenthesized]
  exact Sql.Complete.parenthesized complete

/-- A function and its argument. -/
theorem called (complete : left.Complete) (others : right.Complete) :
    (left ++ right.parenthesized).Complete := by
  rw [Complete, sql_append, String.toList_append, sql_parenthesized]
  exact Sql.Complete.beside complete (Sql.Complete.parenthesized others) ⟨'(', rfl, by decide⟩

theorem join {separator : Fragment} (apart : separator.Separates) {fragments : List Fragment}
    (nonempty : fragments ≠ []) (all : ∀ fragment ∈ fragments, fragment.Complete) :
    (Fragment.join separator fragments).Complete :=
  holds_join_of_ne_nil (fun first second => first.separated apart second) nonempty all

end Complete

theorem Complete.isBlank_eq_false {fragment : Fragment} (complete : fragment.Complete) :
    fragment.isBlank = false :=
  Sql.Complete.visible complete

/-- Parentheses without anything between them are no operand. -/
theorem not_complete_of_infix {fragment : Fragment} (aligned : fragment.IsAligned)
    (inside : [.opening, .closing] <:+: fragment) : ¬fragment.Complete := by
  obtain ⟨left, right, rfl⟩ := inside
  have closed := (isAligned_append.1 (isAligned_append.1 aligned).1).1.whole.1.closed
  intro complete
  obtain ⟨final, read, -⟩ := (Option.any_eq_true _ _).1 (complete true)
  rw [sql_append, sql_append, String.toList_append, String.toList_append, Reading.after_append,
    Reading.after_append, Option.bind_eq_some_iff] at read
  obtain ⟨behind, group, -⟩ := read
  obtain ⟨before, first, empty⟩ := Option.bind_eq_some_iff.1 group
  have plain : before.mode = .plain := (Reading.mode_after first).trans closed
  have parentheses : isWordChar '(' = false ∧ isMark '(' = false := by decide
  have opened : before.step '(' = none ∨ before.step '(' = some (.boundary true) := by
    cases ended : before.ended with
    | none => simp [Reading.step, plain, ended, parentheses]
    | some next => simp [Reading.step, plain, ended, Reading.punctuated, parentheses]
  change (before.step '(').bind (Reading.after · [')']) = some behind at empty
  rcases opened with none | due
  · simp [none] at empty
  · have shut : (Reading.boundary true).after [')'] = none := by decide
    rw [due, Option.bind_some, shut] at empty
    contradiction

theorem complete_column {row name : String} (isRow : IsName row) (isName : IsName name) :
    Complete [.column row name] := by
  simpa [Complete, Piece.sql] using complete_qualified isRow isName

theorem complete_relation {table row : String} (tableComplete : Sql.Complete table.toList)
    (rowComplete : Sql.Complete row.toList) : (relation table row).Complete := by
  unfold relation
  split
  · simpa [Complete, Piece.sql] using tableComplete
  · simpa [Complete, Piece.sql] using Sql.Complete.spaced tableComplete rowComplete

end Fragment

/-! ### Statements -/

/-- A keyword and what it asks for, or nothing at all. -/
def Fragment.IsClause (fragment : Fragment) : Prop :=
  fragment = [] ∨ ∃ keyword rest : Fragment, fragment = keyword ++ rest ∧ keyword.Separates ∧
    rest.Complete

theorem Fragment.Complete.isClause {rest : Fragment} (complete : rest.Complete) {keyword : Fragment}
    (apart : keyword.Separates) : (keyword ++ rest).IsClause :=
  .inr ⟨keyword, rest, rfl, apart, complete⟩

theorem Fragment.Complete.clause {left right : Fragment} (complete : left.Complete)
    (clause : right.IsClause) : (left ++ right).Complete := by
  rcases clause with rfl | ⟨keyword, rest, rfl, apart, others⟩
  · simpa using complete
  · rw [← List.append_assoc]
    exact complete.separated apart others

/-- A join that is written in full. -/
structure Join.IsComplete (join : Join) : Prop where
  named : join.row ≠ ""
  source : join.source.Complete
  row : Sql.Complete join.row.toList
  tied : join.on ≠ []
  on : ∀ condition ∈ join.on, condition.Complete

theorem Join.IsComplete.isClause {join : Join} (complete : join.IsComplete) :
    Fragment.IsClause (.words " " :: join.render) := by
  have keyword : Fragment.Separates [.words " ", .words (keyword join.kind)] := by
    cases join.kind <;> decide
  have row : Fragment.Complete [.named join.row] := by
    simpa [Fragment.Complete, Piece.sql] using complete.row
  have source : Fragment.Complete (join.source ++ [.words " ", .named join.row]) := by
    have spaced := Sql.Complete.spaced complete.source complete.row
    simpa [Fragment.Complete, Piece.sql] using spaced
  have conditions : (Fragment.conjunction join.on).Complete :=
    .join (by decide) complete.tied complete.on
  have apart : Fragment.Separates [.words " ON "] := by decide
  by_cases same : join.row = join.source.sql
  · have whole := (row.separated apart conditions).isClause keyword
    have named : join.source.sql ≠ "" := same ▸ complete.named
    simpa [render, named, complete.tied, same] using whole
  · have whole := (source.separated apart conditions).isClause keyword
    simpa [render, complete.named, complete.tied, same] using whole

theorem Fragment.Complete.joins {joins : List Join} (all : ∀ join ∈ joins, join.IsComplete)
    {left : Fragment} (complete : left.Complete) :
    (left ++ joins.flatMap fun join => .words " " :: join.render).Complete := by
  induction joins generalizing left with
  | nil => simpa using complete
  | cons join rest ih =>
      obtain ⟨first, others⟩ := List.forall_mem_cons.1 all
      rw [List.flatMap_cons, ← List.append_assoc]
      exact ih others (complete.clause first.isClause)

/-- A statement that has something to select, and conditions for all its joins. -/
structure Select.IsComplete (select : Select) : Prop where
  into : select.into = none
  listed : select.columns ≠ []
  columns : ∀ column ∈ select.columns, column.Complete
  source : select.source.Complete
  joins : ∀ join ∈ select.joins, join.IsComplete
  conditions : ∀ condition ∈ select.conditions, condition.Complete
  order : ∀ term ∈ select.order, term.Complete
  limit : ∀ count ∈ select.limit, Fragment.Complete count

theorem Select.IsComplete.subquery {select : Select} (complete : select.IsComplete) :
    select.subquery.Complete := by
  have listed : select.selectClause.Complete := by
    have keyword : Fragment.Leads
        [.words (if select.distinct then "SELECT DISTINCT " else "SELECT ")] := by
      split <;> decide
    exact keyword.complete (.join (by decide) complete.listed complete.columns)
  have source : Fragment.IsClause ([.words (" " ++ "FROM ")] ++ select.source) :=
    complete.source.isClause (by decide)
  have restricted : (select.whereClause " ").IsClause := by
    unfold whereClause
    split
    · exact .inl rfl
    · rename_i some
      have apart : Fragment.Separates [.words " ", .and] := by decide
      have keyword : Fragment.Separates [.words (" " ++ "WHERE ")] := by decide
      exact (Fragment.Complete.join apart some complete.conditions).isClause keyword
  have sorted : (select.orderClause " ").IsClause := by
    unfold orderClause
    split
    · exact .inl rfl
    · rename_i some
      have comma : Fragment.Separates [.words ", "] := by decide
      have keyword : Fragment.Separates [.words (" " ++ "ORDER BY ")] := by decide
      exact (Fragment.Complete.join comma some complete.order).isClause keyword
  have body := (((listed.clause source).joins complete.joins).clause restricted).clause sorted
  cases count : select.limit with
  | none => simpa [Select.subquery, render, complete.into, count] using body
  | some most =>
      have limited : Fragment.IsClause ([.words (" " ++ "LIMIT ")] ++ most) :=
        (complete.limit most (by simp [count])).isClause (by decide)
      simpa [Select.subquery, render, complete.into, count] using body.clause limited

end Sql

end CorpusQuery
