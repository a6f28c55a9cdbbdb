import CorpusQuery.Proofs.Expression.Follow

namespace CorpusQuery

/-! Canonical texts as characters: where their parts stand and what they start with. -/

namespace Operand

open Expression

/-- An operand between `??` or before a dot. -/
def choice (operand : Operand) : List Char :=
  enclosed operand.isCoalesce operand.write

theorem chars_comma : ", ".toList = [',', ' '] := String.toList_ofList

theorem chars_choice : " ?? ".toList = [' ', '?', '?', ' '] := String.toList_ofList

theorem writeItems_cons (first : Operand) (items : List Operand) :
    writeItems (first :: items) =
      first.write ++ items.flatMap fun item => [',', ' '] ++ item.write := by
  induction items generalizing first with
  | nil => simp [writeItems]
  | cons second items ih =>
      rw [writeItems, ih, chars_comma, List.flatMap_cons]
      · simp only [List.append_assoc]
      · exact List.cons_ne_nil _ _

theorem writeChoices_cons (first : Operand) (items : List Operand) :
    writeChoices (first :: items) =
      choice first ++ items.flatMap fun item => [' ', '?', '?', ' '] ++ choice item := by
  induction items generalizing first with
  | nil => simp [writeChoices, choice]
  | cons second items ih =>
      rw [writeChoices, ih, chars_choice, List.flatMap_cons]
      · simp only [List.append_assoc]
        rfl
      · exact List.cons_ne_nil _ _

theorem write_null : Operand.null.write = ['n', 'u', 'l', 'l'] := String.toList_ofList

theorem write_first (layer : String) (attr : Attribute) (rest : List Char) :
    (first layer attr).write ++ rest = ['f', 'i', 'r', 's', 't'] ++
      '(' :: (quoted layer ++ ')' :: '.' :: (nameChars attr ++ rest)) := by
  have word : "first(".toList = ['f', 'i', 'r', 's', 't', '('] := String.toList_ofList
  have dot : ").".toList = [')', '.'] := String.toList_ofList
  change "first(".toList ++ quoted layer ++ ").".toList ++ attr.name.toList ++ rest = _
  rw [word, dot, toList_name]
  simp only [List.append_assoc, List.cons_append, List.nil_append]

theorem write_labels (layer : String) (rest : List Char) :
    (labels layer).write ++ rest =
      ['l', 'a', 'b', 'e', 'l', 's'] ++ '(' :: (quoted layer ++ ')' :: rest) := by
  have word : "labels(".toList = ['l', 'a', 'b', 'e', 'l', 's', '('] := String.toList_ofList
  change "labels(".toList ++ quoted layer ++ [')'] ++ rest = _
  rw [word]
  simp only [List.append_assoc, List.cons_append, List.nil_append]

theorem write_all (layer : String) (rest : List Char) :
    (all layer).write ++ rest = ['a', 'l', 'l'] ++ '(' :: (quoted layer ++ ')' :: rest) := by
  have word : "all(".toList = ['a', 'l', 'l', '('] := String.toList_ofList
  change "all(".toList ++ quoted layer ++ [')'] ++ rest = _
  rw [word]
  simp only [List.append_assoc, List.cons_append, List.nil_append]

theorem write_annotators (layer : String) (rest : List Char) :
    (annotators layer).write ++ rest = ['a', 'n', 'n', 'o', 't', 'a', 't', 'o', 'r', 's'] ++
      '(' :: (quoted layer ++ ')' :: rest) := by
  have word : "annotators(".toList = ['a', 'n', 'n', 'o', 't', 'a', 't', 'o', 'r', 's', '('] :=
    String.toList_ofList
  change "annotators(".toList ++ quoted layer ++ [')'] ++ rest = _
  rw [word]
  simp only [List.append_assoc, List.cons_append, List.nil_append]

theorem write_list (items : List Operand) (rest : List Char) :
    (list items).write ++ rest = '[' :: (writeItems items ++ ']' :: rest) := by
  change '[' :: (writeItems items ++ [']']) ++ rest = _
  simp only [List.append_assoc, List.cons_append, List.nil_append]

theorem write_length (inner : Operand) (rest : List Char) :
    (length inner).write ++ rest = choice inner ++ '.' :: (['l', 'e', 'n', 'g', 't', 'h'] ++ rest) := by
  have word : ".length".toList = ['.', 'l', 'e', 'n', 'g', 't', 'h'] := String.toList_ofList
  change choice inner ++ ".length".toList ++ rest = _
  rw [word]
  simp only [List.append_assoc, List.cons_append, List.nil_append]

theorem choice_of_not_coalesce {operand : Operand} (single : operand.isCoalesce = false) :
    choice operand = operand.write := by
  rw [choice, single]
  rfl

theorem choice_coalesce (items : List Operand) (rest : List Char) :
    choice (coalesce items) ++ rest = '(' :: (writeChoices items ++ ')' :: rest) := by
  change '(' :: (writeChoices items ++ [')']) ++ rest = _
  simp only [List.cons_append, List.append_assoc, List.nil_append]

theorem startsWith_choice {operand : Operand} (start : StartsWith isLeading operand.write) :
    StartsWith isLeading (choice operand) := by
  unfold choice enclosed
  split
  · exact ⟨'(', _, rfl, rfl⟩
  · exact start

theorem isSimple_of_isDigit {c : Char} (digit : c.isDigit) : isSimple c := by
  simp [isSimple, digit]

theorem startsWith_digits {negative : Bool} {digits : List Char} (some : digits ≠ [])
    (all : ∀ c ∈ digits, c.isDigit) :
    StartsWith isSimple ((Number.sign negative).toList ++ digits) := by
  cases negative with
  | true => exact ⟨'-', digits, rfl, rfl⟩
  | false =>
      cases digits with
      | nil => exact absurd rfl some
      | cons c digits => exact ⟨c, digits, rfl, isSimple_of_isDigit (all c (List.mem_cons_self ..))⟩

theorem startsWith_numeral {value : Number.Binary64} (number : value ≠ .nan) :
    StartsWith isSimple (numeral value) := by
  cases value with
  | nan => exact absurd rfl number
  | infinite negative =>
      cases negative with
      | false => exact ⟨'i', ['n', 'f'], String.toList_ofList, rfl⟩
      | true => exact ⟨'-', _, String.toList_append, rfl⟩
  | finite negative significand scale normal =>
      obtain ⟨negative, d, chars, whole, fraction, written, pointed, -⟩ :=
        @pointed_numeral (.finite negative significand scale normal) rfl
      rw [written, pointed.chars_eq, ← List.append_assoc]
      exact (startsWith_digits pointed.whole_some pointed.whole_digits).append _

theorem startsWith_integer (value : Int64) :
    StartsWith isSimple (Number.text value).toList := by
  obtain ⟨negative, digits, written, some, all, -⟩ := Number.text_parts value
  rw [written]
  exact startsWith_digits some all

theorem startsWith_simple : ∀ operand : Operand, operand.isCoalesce = false →
    operand.isLength = false → operand.Built → StartsWith isSimple operand.write
  | .text _, _, _, _ => ⟨'\'', _, rfl, rfl⟩
  | .integer value, _, _, _ => startsWith_integer value
  | .number _, _, _, built => startsWith_numeral built
  | .null, _, _, _ => ⟨'n', ['u', 'l', 'l'], write_null, rfl⟩
  | .list _, _, _, _ => ⟨'[', _, rfl, rfl⟩
  | .own attr, _, _, _ => by
      change StartsWith isSimple attr.name.toList
      rw [toList_name]
      cases attr <;> exact ⟨_, _, rfl, rfl⟩
  | .first layer attr, _, _, _ => by
      rw [← List.append_nil (write _), write_first]
      exact ⟨'f', _, rfl, rfl⟩
  | .labels layer, _, _, _ => by
      rw [← List.append_nil (write _), write_labels]
      exact ⟨'l', _, rfl, rfl⟩
  | .all layer, _, _, _ => by
      rw [← List.append_nil (write _), write_all]
      exact ⟨'a', _, rfl, rfl⟩
  | .annotators layer, _, _, _ => by
      rw [← List.append_nil (write _), write_annotators]
      exact ⟨'a', _, rfl, rfl⟩

mutual

theorem startsWith_write : ∀ operand : Operand, operand.Built → StartsWith isLeading operand.write
  | .text _, built | .integer _, built | .number _, built | .null, built | .list _, built
  | .own _, built | .first .., built | .labels _, built | .all _, built | .annotators _, built =>
      (startsWith_simple _ rfl rfl built).leading
  | .length inner, built => by
      rw [← List.append_nil (write _), write_length]
      exact (startsWith_choice (startsWith_write inner built)).append _
  | .coalesce items, built => startsWith_writeChoices items built.1 built.2

theorem startsWith_writeChoices : ∀ items : List Operand, 2 ≤ items.length → BuiltAll items →
    StartsWith isLeading (writeChoices items)
  | [], few, _ => absurd few (by decide)
  | item :: items, _, built => by
      rw [writeChoices_cons]
      exact (startsWith_choice (startsWith_write item built.1)).append _

end

end Operand

namespace Expression

open Operand (choice enclosed startsWith_choice)

/-- An expression between `||`. -/
def alternative (e : Expression) : List Char :=
  enclosed e.isOr e.write

/-- An expression between `&&`. -/
def conjunct (e : Expression) : List Char :=
  enclosed e.isJunction e.write

/-- An expression behind `!`. -/
def negand (e : Expression) : List Char :=
  enclosed e.isJunctionOrCompare e.write

theorem enclosed_true (chars rest : List Char) :
    enclosed true chars ++ rest = '(' :: (chars ++ ')' :: rest) := by
  change '(' :: (chars ++ [')']) ++ rest = _
  simp only [List.cons_append, List.append_assoc, List.nil_append]

theorem writeAlternatives_cons (first : Expression) (items : List Expression) :
    writeAlternatives (first :: items) =
      alternative first ++ items.flatMap fun item => [' ', '|', '|', ' '] ++ alternative item := by
  have separator : " || ".toList = [' ', '|', '|', ' '] := String.toList_ofList
  induction items generalizing first with
  | nil => exact (List.append_nil (alternative first)).symm
  | cons second items ih =>
      change alternative first ++ " || ".toList ++ writeAlternatives (second :: items) = _
      rw [ih, separator, List.flatMap_cons]
      simp only [List.append_assoc]

theorem writeConjuncts_cons (first : Expression) (items : List Expression) :
    writeConjuncts (first :: items) =
      conjunct first ++ items.flatMap fun item => [' ', '&', '&', ' '] ++ conjunct item := by
  have separator : " && ".toList = [' ', '&', '&', ' '] := String.toList_ofList
  induction items generalizing first with
  | nil => exact (List.append_nil (conjunct first)).symm
  | cons second items ih =>
      change conjunct first ++ " && ".toList ++ writeConjuncts (second :: items) = _
      rw [ih, separator, List.flatMap_cons]
      simp only [List.append_assoc]

theorem write_compare (left right : Operand) (op : Comparison) (rest : List Char) :
    (compare left op right).write ++ rest =
      left.write ++ ' ' :: (op.symbol.toList ++ ' ' :: (right.write ++ rest)) := by
  change left.write ++ ' ' :: op.symbol.toList ++ ' ' :: right.write ++ rest = _
  simp only [List.append_assoc, List.cons_append]

theorem write_test (text : String) (operand : Operand) (rest : List Char) :
    (test text operand).write ++ rest =
      pattern text ++ (".test(".toList ++ (operand.write ++ ')' :: rest)) := by
  change pattern text ++ ".test(".toList ++ operand.write ++ [')'] ++ rest = _
  simp only [List.append_assoc, List.cons_append, List.nil_append]

theorem write_includes (list item : Operand) (rest : List Char) :
    (includes list item).write ++ rest = choice list ++
      '.' :: (['i', 'n', 'c', 'l', 'u', 'd', 'e', 's'] ++ '(' :: (item.write ++ ')' :: rest)) := by
  have word : ".includes(".toList = ['.', 'i', 'n', 'c', 'l', 'u', 'd', 'e', 's', '('] :=
    String.toList_ofList
  change choice list ++ ".includes(".toList ++ item.write ++ [')'] ++ rest = _
  rw [word]
  simp only [List.append_assoc, List.cons_append, List.nil_append]

theorem write_includesAny (list items : Operand) (rest : List Char) :
    (includesAny list items).write ++ rest = choice list ++
      '.' :: (['i', 'n', 'c', 'l', 'u', 'd', 'e', 's', 'A', 'n', 'y'] ++
        '(' :: (items.write ++ ')' :: rest)) := by
  have word : ".includesAny(".toList =
      ['.', 'i', 'n', 'c', 'l', 'u', 'd', 'e', 's', 'A', 'n', 'y', '('] := String.toList_ofList
  change choice list ++ ".includesAny(".toList ++ items.write ++ [')'] ++ rest = _
  rw [word]
  simp only [List.append_assoc, List.cons_append, List.nil_append]

theorem startsWith_enclosed {e : Expression} (start : StartsWith isOpening e.write)
    (enclose : Bool) : StartsWith isOpening (enclosed enclose e.write) := by
  cases enclose with
  | true => exact ⟨'(', _, rfl, rfl⟩
  | false => exact start

theorem startsWith_write : ∀ e : Expression, e.Built → StartsWith isOpening e.write
  | .or [], built => absurd built.1 (by decide)
  | .or (item :: items), built => by
      change StartsWith isOpening (writeAlternatives (item :: items))
      rw [writeAlternatives_cons]
      exact (startsWith_enclosed (startsWith_write item built.2.1) _).append _
  | .and [], built => absurd built.1 (by decide)
  | .and (item :: items), built => by
      change StartsWith isOpening (writeConjuncts (item :: items))
      rw [writeConjuncts_cons]
      exact (startsWith_enclosed (startsWith_write item built.2.1) _).append _
  | .not _, _ => ⟨'!', _, rfl, rfl⟩
  | .compare left op right, built => by
      rw [← List.append_nil (write _), write_compare]
      exact ((Operand.startsWith_write left built.1).append _).opening
  | .test text operand, _ => ⟨'/', _, rfl, rfl⟩
  | .includes list item, built => by
      rw [← List.append_nil (write _), write_includes]
      exact ((startsWith_choice (Operand.startsWith_write list built.1)).append _).opening
  | .includesAny list items, built => by
      rw [← List.append_nil (write _), write_includesAny]
      exact ((startsWith_choice (Operand.startsWith_write list built.1)).append _).opening

end Expression

end CorpusQuery
