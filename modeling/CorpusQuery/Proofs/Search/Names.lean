import Mathlib.Data.List.Basic
import CorpusQuery.Search.Plan

namespace CorpusQuery.Search

/-! The names of the rows of a search: different rows have different names. -/

/-- The last character tells the kinds of names apart. -/
theorem Edge.getLast?_name (edge : Edge) (chars : List Char) :
    (chars ++ '_' :: edge.name.toList).getLast? = some (if edge = .start then 't' else 'd') := by
  cases edge <;> simp [Edge.name]

theorem isDigit_of_getLast?_toDigits {n : Nat} {chars : List Char} {c : Char}
    (last : (chars ++ Nat.toDigits 10 n).getLast? = some c) : c.isDigit := by
  rw [List.getLast?_append_of_ne_nil _ Nat.toDigits_ne_nil] at last
  exact Nat.isDigit_of_mem_toDigits (by decide) (by decide) (List.mem_of_getLast? last)

theorem toDigits_injective {m n : Nat} (same : Nat.toDigits 10 m = Nat.toDigits 10 n) : m = n := by
  rw [← Nat.ofDigitChars_ten_toDigits (n := m), same, Nat.ofDigitChars_ten_toDigits]

namespace Alias

/-- The characters of a name. -/
def chars (row : Alias) : List Char :=
  row.name.toList

section

attribute [local simp] chars name

@[simp] theorem chars_turn : chars turn = ['t', 'u', 'r', 'n'] := by
  simp

@[simp] theorem chars_found (column place : Nat) :
    chars (found column place) =
      's' :: 'e' :: 'a' :: 'r' :: 'c' :: 'h' :: '_' ::
        (Nat.toDigits 10 column ++ '_' :: Nat.toDigits 10 place) := by
  simp

@[simp] theorem chars_word (column : Nat) :
    chars (word column) = 'w' :: 'o' :: 'r' :: 'd' :: '_' :: Nat.toDigits 10 column := by
  simp

@[simp] theorem chars_next (column : Nat) :
    chars (next column) = 'n' :: 'e' :: 'x' :: 't' :: '_' :: Nat.toDigits 10 column := by
  simp

@[simp] theorem chars_previous (column : Nat) :
    chars (previous column) =
      'p' :: 'r' :: 'e' :: 'v' :: 'i' :: 'o' :: 'u' :: 's' :: '_' :: Nat.toDigits 10 column := by
  simp

@[simp] theorem chars_anchor (row : Alias) (edge : Edge) :
    chars (anchor row edge) = row.chars ++ '_' :: edge.name.toList := by
  simp

@[simp] theorem chars_otherWord :
    chars otherWord = ['o', 't', 'h', 'e', 'r', '_', 'w', 'o', 'r', 'd'] := by
  simp

@[simp] theorem chars_otherStart :
    chars otherStart = ['o', 't', 'h', 'e', 'r', '_', 's', 't', 'a', 'r', 't'] := by
  simp

end

theorem getLast?_chars_anchor (row : Alias) (edge : Edge) :
    (anchor row edge).chars.getLast? = some (if edge = .start then 't' else 'd') := by
  rw [chars_anchor, Edge.getLast?_name]

theorem chars_ne_other (row : Alias) : row.chars ≠ ['o', 't', 'h', 'e', 'r'] := by
  intro same
  cases row with
  | anchor row edge =>
      have last := getLast?_chars_anchor row edge
      rw [same] at last
      cases edge <;> simp at last
  | _ => simp at same

/-- A name that ends in a digit, as those of columns do, is no anchor's. -/
theorem toDigits_ne_chars_anchor (start : List Char) (n : Nat) (row : Alias) (edge : Edge) :
    start ++ Nat.toDigits 10 n ≠ (anchor row edge).chars := by
  intro same
  have last := getLast?_chars_anchor row edge
  rw [← same] at last
  have digit := isDigit_of_getLast?_toDigits last
  cases edge <;> exact absurd digit (by decide)

theorem chars_ne_chars_anchor {row : Alias} (other : ∀ inner edge, row ≠ anchor inner edge)
    (inner : Alias) (edge : Edge) : row.chars ≠ (anchor inner edge).chars := by
  intro same
  cases row with
  | anchor row ownEdge => exact other row ownEdge rfl
  | turn =>
      have last := getLast?_chars_anchor inner edge
      rw [← same] at last
      cases edge <;> simp at last
  | found column place =>
      rw [chars_found, List.append_cons] at same
      exact toDigits_ne_chars_anchor (_ :: _ :: _ :: _ :: _ :: _ :: _ :: _) _ _ _ same
  | word column => exact toDigits_ne_chars_anchor [_, _, _, _, _] column _ _ (by simpa using same)
  | next column => exact toDigits_ne_chars_anchor [_, _, _, _, _] column _ _ (by simpa using same)
  | previous column =>
      exact toDigits_ne_chars_anchor [_, _, _, _, _, _, _, _, _] column _ _ (by simpa using same)
  | otherWord =>
      have turned := congrArg List.reverse same
      cases edge <;> simp [Edge.name] at turned
  | otherStart =>
      have turned := congrArg List.reverse same
      cases edge with
      | start =>
          refine chars_ne_other inner (List.reverse_injective ?_)
          simpa [Edge.name, eq_comm] using turned
      | stop => simp [Edge.name] at turned

theorem chars_found_inj {column place otherColumn otherPlace : Nat}
    (same : (found column place).chars = (found otherColumn otherPlace).chars) :
    column = otherColumn ∧ place = otherPlace := by
  simp only [chars_found, List.cons.injEq, true_and] at same
  -- No digit is the mark that stands between the two numbers.
  obtain ⟨columns, _, places⟩ := (List.append_cons_inj_of_notMem
    Nat.underscore_not_in_toDigits Nat.underscore_not_in_toDigits).1 same
  exact ⟨toDigits_injective columns, toDigits_injective places⟩

theorem chars_anchor_inj {inner other : Alias} {edge otherEdge : Edge}
    (same : (anchor inner edge).chars = (anchor other otherEdge).chars) :
    inner.chars = other.chars ∧ edge = otherEdge := by
  have last := getLast?_chars_anchor inner edge
  rw [same, getLast?_chars_anchor] at last
  obtain rfl : edge = otherEdge := by
    cases edge <;> cases otherEdge <;> simp_all
  rw [chars_anchor, chars_anchor, List.append_left_inj] at same
  exact ⟨same, rfl⟩

theorem chars_injective : Function.Injective chars := by
  have digits {m n : Nat} : Nat.toDigits 10 m = Nat.toDigits 10 n ↔ m = n :=
    ⟨toDigits_injective, congrArg _⟩
  intro left
  -- Only an anchor's name has another name in it.
  induction left with
  | anchor inner edge ih =>
      intro right same
      cases right with
      | anchor other otherEdge =>
          obtain ⟨rows, rfl⟩ := chars_anchor_inj same
          rw [ih rows]
      | _ => exact absurd same.symm (chars_ne_chars_anchor (by simp) inner edge)
  | found column place =>
      intro right same
      cases right with
      | found otherColumn otherPlace =>
          obtain ⟨rfl, rfl⟩ := chars_found_inj same
          rfl
      | anchor other edge => exact absurd same (chars_ne_chars_anchor (by simp) other edge)
      | _ => simp at same
  | word column | next column | previous column =>
      intro right same
      cases right with
      | anchor other edge => exact absurd same (chars_ne_chars_anchor (by simp) other edge)
      | _ => simp_all
  | turn | otherWord | otherStart =>
      intro right same
      cases right with
      | anchor other edge => exact absurd same (chars_ne_chars_anchor (by simp) other edge)
      | _ => simp at same ⊢

theorem name_injective : Function.Injective name :=
  fun _ _ same => chars_injective (congrArg String.toList same)

/-- An anchor's name begins as that of its row. -/
theorem head?_chars (row : Alias) :
    ∃ c ∈ ['t', 's', 'w', 'n', 'p', 'o'], row.chars.head? = some c := by
  induction row with
  | anchor inner edge ih =>
      obtain ⟨c, initial, first⟩ := ih
      exact ⟨c, initial, by rw [chars_anchor, List.head?_append, first, Option.some_or]⟩
  | _ => simp

theorem name_ne (row : Alias) {text : String}
    (other : ∀ c ∈ ['t', 's', 'w', 'n', 'p', 'o'], text.toList.head? ≠ some c) :
    row.name ≠ text := by
  rintro rfl
  obtain ⟨c, initial, first⟩ := row.head?_chars
  exact other c initial first

theorem name_ne_empty (row : Alias) : row.name ≠ "" :=
  row.name_ne (by decide)

/-- The name that the options join under is no row's of a plan. -/
theorem name_ne_mainParticipant (row : Alias) : row.name ≠ "main_participant" :=
  row.name_ne (by decide)

theorem name_ne_layerTable (row : Alias) (table : Int64) : row.name ≠ layerTable table := by
  refine row.name_ne fun c initial => ?_
  -- By its definition: unfolding it by an equation would compare texts byte by byte.
  change ("annotation_layer_" ++ Number.text table).toList.head? ≠ some c
  have first : ("annotation_layer_" ++ Number.text table).toList.head? = some 'a' := by simp
  rw [first]
  rintro ⟨⟩
  exact absurd initial (by decide)

/-- A row of a layer is introduced behind its table. -/
theorem relation_layerTable (row : Alias) (table : Int64) :
    Sql.relation (layerTable table) row.name =
      [.words (layerTable table), .words " ", .named row.name] :=
  if_neg (not_or.2 ⟨row.name_ne_empty, row.name_ne_layerTable table⟩)

end Alias

/-- Different cells are different columns of the statement. -/
theorem Cell.piece_injective : Function.Injective Cell.piece := by
  intro left right same
  obtain ⟨rows, columns⟩ := Sql.Piece.column.inj same
  exact congrArg₂ Cell.mk (Alias.name_injective rows) columns

end CorpusQuery.Search
