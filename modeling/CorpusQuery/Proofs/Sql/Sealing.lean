import CorpusQuery.Proofs.Sql.Nesting
import CorpusQuery.Rows

namespace CorpusQuery

/-! Fragments whose texts are nested, and those that show no `OR`.

A fragment that stands in parentheses, as all subqueries do, only has to be nested.
-/

namespace Sql

namespace Fragment

def IsNested (fragment : Fragment) : Prop :=
  Nested fragment.sql.toList

def IsSealed (fragment : Fragment) : Prop :=
  Sealed fragment.sql.toList

instance (fragment : Fragment) : Decidable fragment.IsNested :=
  inferInstanceAs (Decidable (Nested _))

instance (fragment : Fragment) : Decidable fragment.IsSealed :=
  inferInstanceAs (Decidable (Sealed _))

theorem IsSealed.isNested {fragment : Fragment} (whole : fragment.IsSealed) :
    fragment.IsNested :=
  whole.1

/-! ### Nested fragments -/

theorem isNested_nil : IsNested [] := rfl

theorem IsNested.append {left right : Fragment} (first : left.IsNested)
    (second : right.IsNested) : IsNested (left ++ right) := by
  rw [IsNested, sql_append, String.toList_append]
  exact Nested.append first second

theorem IsNested.cons {piece : Piece} {rest : Fragment} (first : IsNested [piece])
    (second : rest.IsNested) : IsNested (piece :: rest) :=
  first.append second

theorem additive_isNested : Additive IsNested where
  nil := isNested_nil
  append _ _ := .append

theorem isNested_join {separator : Fragment} (between : separator.IsNested)
    {fragments : List Fragment} (all : ∀ fragment ∈ fragments, fragment.IsNested) :
    (join separator fragments).IsNested :=
  additive_isNested.join between all

theorem sql_parenthesized (fragment : Fragment) :
    fragment.parenthesized.sql.toList = '(' :: fragment.sql.toList ++ [')'] := by
  simp [parenthesized, Piece.sql]

theorem IsNested.parenthesized {fragment : Fragment} (inner : fragment.IsNested) :
    fragment.parenthesized.IsSealed := by
  rw [IsSealed, sql_parenthesized]
  exact Sealed.parenthesized inner

/-! ### Sealed fragments -/

theorem isSealed_marker (text : String) : IsSealed [.marker text] := by
  simpa [IsSealed, Piece.sql] using sealed_literal text

theorem isSealed_bound (value : Param) : IsSealed [.bound value] := by
  have text : sql [.bound value] = "?" := by simp [Piece.sql]
  rw [IsSealed, text]
  decide

/-! Fixed texts are given by their characters, which are what is looked at. -/

theorem IsNested.words {text : List Char} (alone : Nested text) {rest : Fragment}
    (others : rest.IsNested) : IsNested (.words (String.ofList text) :: rest) := by
  refine IsNested.cons ?_ others
  simpa [IsNested, Piece.sql] using alone

theorem toList_sql_column (row name : List Char) :
    (sql [.column (String.ofList row) (String.ofList name)]).toList = row ++ '.' :: name := by
  simp [Piece.sql]

theorem IsNested.column {row name : List Char} (alone : Nested (row ++ '.' :: name))
    {rest : Fragment} (others : rest.IsNested) :
    IsNested (.column (String.ofList row) (String.ofList name) :: rest) := by
  refine IsNested.cons ?_ others
  rwa [IsNested, toList_sql_column]

theorem IsNested.named {text : List Char} (alone : Nested text) {rest : Fragment}
    (others : rest.IsNested) : IsNested (.named (String.ofList text) :: rest) := by
  refine IsNested.cons ?_ others
  simpa [IsNested, Piece.sql] using alone

theorem isSealed_words {text : List Char} (alone : Sealed text) :
    IsSealed [.words (String.ofList text)] := by
  simpa [IsSealed, Piece.sql] using alone

theorem isSealed_column {row name : List Char} (alone : Sealed (row ++ '.' :: name)) :
    IsSealed [.column (String.ofList row) (String.ofList name)] := by
  rwa [IsSealed, toList_sql_column]

/-- The text ends in no word, at either end. -/
def Spaced (text : List Char) : Prop :=
  (∀ c ∈ text, isOrdinary c) ∧ (∃ c ∈ text.head?, isWordChar c = false) ∧
    (∀ c ∈ text.getLast?, isWordChar c = false) ∧ Sealed text

instance (text : List Char) : Decidable (Spaced text) :=
  inferInstanceAs (Decidable (_ ∧ _ ∧ _ ∧ _))

theorem IsSealed.append {left right : Fragment} (first : left.IsSealed) (second : right.IsSealed)
    (apart : ∀ c ∈ right.sql.toList.head?, isWordChar c = false) : IsSealed (left ++ right) := by
  rw [IsSealed, sql_append, String.toList_append]
  exact Sealed.append first second apart

/-- A text that ends in no word. -/
theorem IsSealed.cons_words {text : List Char} {rest : Fragment} (whole : rest.IsSealed)
    (ordinary : ∀ c ∈ text, isOrdinary c) (alone : Sealed text)
    (apart : ∀ c ∈ text.getLast?, isWordChar c = false) :
    IsSealed (.words (String.ofList text) :: rest) := by
  rw [IsSealed, sql_cons, String.toList_append, Piece.sql, String.toList_ofList]
  exact Sealed.ordinary_append ordinary alone whole apart

theorem IsSealed.between {left right : Fragment} (first : left.IsSealed) (second : right.IsSealed)
    {text : List Char} (spaced : Spaced text) :
    IsSealed (left ++ .words (String.ofList text) :: right) := by
  obtain ⟨ordinary, starts, ends, middle⟩ := spaced
  have behind : IsSealed (.words (String.ofList text) :: right) :=
    second.cons_words ordinary middle ends
  obtain ⟨c, head, apart⟩ := starts
  refine first.append behind ?_
  rw [sql_cons, String.toList_append, List.head?_append]
  simpa [Piece.sql, Option.mem_def.1 head] using apart

/-- A text that begins with a space. -/
theorem IsSealed.followed {left : Fragment} (first : left.IsSealed) {text : List Char}
    (alone : Sealed (' ' :: text)) : IsSealed (left ++ [.words (String.ofList (' ' :: text))]) := by
  refine first.append (isSealed_words alone) ?_
  simp [Piece.sql, isWordChar]

/-- Parentheses after a word. -/
theorem IsNested.behind {inner : Fragment} (nested : inner.IsNested) {text : List Char}
    (alone : Sealed text) : IsSealed (.words (String.ofList text) :: inner.parenthesized) := by
  have apart : ∀ c ∈ inner.parenthesized.sql.toList.head?, isWordChar c = false := by
    rw [sql_parenthesized]
    simp [isWordChar]
  have joined : IsSealed ([.words (String.ofList text)] ++ inner.parenthesized) :=
    (isSealed_words alone).append nested.parenthesized apart
  exact joined

theorem isSealed_nil : IsSealed [] := by decide

theorem isSealed_join {fragments : List Fragment} {text : List Char} (spaced : Spaced text)
    {separator : Fragment} (written : separator.sql = String.ofList text)
    (all : ∀ fragment ∈ fragments, fragment.IsSealed) : (join separator fragments).IsSealed := by
  refine holds_join (fun {left right} first second => ?_) isSealed_nil all
  have same : (left ++ separator ++ right).sql =
      (left ++ .words (String.ofList text) :: right).sql := by
    simp [written, Piece.sql]
  rw [IsSealed, same]
  exact first.between second spaced

theorem isSealed_conjunction {fragments : List Fragment}
    (all : ∀ fragment ∈ fragments, fragment.IsSealed) : (conjunction fragments).IsSealed :=
  isSealed_join (show Spaced [' ', 'A', 'N', 'D', ' '] by decide) (by decide) all

theorem isNested_disjunction {fragments : List Fragment}
    (all : ∀ fragment ∈ fragments, fragment.IsNested) : (disjunction fragments).IsNested :=
  isNested_join (by decide) all

theorem isNested_commaList {fragments : List Fragment}
    (all : ∀ fragment ∈ fragments, fragment.IsNested) : (commaList fragments).IsNested :=
  isNested_join (by decide) all

theorem IsSealed.not {inner : Fragment} (whole : inner.IsSealed) : IsSealed (.not :: inner) :=
  whole.cons_words (show ∀ c ∈ ['N', 'O', 'T', ' '], isOrdinary c by decide) (by decide) (by decide)

theorem isSealed_compareColumns {operator : List Char} {a b c d : List Char}
    (first : Sealed (a ++ '.' :: b)) (second : Sealed (c ++ '.' :: d))
    (spaced : Spaced (' ' :: operator ++ [' '])) :
    (compareColumns (String.ofList operator) (String.ofList a, String.ofList b)
      (String.ofList c, String.ofList d)).IsSealed := by
  have written : " " ++ String.ofList operator ++ " " = String.ofList (' ' :: operator ++ [' ']) := by
    rw [String.ofList_append, String.ofList_cons]
    rfl
  rw [compareColumns, written]
  exact (isSealed_column first).between (isSealed_column second) spaced

end Fragment

/-! ### Numbers -/

theorem isOrdinary_of_isDigit {c : Char} (digit : c.isDigit) : isOrdinary c := by
  simp only [isOrdinary, isMark, Bool.and_eq_true, bne_iff_ne, Bool.not_eq_true', Bool.or_eq_false_iff,
    beq_eq_false_iff_ne]
  refine ⟨⟨?_, ?_⟩, ?_, ?_⟩ <;> rintro rfl <;> exact absurd digit (by decide)

theorem toUpper_ne_of_isDigit {c : Char} (digit : c.isDigit) : c.toUpper ≠ 'O' := by
  simp only [Char.isDigit, ge_iff_le, Bool.and_eq_true, decide_eq_true_eq] at digit
  have notLower : ¬('a'.val ≤ c.val ∧ c.val ≤ 'z'.val) := fun lower =>
    absurd (UInt32.le_trans lower.1 digit.2) (by decide)
  have unchanged : c.toUpper = c := dif_neg notLower
  rw [unchanged]
  rintro rfl
  exact absurd digit (by decide)

theorem isDigit_of_mem_repr {n : Nat} {c : Char} (member : c ∈ n.repr.toList) : c.isDigit := by
  rw [Nat.toList_repr] at member
  exact Nat.isDigit_of_mem_toDigits (by decide) (by decide) member

/-- A text of digits and minus signs. -/
theorem sealed_of_digits {text : List Char} (digits : ∀ c ∈ text, c = '-' ∨ c.isDigit) :
    Sealed text := by
  have ordinary : ∀ c ∈ text, isOrdinary c := by
    intro c member
    rcases digits c member with rfl | digit
    · decide
    · exact isOrdinary_of_isDigit digit
  obtain ⟨nested, shown⟩ := after_ordinary ordinary
  refine Sealed.of_shown nested fun c member => ?_
  rw [shown] at member
  rcases digits c member with rfl | digit
  · decide
  · exact toUpper_ne_of_isDigit digit

theorem isSealed_integer (n : Int64) : Fragment.IsSealed [.words (Number.text n)] := by
  simpa [Fragment.IsSealed, Piece.sql] using sealed_of_digits fun c => Number.isDigit_of_mem_text

theorem isSealed_natural (n : Nat) : Fragment.IsSealed [.words (toString n)] := by
  have digits : Sealed n.repr.toList :=
    sealed_of_digits fun c member => .inr (isDigit_of_mem_repr member)
  simpa [Fragment.IsSealed, Piece.sql] using digits

theorem nested_layerTable (table : Int64) : Nested (layerTable table).toList := by
  change Nested ("annotation_layer_" ++ Number.text table).toList
  rw [String.toList_append]
  exact Nested.append (by decide) (sealed_of_digits fun c => Number.isDigit_of_mem_text).1

theorem isNested_relation {table row : String} (first : Nested table.toList)
    (second : Nested row.toList) : (relation table row).IsNested := by
  unfold relation
  split
  · simpa [Fragment.IsNested, Piece.sql] using first
  · have whole := Nested.append (Nested.append first (show Nested [' '] by decide)) second
    simpa [Fragment.IsNested, Piece.sql] using whole

/-! ### Statements -/

theorem Join.isNested_render {join : Join} (source : join.source.IsNested)
    (row : Nested join.row.toList) (on : ∀ condition ∈ join.on, condition.IsNested) :
    join.render.IsNested := by
  have named : Fragment.IsNested [.named join.row] := by
    simpa [Fragment.IsNested, Piece.sql] using row
  exact holds_render Fragment.additive_isNested (by decide) (by decide) named source on

theorem Join.isNested_inner {source : Fragment} (nested : source.IsNested) {row : List Char}
    (named : Nested row) {on : List Fragment} (all : ∀ condition ∈ on, condition.IsNested) :
    (Join.inner source (String.ofList row) on).render.IsNested := by
  rw [inner_eq]
  exact isNested_render nested (by rwa [String.toList_ofList]) fun condition member =>
    all condition (List.mem_filter.1 member).1

structure Select.IsNested (select : Select) : Prop where
  into : ∀ table ∈ select.into.toList, Fragment.IsNested table
  columns : ∀ column ∈ select.columns, column.IsNested
  source : select.source.IsNested
  joins : ∀ join ∈ select.joins, join.render.IsNested
  conditions : ∀ condition ∈ select.conditions, condition.IsNested
  order : ∀ term ∈ select.order, term.IsNested
  limit : ∀ count ∈ select.limit.toList, Fragment.IsNested count

namespace Select

/-- Statements that stand in others insert nothing, and mostly have no order. -/
theorem isNested_rows {columns : List Fragment} {source : Fragment} {joins : List Join}
    {conditions : List Fragment} (listed : ∀ column ∈ columns, column.IsNested)
    (nested : source.IsNested) (joined : ∀ join ∈ joins, join.render.IsNested)
    (restricted : ∀ condition ∈ conditions, condition.IsNested) :
    ({ columns, source, joins, conditions } : Select).IsNested :=
  ⟨by simp, listed, nested, joined, restricted, by simp, by simp⟩

theorem IsNested.subquery {select : Select} (nested : select.IsNested) :
    select.subquery.IsNested :=
  holds_render Fragment.additive_isNested (by decide) (by decide)
    (fun table into => nested.into table (Option.mem_toList.2 into)) nested.columns nested.source
    nested.joins nested.conditions nested.order
    (fun count limit => nested.limit count (Option.mem_toList.2 limit))

theorem IsNested.restrict {select : Select} (nested : select.IsNested) {condition : Fragment}
    (more : condition.IsNested) : (select.restrict condition).IsNested := by
  unfold Select.restrict
  split
  · exact nested
  · refine { nested with conditions := fun other member => ?_ }
    rcases List.mem_append.1 member with before | last
    · exact nested.conditions other before
    · rwa [List.mem_singleton.1 last]

theorem IsNested.column {select : Select} (nested : select.IsNested) {column : Fragment}
    (more : column.IsNested) : (select.column column).IsNested := by
  refine { nested with columns := fun other member => ?_ }
  rcases List.mem_append.1 member with before | last
  · exact nested.columns other before
  · rwa [List.mem_singleton.1 last]

theorem IsNested.join {select : Select} (nested : select.IsNested) {join : Join}
    (more : join.render.IsNested) : (select.join join).IsNested := by
  refine { nested with joins := fun other member => ?_ }
  rcases List.mem_append.1 member with before | last
  · exact nested.joins other before
  · rwa [List.mem_singleton.1 last]

end Select

end Sql

open Sql

theorem isSealed_apply {function : List Char} {argument : Fragment} (nested : argument.IsNested)
    (alone : Sealed function) : (apply (String.ofList function) argument).IsSealed :=
  nested.behind alone

theorem isSealed_existing {rows : Select} (nested : rows.IsNested) : (existing rows).IsSealed :=
  nested.subquery.behind (by decide)

theorem isSealed_within {item : Fragment} {rows : Select} (first : item.IsSealed)
    (nested : rows.IsNested) : (within item rows).IsSealed :=
  first.between nested.subquery.parenthesized (by decide)

end CorpusQuery
