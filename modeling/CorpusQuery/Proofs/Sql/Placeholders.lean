import CorpusQuery.Proofs.Sql.Sealing

namespace CorpusQuery

/-! Placeholders and the values bound to them.

A text takes its values in their order, one for each placeholder that stands in no
literal.  A fragment is aligned if each of its pieces is, and then no piece takes a
value of another. -/

namespace Sql

/-! ### Reading -/

/-- What a character does to a reader for whom only literals matter. -/
def Mode.step : Mode → Char → Mode
  | .plain, c => if isMark c then .quoted c else .plain
  | .quoted mark, c =>
      if c = mark then .plain else if c = '\\' then .escaped mark else .quoted mark
  | .escaped mark, _ => .quoted mark

def Mode.after (mode : Mode) (text : List Char) : Mode :=
  text.foldl step mode

/-- The number of placeholders outside literals. -/
def placeholdersFrom (mode : Mode) : List Char → Nat
  | [] => 0
  | c :: rest =>
      placeholdersFrom (mode.step c) rest + if mode = .plain ∧ c = '?' then 1 else 0

def placeholders (text : String) : Nat :=
  placeholdersFrom .plain text.toList

section Inlining

variable (render : Param → List Char)

/-- The text with values in the place of its placeholders, as long as there are any. -/
def inlinedFrom : Mode → List Char → List Param → List Char
  | _, [], _ => []
  | .plain, '?' :: rest, value :: values => render value ++ inlinedFrom .plain rest values
  | mode, c :: rest, values => c :: inlinedFrom (mode.step c) rest values

def inlined (text : String) (values : List Param) : List Char :=
  inlinedFrom render .plain text.toList values

/-- The text of a piece, where a value stands for itself. -/
def Piece.inlined : Piece → List Char
  | .bound value => render value
  | .given sql values => Sql.inlined render sql values
  | piece => piece.sql.toList

def Fragment.inlined (fragment : Fragment) : List Char :=
  fragment.flatMap (Piece.inlined render)

end Inlining

/-- The text ends every literal that it begins, and has a placeholder for each value. -/
structure Aligned (text : List Char) (values : List Param) : Prop where
  closed : Mode.plain.after text = .plain
  count : placeholdersFrom .plain text = values.length

theorem aligned_iff {text : List Char} {values : List Param} :
    Aligned text values ↔
      Mode.plain.after text = .plain ∧ placeholdersFrom .plain text = values.length :=
  ⟨fun aligned => ⟨aligned.closed, aligned.count⟩, fun both => ⟨both.1, both.2⟩⟩

instance (text : List Char) (values : List Param) : Decidable (Aligned text values) :=
  decidable_of_iff _ aligned_iff.symm

example : Aligned "a = '?' AND b = ?".toList [.text "x"] := by decide

example : ¬Aligned "a = '? AND b = ?".toList [.text "x"] := by decide

/-! ### Texts one after the other -/

theorem Mode.after_append (mode : Mode) (left right : List Char) :
    mode.after (left ++ right) = (mode.after left).after right :=
  List.foldl_append

theorem placeholdersFrom_append (mode : Mode) (left right : List Char) :
    placeholdersFrom mode (left ++ right) =
      placeholdersFrom mode left + placeholdersFrom (mode.after left) right := by
  induction left generalizing mode with
  | nil => simp [placeholdersFrom, Mode.after]
  | cons c rest ih => simp [placeholdersFrom, Mode.after, ih, Nat.add_right_comm]

/-- Any other character stays. -/
theorem inlinedFrom_cons (render : Param → List Char) {mode : Mode} {c : Char}
    (other : ¬(mode = .plain ∧ c = '?')) (rest : List Char) (values : List Param) :
    inlinedFrom render mode (c :: rest) values =
      c :: inlinedFrom render (mode.step c) rest values := by
  refine inlinedFrom.eq_3 render mode values c rest ?_
  intros
  exact other ⟨‹_›, ‹_›⟩

theorem inlinedFrom_append (render : Param → List Char) {mode : Mode} {left : List Char}
    {first : List Param} (count : placeholdersFrom mode left = first.length) (right : List Char)
    (second : List Param) :
    inlinedFrom render mode (left ++ right) (first ++ second) =
      inlinedFrom render mode left first ++
        inlinedFrom render (mode.after left) right second := by
  -- With fewer values than placeholders the first text would take values of the second.
  induction left generalizing mode first with
  | nil =>
      obtain rfl : first = [] := List.eq_nil_of_length_eq_zero count.symm
      rfl
  | cons c rest ih =>
      rw [placeholdersFrom] at count
      by_cases isPlaceholder : mode = .plain ∧ c = '?'
      · obtain ⟨rfl, rfl⟩ := isPlaceholder
        cases first with
        | nil => simp at count
        | cons value values =>
            have others : placeholdersFrom .plain rest = values.length := by
              simpa [Mode.step, isMark] using count
            have behind := ih others
            simp only [List.cons_append, inlinedFrom, behind, List.append_assoc]
            rfl
      · rw [if_neg isPlaceholder, Nat.add_zero] at count
        rw [List.cons_append, inlinedFrom_cons render isPlaceholder,
          inlinedFrom_cons render isPlaceholder, ih count]
        rfl

theorem inlinedFrom_nil (render : Param → List Char) (mode : Mode) (text : List Char) :
    inlinedFrom render mode text [] = text := by
  induction text generalizing mode with
  | nil => rfl
  | cons c rest ih => cases mode <;> simp [inlinedFrom, ih]

theorem Aligned.append {left right : List Char} {first second : List Param}
    (before : Aligned left first) (behind : Aligned right second) :
    Aligned (left ++ right) (first ++ second) := by
  constructor
  · rw [Mode.after_append, before.closed, behind.closed]
  · rw [placeholdersFrom_append, before.closed, before.count, behind.count, List.length_append]

/-! ### Texts without placeholders -/

/-- The character neither stands for a value nor begins a literal. -/
def isSilent (c : Char) : Bool :=
  c != '?' && !isMark c

theorem aligned_of_silent {text : List Char} (silent : ∀ c ∈ text, isSilent c) :
    Aligned text [] := by
  induction text with
  | nil => exact ⟨rfl, rfl⟩
  | cons c rest ih =>
      obtain ⟨closed, count⟩ := ih fun other member => silent other (by simp [member])
      have first := silent c (by simp)
      simp only [isSilent, Bool.and_eq_true, bne_iff_ne, Bool.not_eq_true'] at first
      have stays : Mode.plain.step c = .plain := by simp [Mode.step, first]
      constructor
      · rw [Mode.after, List.foldl_cons, stays]
        exact closed
      · rw [placeholdersFrom, stays, if_neg (by simp [first])]
        exact count

/-- What a literal has in it does not end it, and stands for no value. -/
theorem within_literal (text rest : List Char) :
    (Mode.quoted '\'').after (text.flatMap literalChar ++ rest) =
        (Mode.quoted '\'').after rest ∧
      placeholdersFrom (.quoted '\'') (text.flatMap literalChar ++ rest) =
        placeholdersFrom (.quoted '\'') rest := by
  induction text with
  | nil => exact ⟨rfl, rfl⟩
  | cons first others ih =>
      rw [List.flatMap_cons, List.append_assoc]
      -- A quote is doubled, so that the reader leaves the literal and enters it again; a
      -- backslash is escaped by another.
      by_cases isQuote : first = '\''
      · subst first
        exact ih
      · by_cases isBackslash : first = '\\'
        · subst first
          exact ih
        · have alone : literalChar first = [first] := by simp [literalChar]
          have stays : (Mode.quoted '\'').step first = .quoted '\'' := by
            simp [Mode.step, isQuote, isBackslash]
          rw [alone, List.singleton_append, placeholdersFrom, stays, ih.2]
          exact ⟨by rw [Mode.after, List.foldl_cons, stays]; exact ih.1, by simp⟩

theorem aligned_literal (text : String) : Aligned (literal text).toList [] := by
  obtain ⟨closed, count⟩ := within_literal text.toList ['\'']
  rw [literal, String.toList_ofList]
  exact ⟨closed, count⟩

/-! ### Fragments -/

/-- No character of the text is of any concern to placeholders. -/
def IsSilent (text : String) : Prop :=
  ∀ c ∈ text.toList, isSilent c

instance (text : String) : Decidable (IsSilent text) :=
  inferInstanceAs (Decidable (∀ c ∈ text.toList, isSilent c))

@[simp] theorem isSilent_append {left right : String} :
    IsSilent (left ++ right) ↔ IsSilent left ∧ IsSilent right := by
  simp only [IsSilent, String.toList_append]
  exact List.forall_mem_append

theorem isSilent_intercalate {separator : String} (between : IsSilent separator)
    {parts : List String} (all : ∀ part ∈ parts, IsSilent part) :
    IsSilent (String.intercalate separator parts) := by
  induction parts with
  | nil => simp [IsSilent]
  | cons first rest ih =>
      obtain ⟨head, others⟩ := List.forall_mem_cons.1 all
      cases rest with
      | nil => simpa using head
      | cons second more => simp [String.intercalate_cons_cons, head, between, ih others]

theorem isSilent_of_digits {text : String} (digits : ∀ c ∈ text.toList, c = '-' ∨ c.isDigit) :
    IsSilent text := by
  intro c member
  rcases digits c member with rfl | digit
  · decide
  · have ordinary := isOrdinary_of_isDigit digit
    simp only [isOrdinary, Bool.and_eq_true] at ordinary
    simp only [isSilent, Bool.and_eq_true, bne_iff_ne]
    exact ⟨by rintro rfl; exact absurd digit (by decide), ordinary.2⟩

@[simp] theorem isSilent_integer (n : Int64) : IsSilent (Number.text n) :=
  isSilent_of_digits fun _ => Number.isDigit_of_mem_text

@[simp] theorem isSilent_natural (n : Nat) : IsSilent n.repr :=
  isSilent_of_digits fun _ member => .inr (isDigit_of_mem_repr member)

@[simp] theorem isSilent_layerTable (table : Int64) : IsSilent (layerTable table) :=
  isSilent_append.2 ⟨by decide, isSilent_integer table⟩

def Piece.IsAligned (piece : Piece) : Prop :=
  Aligned piece.sql.toList piece.params

instance (piece : Piece) : Decidable piece.IsAligned :=
  inferInstanceAs (Decidable (Aligned _ _))

@[simp] theorem Piece.isAligned_words {text : String} (silent : IsSilent text) :
    (Piece.words text).IsAligned :=
  aligned_of_silent silent

@[simp] theorem Piece.isAligned_named {row : String} (silent : IsSilent row) :
    (Piece.named row).IsAligned :=
  aligned_of_silent silent

@[simp] theorem Piece.isAligned_column {row name : String} (silentRow : IsSilent row)
    (silentName : IsSilent name) : (Piece.column row name).IsAligned :=
  aligned_of_silent (isSilent_append.2 ⟨isSilent_append.2 ⟨silentRow, by decide⟩, silentName⟩)

@[simp] theorem Piece.isAligned_marker (text : String) : (Piece.marker text).IsAligned :=
  aligned_literal text

@[simp] theorem Piece.isAligned_bound (value : Param) : (Piece.bound value).IsAligned := by
  constructor <;> simp [Piece.sql, Piece.params, Mode.after, Mode.step, isMark, placeholdersFrom]

theorem Piece.inlined_eq (render : Param → List Char) (piece : Piece) :
    inlinedFrom render .plain piece.sql.toList piece.params = piece.inlined render := by
  cases piece with
  | bound value => simp [Piece.sql, Piece.params, Piece.inlined, inlinedFrom]
  | given sql values => rfl
  | _ => exact inlinedFrom_nil render _ _

namespace Fragment

def IsAligned (fragment : Fragment) : Prop :=
  ∀ piece ∈ fragment, piece.IsAligned

instance (fragment : Fragment) : Decidable fragment.IsAligned :=
  inferInstanceAs (Decidable (∀ piece ∈ fragment, piece.IsAligned))

@[simp] theorem isAligned_nil : IsAligned [] := by simp [IsAligned]

@[simp] theorem isAligned_cons {piece : Piece} {rest : Fragment} :
    IsAligned (piece :: rest) ↔ piece.IsAligned ∧ rest.IsAligned :=
  List.forall_mem_cons

@[simp] theorem isAligned_append {left right : Fragment} :
    IsAligned (left ++ right) ↔ left.IsAligned ∧ right.IsAligned :=
  List.forall_mem_append

/-- Each value of a fragment takes the place of its own placeholder. -/
theorem IsAligned.whole {fragment : Fragment} (aligned : fragment.IsAligned) :
    Aligned fragment.sql.toList fragment.params ∧
      ∀ render, Sql.inlined render fragment.sql fragment.params = fragment.inlined render := by
  induction fragment with
  | nil => exact ⟨⟨rfl, rfl⟩, fun _ => rfl⟩
  | cons piece rest ih =>
      obtain ⟨first, others⟩ := isAligned_cons.1 aligned
      obtain ⟨behind, inlinedRest⟩ := ih others
      rw [sql_cons, params_cons, String.toList_append]
      refine ⟨first.append behind, fun render => ?_⟩
      rw [Sql.inlined, String.toList_append, inlinedFrom_append render first.count, first.closed,
        piece.inlined_eq render]
      exact congrArg (piece.inlined render ++ ·) (inlinedRest render)

@[simp] theorem isAligned_parenthesized {fragment : Fragment} :
    fragment.parenthesized.IsAligned ↔ fragment.IsAligned := by
  simp +decide [parenthesized]

theorem isAligned_join {separator : Fragment} (between : separator.IsAligned)
    {fragments : List Fragment} :
    (join separator fragments).IsAligned ↔ ∀ fragment ∈ fragments, fragment.IsAligned := by
  induction fragments with
  | nil => simp [join]
  | cons first rest ih =>
      cases rest with
      | nil => simp [join]
      | cons second others =>
          simp [join, between, ih]

@[simp] theorem isAligned_commaList {fragments : List Fragment} :
    (commaList fragments).IsAligned ↔ ∀ fragment ∈ fragments, fragment.IsAligned :=
  isAligned_join (by decide)

@[simp] theorem isAligned_conjunction {fragments : List Fragment} :
    (conjunction fragments).IsAligned ↔ ∀ fragment ∈ fragments, fragment.IsAligned :=
  isAligned_join (by decide)

@[simp] theorem isAligned_disjunction {fragments : List Fragment} :
    (disjunction fragments).IsAligned ↔ ∀ fragment ∈ fragments, fragment.IsAligned :=
  isAligned_join (by decide)

theorem additive_isAligned : Additive IsAligned :=
  additive_forall_mem _

@[simp] theorem isAligned_relation {table row : String} (silentTable : IsSilent table)
    (silentRow : IsSilent row) : (relation table row).IsAligned := by
  unfold relation
  split <;> simp +decide [silentTable, silentRow]

end Fragment

/-! ### Statements -/

structure Join.IsAligned (join : Join) : Prop where
  source : join.source.IsAligned
  row : IsSilent join.row
  on : ∀ condition ∈ join.on, condition.IsAligned

namespace Join

@[simp] theorem IsAligned.render {join : Join} (aligned : join.IsAligned) :
    join.render.IsAligned :=
  holds_render Fragment.additive_isAligned (by decide) (by decide)
    (List.forall_mem_singleton.2 (Piece.isAligned_named aligned.row)) aligned.source aligned.on

@[simp] theorem isAligned_inner {source : Fragment} {row : String} {on : List Fragment}
    (aligned : source.IsAligned) (silent : IsSilent row)
    (all : ∀ condition ∈ on, condition.IsAligned) : (inner source row on).IsAligned := by
  rw [inner_eq]
  exact ⟨aligned, silent, fun condition member => all condition (List.mem_filter.1 member).1⟩

end Join

structure Select.IsAligned (select : Select) : Prop where
  into : ∀ table ∈ select.into, Fragment.IsAligned table
  columns : ∀ column ∈ select.columns, column.IsAligned
  source : select.source.IsAligned
  joins : ∀ join ∈ select.joins, join.IsAligned
  conditions : ∀ condition ∈ select.conditions, condition.IsAligned
  order : ∀ term ∈ select.order, term.IsAligned
  limit : ∀ count ∈ select.limit, Fragment.IsAligned count

namespace Select

/-- Statements that stand in others insert nothing, and mostly have no order. -/
theorem isAligned_rows {columns : List Fragment} {source : Fragment} {joins : List Join}
    {conditions : List Fragment} (listed : ∀ column ∈ columns, column.IsAligned)
    (aligned : source.IsAligned) (joined : ∀ join ∈ joins, join.IsAligned)
    (restricted : ∀ condition ∈ conditions, condition.IsAligned) :
    ({ columns, source, joins, conditions } : Select).IsAligned :=
  ⟨by simp, listed, aligned, joined, restricted, by simp, by simp⟩

theorem IsAligned.render {select : Select} (aligned : select.IsAligned) {gap : String}
    (silent : IsSilent gap) : (select.render gap).IsAligned := by
  have words : ∀ text ∈ keywords gap, Fragment.IsAligned [.words text] := by
    simp +decide [keywords, silent]
  exact holds_render Fragment.additive_isAligned (by decide) words aligned.into aligned.columns
    aligned.source (fun join member => (aligned.joins join member).render) aligned.conditions
    aligned.order aligned.limit

@[simp] theorem IsAligned.statement {select : Select} (aligned : select.IsAligned) :
    select.statement.IsAligned :=
  aligned.render (by decide)

@[simp] theorem IsAligned.subquery {select : Select} (aligned : select.IsAligned) :
    select.subquery.IsAligned :=
  aligned.render (by decide)

theorem IsAligned.column {select : Select} (aligned : select.IsAligned) {column : Fragment}
    (more : column.IsAligned) : (select.column column).IsAligned :=
  { aligned with
    columns := List.forall_mem_append.2 ⟨aligned.columns, List.forall_mem_singleton.2 more⟩ }

theorem IsAligned.join {select : Select} (aligned : select.IsAligned) {join : Join}
    (more : join.IsAligned) : (select.join join).IsAligned :=
  { aligned with
    joins := List.forall_mem_append.2 ⟨aligned.joins, List.forall_mem_singleton.2 more⟩ }

theorem IsAligned.restrict {select : Select} (aligned : select.IsAligned) {condition : Fragment}
    (more : condition.IsAligned) : (select.restrict condition).IsAligned := by
  unfold Select.restrict
  split
  · exact aligned
  · exact { aligned with
      conditions :=
        List.forall_mem_append.2 ⟨aligned.conditions, List.forall_mem_singleton.2 more⟩ }

theorem IsAligned.foldl_restrict {conditions : List Fragment}
    (all : ∀ condition ∈ conditions, condition.IsAligned) {select : Select}
    (aligned : select.IsAligned) : (conditions.foldl Select.restrict select).IsAligned := by
  induction conditions generalizing select with
  | nil => exact aligned
  | cons first rest ih =>
      obtain ⟨head, others⟩ := List.forall_mem_cons.1 all
      exact ih others (aligned.restrict head)

end Select

end Sql

open Sql

@[simp] theorem isAligned_apply {function : String} (silent : IsSilent function)
    {argument : Fragment} : (apply function argument).IsAligned ↔ argument.IsAligned := by
  simp [apply, silent]

@[simp] theorem isAligned_within {item : Fragment} {rows : Select} (first : item.IsAligned)
    (aligned : rows.IsAligned) : (within item rows).IsAligned := by
  simp +decide [within, first, aligned]

@[simp] theorem isAligned_existing {rows : Select} (aligned : rows.IsAligned) :
    (existing rows).IsAligned := by
  simp +decide [existing, aligned]

end CorpusQuery
