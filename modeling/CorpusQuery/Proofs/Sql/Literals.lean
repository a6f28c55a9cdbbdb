import Mathlib.Data.List.Chain
import CorpusQuery.Proofs.Sql.Terms

namespace CorpusQuery.Sql

/-! Literals, and where they end.

Within a literal a doubled quote stands for a quote, and a backslash for the character behind
it; a quote of its own ends the literal.  So a literal in a statement is read as the text that
it is of, as long as no other quote follows it. -/

/-! ### Reading -/

/-- The text of the literal that the quote before these characters begins, and what is behind
it. -/
def readQuoted? : List Char → Option (List Char × List Char)
  | '\'' :: '\'' :: rest => (readQuoted? rest).map fun (text, behind) => ('\'' :: text, behind)
  | '\'' :: rest => some ([], rest)
  | '\\' :: c :: rest => (readQuoted? rest).map fun (text, behind) => (c :: text, behind)
  | c :: rest => (readQuoted? rest).map fun (text, behind) => (c :: text, behind)
  | [] => none

/-- The text of the literal at the beginning, and what is behind it. -/
def readLiteral? : List Char → Option (List Char × List Char)
  | '\'' :: rest => readQuoted? rest
  | _ => none

/-- Quotes and backslashes are doubled one by one, so that none of them meets another of its
kind than its own, however many there are and wherever. -/
theorem readQuoted?_literalChars (text : List Char) {behind : List Char}
    (ends : behind.head? ≠ some '\'') :
    readQuoted? (text.flatMap literalChar ++ '\'' :: behind) = some (text, behind) := by
  induction text with
  | nil =>
      cases behind with
      | nil => rfl
      | cons c rest =>
          have other : c ≠ '\'' := by simpa using ends
          simp [readQuoted?, other]
  | cons c rest ih =>
      rw [List.flatMap_cons, List.append_assoc]
      by_cases isQuote : c = '\''
      · subst isQuote
        simp [literalChar, readQuoted?, ih]
      · by_cases isBackslash : c = '\\'
        · subst isBackslash
          simp [literalChar, readQuoted?, ih]
        · have alone : literalChar c = [c] := by simp [literalChar]
          rw [alone, List.singleton_append]
          simp [readQuoted?, isQuote, isBackslash, ih]

theorem readLiteral?_literal (text : String) {behind : List Char}
    (ends : behind.head? ≠ some '\'') :
    readLiteral? ((literal text).toList ++ behind) = some (text.toList, behind) := by
  have spelled : (literal text).toList ++ behind =
      '\'' :: (text.toList.flatMap literalChar ++ '\'' :: behind) := by
    simp [literal]
  rw [spelled]
  exact readQuoted?_literalChars text.toList ends

example : readLiteral? "'o''clock\\\\' = ?".toList = some ("o'clock\\".toList, " = ?".toList) := by
  decide

/-! ### What follows a literal -/

def Piece.isMarker : Piece → Bool
  | .marker _ => true
  | _ => false

@[simp] theorem Piece.isMarker_eq_false {piece : Piece} :
    piece.isMarker = false ↔ ∀ text, piece ≠ .marker text := by
  cases piece <;> simp [isMarker]

/-- A literal ends in front of the piece. -/
def Piece.EndsLiteral (piece : Piece) : Prop :=
  Sql.EndsLiteral piece.sql

instance : DecidablePred Piece.EndsLiteral := fun piece =>
  inferInstanceAs (Decidable (Sql.EndsLiteral piece.sql))

theorem EndsLiteral.append {left : String} (ends : EndsLiteral left) (right : String) :
    EndsLiteral (left ++ right) := by
  obtain ⟨c, first, other⟩ := ends
  refine ⟨c, ?_, other⟩
  rw [String.toList_append]
  exact List.mem_head?_append_of_mem_head? first

namespace Fragment

/-- Every literal ends in front of the piece that follows it. -/
def IsSetOff (fragment : Fragment) : Prop :=
  fragment.IsChain fun first second => first.isMarker = true → second.EndsLiteral

instance : DecidablePred IsSetOff := fun fragment =>
  inferInstanceAs (Decidable (fragment.IsChain _))

/-- The fragment ends a literal in front of it. -/
def EndsLiteral (fragment : Fragment) : Prop :=
  ∀ piece ∈ fragment.head?, piece.EndsLiteral

instance : DecidablePred EndsLiteral := fun fragment =>
  inferInstanceAs (Decidable (∀ piece ∈ fragment.head?, piece.EndsLiteral))

/-- The fragment may stand behind any other. -/
def MayFollow (fragment : Fragment) : Prop :=
  fragment.IsSetOff ∧ fragment.EndsLiteral

def HasNoMarker (fragment : Fragment) : Prop :=
  ∀ piece ∈ fragment, piece.isMarker = false

instance : DecidablePred HasNoMarker := fun fragment =>
  inferInstanceAs (Decidable (∀ piece ∈ fragment, piece.isMarker = false))

section

variable {left right : Fragment} {piece : Piece}

@[simp] theorem hasNoMarker_nil : HasNoMarker [] :=
  List.forall_mem_nil _

@[simp] theorem hasNoMarker_cons :
    HasNoMarker (piece :: right) ↔ piece.isMarker = false ∧ right.HasNoMarker :=
  List.forall_mem_cons

@[simp] theorem hasNoMarker_append :
    HasNoMarker (left ++ right) ↔ left.HasNoMarker ∧ right.HasNoMarker :=
  List.forall_mem_append

@[simp] theorem hasNoMarker_parenthesized :
    left.parenthesized.HasNoMarker ↔ left.HasNoMarker := by
  simp [parenthesized]

theorem isSetOff_nil : IsSetOff [] := List.isChain_nil

theorem isSetOff_singleton (piece : Piece) : IsSetOff [piece] := List.isChain_singleton piece

theorem IsSetOff.cons (setOff : right.IsSetOff) (other : piece.isMarker = false) :
    IsSetOff (piece :: right) :=
  List.isChain_cons.2 ⟨fun _ _ isMarker => absurd isMarker (Bool.eq_false_iff.1 other), setOff⟩

theorem HasNoMarker.append (bare : left.HasNoMarker) (setOff : right.IsSetOff) :
    (left ++ right).IsSetOff := by
  induction left with
  | nil => exact setOff
  | cons piece rest ih =>
      obtain ⟨first, others⟩ := hasNoMarker_cons.1 bare
      exact (ih others).cons first

theorem HasNoMarker.isSetOff (bare : left.HasNoMarker) : left.IsSetOff :=
  List.append_nil left ▸ bare.append isSetOff_nil

theorem mayFollow_nil : MayFollow [] :=
  ⟨isSetOff_nil, by decide⟩

theorem IsSetOff.append (first : left.IsSetOff) (second : right.MayFollow) :
    (left ++ right).IsSetOff :=
  List.isChain_append.2 ⟨first, second.1, fun _ _ piece member _ => second.2 piece member⟩

theorem MayFollow.append (first : left.MayFollow) (second : right.MayFollow) :
    (left ++ right).MayFollow := by
  refine ⟨first.1.append second, ?_⟩
  cases left with
  | nil => exact second.2
  | cons piece rest => exact first.2

/-- The fragment keeps those on its sides apart. -/
def Divides (fragment : Fragment) : Prop :=
  fragment ≠ [] ∧ fragment.EndsLiteral ∧ fragment.HasNoMarker

instance : DecidablePred Divides := fun _ =>
  inferInstanceAs (Decidable (_ ∧ _ ∧ _))

theorem divides_words {text : String} (ends : Sql.EndsLiteral text) : Divides [.words text] :=
  ⟨List.cons_ne_nil _ _, by rintro _ ⟨⟩; exact ends, by simp⟩

theorem Divides.followed (divides : left.Divides) (setOff : right.IsSetOff) :
    (left ++ right).MayFollow := by
  obtain ⟨some, ends, bare⟩ := divides
  refine ⟨bare.append setOff, ?_⟩
  cases left with
  | nil => contradiction
  | cons piece rest => exact ends

theorem IsSetOff.divided (first : left.IsSetOff) {separator : Fragment}
    (divides : separator.Divides) (second : right.IsSetOff) :
    (left ++ separator ++ right).IsSetOff := by
  rw [List.append_assoc]
  exact first.append (divides.followed second)

theorem IsSetOff.words {text : String} (first : left.IsSetOff) (ends : Sql.EndsLiteral text)
    (second : right.IsSetOff) : IsSetOff (left ++ .words text :: right) :=
  first.append ((divides_words ends).followed second)

theorem IsSetOff.parenthesized (setOff : left.IsSetOff) : left.parenthesized.IsSetOff :=
  (setOff.append ⟨isSetOff_singleton .closing, by decide⟩).cons rfl

theorem isSetOff_join {separator : Fragment} (divides : separator.Divides)
    {fragments : List Fragment} (all : ∀ fragment ∈ fragments, fragment.IsSetOff) :
    (join separator fragments).IsSetOff :=
  holds_join (fun first second => first.divided divides second) isSetOff_nil all

theorem IsStill.apart {fragment : Fragment} (still : fragment.IsStill) :
    fragment.EndsLiteral ∧ fragment.HasNoMarker := by
  have each : ∀ piece ∈ fragment, piece.EndsLiteral ∧ piece.isMarker = false := by
    intro piece member
    have own := still piece member
    cases piece with
    | words text => exact ⟨own.2, rfl⟩
    | and | or | not => exact ⟨by decide, rfl⟩
    | column | named | opening | closing | marker | bound | given => exact own.elim
  exact ⟨fun piece first => (each piece (List.mem_of_mem_head? first)).1,
    fun piece member => (each piece member).2⟩

theorem Separates.ne_nil {fragment : Fragment} (separates : fragment.Separates) :
    fragment ≠ [] := by
  rintro rfl
  exact absurd separates (by decide)

theorem isSetOff_relation (table row : String) : (relation table row).IsSetOff := by
  unfold relation
  split <;> exact HasNoMarker.isSetOff (by simp)

theorem mayFollow_flatMap {items : List α} {f : α → Fragment}
    (all : ∀ item ∈ items, (f item).MayFollow) : MayFollow (items.flatMap f) := by
  induction items with
  | nil => exact mayFollow_nil
  | cons first rest ih =>
      obtain ⟨head, others⟩ := List.forall_mem_cons.1 all
      exact head.append (ih others)

/-- A literal in a fragment is read back from where it begins, up to what follows it. -/
theorem IsSetOff.readLiteral?_of_marker {before after : Fragment} {text : String}
    (setOff : IsSetOff (before ++ .marker text :: after)) :
    readLiteral? ((literal text).toList ++ after.sql.toList) =
      some (text.toList, after.sql.toList) := by
  refine readLiteral?_literal text ?_
  have ends : after.EndsLiteral := fun piece first =>
    (List.isChain_cons.1 (List.isChain_append.1 setOff).2.1).1 piece first rfl
  cases after with
  | nil => simp
  | cons piece rest =>
      obtain ⟨c, first, other⟩ := ends piece rfl
      have head : c ∈ (sql (piece :: rest)).toList.head? := by
        rw [sql_cons, String.toList_append]
        exact List.mem_head?_append_of_mem_head? first
      rw [Option.mem_def.1 head]
      simpa using other

end

end Fragment

/-! ### Statements -/

structure Select.IsSetOff (select : Select) : Prop where
  into : ∀ table ∈ select.into, Fragment.IsSetOff table
  columns : ∀ column ∈ select.columns, column.IsSetOff
  source : select.source.IsSetOff
  joins : ∀ join ∈ select.joins, join.source.IsSetOff ∧ ∀ condition ∈ join.on, condition.IsSetOff
  conditions : ∀ condition ∈ select.conditions, condition.IsSetOff
  order : ∀ term ∈ select.order, term.IsSetOff
  limit : ∀ count ∈ select.limit, Fragment.IsSetOff count

theorem Join.isSetOff_render {join : Join} (source : join.source.IsSetOff)
    (on : ∀ condition ∈ join.on, condition.IsSetOff) : join.render.IsSetOff := by
  have named : Fragment.MayFollow [.words " ", .named join.row] :=
    (Fragment.divides_words (by decide)).followed (Fragment.isSetOff_singleton _)
  have head : Fragment.IsSetOff
      (if join.row = "" then .words (Join.keyword join.kind) :: join.source
      else if join.row = join.source.sql then [.words (Join.keyword join.kind), .named join.row]
      else .words (Join.keyword join.kind) :: join.source ++ [.words " ", .named join.row]) := by
    split
    · exact source.cons rfl
    · split
      · exact (Fragment.isSetOff_singleton _).cons rfl
      · exact (source.cons rfl).append named
  change Fragment.IsSetOff (if join.on = [] then _ else _ ++ _)
  split
  · exact head
  · exact head.append ((Fragment.divides_words (by decide)).followed
      (Fragment.isSetOff_join (by decide) on))

theorem Join.isSetOff_inner {source : Fragment} (row : String) {on : List Fragment}
    (first : source.IsSetOff) (all : ∀ condition ∈ on, condition.IsSetOff) :
    (inner source row on).source.IsSetOff ∧
      ∀ condition ∈ (inner source row on).on, condition.IsSetOff := by
  rw [inner_eq]
  exact ⟨first, fun condition member => all condition (List.mem_filter.1 member).1⟩

/-- Every clause begins with words of its own, so that it ends a literal in the one before. -/
theorem Select.IsSetOff.render {select : Select} (setOff : select.IsSetOff) {gap : String}
    (ends : EndsLiteral gap) : (select.render gap).IsSetOff := by
  have clause (text : String) {behind : Fragment} (rest : behind.IsSetOff) :
      Fragment.MayFollow (.words (gap ++ text) :: behind) :=
    (Fragment.divides_words (ends.append text)).followed rest
  have apart : Fragment.Divides [.words gap] := Fragment.divides_words ends
  have listed : select.selectClause.MayFollow := by
    have keyword : Fragment.Divides
        [.words (if select.distinct then "SELECT DISTINCT " else "SELECT ")] := by
      split <;> decide
    exact keyword.followed (Fragment.isSetOff_join (by decide) setOff.columns)
  have joined : Fragment.MayFollow
      (select.joins.flatMap fun join => .words gap :: join.render) := by
    refine Fragment.mayFollow_flatMap fun join member => ?_
    obtain ⟨source, on⟩ := setOff.joins join member
    exact apart.followed (Join.isSetOff_render source on)
  have restricted : (select.whereClause gap).MayFollow := by
    have between : Fragment.Divides [.words gap, .and] :=
      ⟨by simp, apart.2.1, by simp⟩
    unfold Select.whereClause
    split
    · exact Fragment.mayFollow_nil
    · exact clause "WHERE " (Fragment.isSetOff_join between setOff.conditions)
  have sorted : (select.orderClause gap).MayFollow := by
    unfold Select.orderClause
    split
    · exact Fragment.mayFollow_nil
    · exact clause "ORDER BY " (Fragment.isSetOff_join (by decide) setOff.order)
  unfold Select.render
  refine (((((Fragment.IsSetOff.append ?_ listed).append (clause "FROM " setOff.source)).append
    joined).append restricted).append sorted).append ?_
  · split
    · rename_i table known
      exact ((setOff.into table known).cons rfl).append (apart.followed Fragment.isSetOff_nil)
    · exact Fragment.isSetOff_nil
  · split
    · rename_i count known
      exact clause "LIMIT " (setOff.limit count known)
    · exact Fragment.mayFollow_nil

theorem Select.IsSetOff.column {select : Select} (setOff : select.IsSetOff) {column : Fragment}
    (more : column.IsSetOff) : (select.column column).IsSetOff :=
  { setOff with
    columns := List.forall_mem_append.2 ⟨setOff.columns, List.forall_mem_singleton.2 more⟩ }

theorem Select.IsSetOff.restrict {select : Select} (setOff : select.IsSetOff)
    {condition : Fragment} (more : condition.IsSetOff) : (select.restrict condition).IsSetOff := by
  unfold Select.restrict
  split
  · exact setOff
  · exact { setOff with
      conditions :=
        List.forall_mem_append.2 ⟨setOff.conditions, List.forall_mem_singleton.2 more⟩ }

theorem Select.IsSimple.isSetOff {select : Select} (simple : select.IsSimple)
    (columns : ∀ column ∈ select.columns, column.IsSetOff)
    (joins : ∀ join ∈ select.joins, ∀ condition ∈ join.on, condition.IsSetOff)
    (conditions : ∀ condition ∈ select.conditions, condition.IsSetOff)
    (order : ∀ term ∈ select.order, term.IsSetOff) : select.IsSetOff where
  into := by simp [simple.into]
  columns
  source := by
    obtain ⟨table, row, same, -⟩ := simple.source
    exact same ▸ Fragment.isSetOff_relation table row
  joins join member := by
    refine ⟨?_, joins join member⟩
    rcases (simple.joins join member).source with own | ⟨table, source, -⟩
    · exact own ▸ Fragment.isSetOff_singleton _
    · exact source ▸ Fragment.isSetOff_singleton _
  conditions
  order
  limit count member := simple.limit count member ▸ Fragment.isSetOff_singleton _

/-! ### Terms -/

/-- Every literal in a term ends in front of what follows it there. -/
theorem IsTerm.isSetOff {gaps : Prop} {allowed : Select → Prop} {known : List String}
    {fragment : Fragment} (term : IsTerm gaps allowed known fragment) : fragment.IsSetOff := by
  induction term with
  | column | marker | bound | words => exact Fragment.isSetOff_singleton _
  | between still apart _ _ first second =>
      exact first.divided ⟨apart.ne_nil, still.apart⟩ second
  | behind still _ _ ih => exact still.apart.2.append ih
  | before still _ _ ih => exact ih.append ⟨still.apart.2.isSetOff, still.apart.1⟩
  | applied _ _ ih => exact ih.parenthesized.cons rfl
  | enclosed _ ih => exact ih.parenthesized
  | empty _ => exact Fragment.isSetOff_nil.parenthesized
  | subquery _ simple _ _ _ _ _ columns joins conditions order =>
      exact ((simple.isSetOff columns joins conditions order).render (by decide)).parenthesized

end CorpusQuery.Sql
