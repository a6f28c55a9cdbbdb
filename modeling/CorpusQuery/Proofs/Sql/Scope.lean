import CorpusQuery.Proofs.Sql.Clauses
import CorpusQuery.Proofs.Sql.Sealing

namespace CorpusQuery

/-! Which rows a stretch of SQL refers to, and which of them it introduces.

What is in parentheses may refer to rows outside, but its own rows are known only
there.  The caller's fragments are taken as they are, and so are literals. -/

namespace Sql

/-! ### Reading -/

/-- The words of a text that have a dot behind them. -/
def qualifiersFrom (word : List Char) : List Char → List String
  | [] => []
  | c :: rest =>
      if isWordChar c then qualifiersFrom (word ++ [c]) rest
      else if c = '.' then String.ofList word :: qualifiersFrom [] rest
      else qualifiersFrom [] rest

def qualifiers (text : String) : List String :=
  qualifiersFrom [] text.toList

example : qualifiers "turn.ag_id = word_0.ag_id" = ["turn", "word_0"] := by decide

/-- The rows that are introduced and referred to between two parentheses, but not
between others within them. -/
structure Level where
  introduced : List String := []
  mentioned : List String := []

namespace Level

/-- The rows that have to be known outside. -/
def free (level : Level) : List String :=
  level.mentioned.filter (!level.introduced.contains ·)

theorem free_of_mentioned (mentioned : List String) : free ⟨[], mentioned⟩ = mentioned :=
  List.filter_eq_self.2 (by simp)

def introducing (level : Level) (row : String) : Level :=
  { level with introduced := level.introduced ++ [row] }

def mentioning (level : Level) (rows : List String) : Level :=
  { level with mentioned := level.mentioned ++ rows }

def append (outer inner : Level) : Level :=
  ⟨outer.introduced ++ inner.introduced, outer.mentioned ++ inner.mentioned⟩

end Level

/-- Reads a piece, where the level last opened comes first. -/
def Piece.scan : List Level → Piece → List Level
  | level :: outer, .named row => level.introducing row :: outer
  | level :: outer, .column row _ => level.mentioning [row] :: outer
  | level :: outer, .words text => level.mentioning (qualifiers text) :: outer
  | levels, .opening => {} :: levels
  | inner :: level :: outer, .closing => level.mentioning inner.free :: outer
  | levels, _ => levels

namespace Fragment

def scan (levels : List Level) (fragment : Fragment) : List Level :=
  fragment.foldl Piece.scan levels

/-- The level that the whole of a fragment is at. -/
def scope (fragment : Fragment) : Level :=
  (fragment.scan [{}]).headD {}

/-- The rows that a fragment introduces for those behind it. -/
def introduced (fragment : Fragment) : List String :=
  fragment.scope.introduced

/-- The rows that a fragment refers to and does not introduce itself. -/
def free (fragment : Fragment) : List String :=
  fragment.scope.free

-- A subquery keeps its rows to itself, and passes on what it asks of others.
example : free [.column "turn" "id", .words " IN ", .opening, .column "other" "id",
    .words " FROM ", .named "other", .words " WHERE ", .column "word_0" "id", .closing] =
    ["turn", "word_0"] := by decide

/-- Wherever it stands, the fragment adds this to its level, and nothing to others. -/
def Scopes (fragment : Fragment) (level : Level) : Prop :=
  ∀ before outer, fragment.scan (before :: outer) = before.append level :: outer

theorem Scopes.scope {fragment : Fragment} {level : Level} (scopes : fragment.Scopes level) :
    fragment.scope = level := by
  rw [Fragment.scope, scopes]
  simp [Level.append]

theorem scopes_nil : Scopes [] {} := by
  intro before outer
  simp [scan, Level.append]

theorem Scopes.append {left right : Fragment} {first second : Level}
    (leftScopes : left.Scopes first) (rightScopes : right.Scopes second) : (left ++ right).Scopes (first.append second) := by
  intro before outer
  have joined : (left ++ right).scan (before :: outer) = right.scan (left.scan (before :: outer)) :=
    List.foldl_append
  rw [joined, leftScopes, rightScopes]
  simp [Level.append, List.append_assoc]

theorem Scopes.cons {piece : Piece} {rest : Fragment} {first second : Level}
    (pieceScopes : Scopes [piece] first) (restScopes : rest.Scopes second) :
    Scopes (piece :: rest) (first.append second) :=
  pieceScopes.append restScopes

theorem Scopes.parenthesized {fragment : Fragment} {level : Level}
    (scopes : fragment.Scopes level) :
    fragment.parenthesized.Scopes ⟨[], level.free⟩ := by
  intro before outer
  have opened : fragment.parenthesized.scan (before :: outer) =
      Fragment.scan (fragment.scan ({} :: before :: outer)) [.closing] :=
    List.foldl_append
  rw [opened, scopes]
  simp [scan, Piece.scan, Level.append, Level.mentioning, Level.free]

theorem scopes_column (row name : String) : Scopes [.column row name] ⟨[], [row]⟩ := by
  intro before outer
  simp [scan, Piece.scan, Level.append, Level.mentioning]

/-- Pieces that neither name rows nor open or close a level. -/
theorem scopes_still {piece : Piece} (still : ∀ levels, Piece.scan levels piece = levels) :
    Scopes [piece] {} := by
  intro before outer
  simp [scan, still, Level.append]

theorem scopes_bound (value : Param) : Scopes [.bound value] {} :=
  scopes_still fun levels => by cases levels <;> rfl

theorem scopes_and : Scopes [.and] {} :=
  scopes_still fun levels => by cases levels <;> rfl

theorem scopes_named (row : String) : Scopes [.named row] ⟨[row], []⟩ := by
  intro before outer
  simp [scan, Piece.scan, Level.append, Level.introducing]

end Fragment

/-! ### Texts that name no rows -/

def IsUnqualified (text : String) : Prop :=
  '.' ∉ text.toList

instance (text : String) : Decidable (IsUnqualified text) :=
  inferInstanceAs (Decidable (_ ∉ _))

@[simp] theorem isUnqualified_append {left right : String} :
    IsUnqualified (left ++ right) ↔ IsUnqualified left ∧ IsUnqualified right := by
  simp [IsUnqualified]

theorem isUnqualified_of_digits {text : String} (digits : ∀ c ∈ text.toList, c = '-' ∨ c.isDigit) :
    IsUnqualified text := fun member => absurd (digits '.' member) (by decide)

@[simp] theorem isUnqualified_natural (n : Nat) : IsUnqualified n.repr :=
  isUnqualified_of_digits fun _ member => .inr (isDigit_of_mem_repr member)

@[simp] theorem isUnqualified_layerTable (table : Int64) : IsUnqualified (layerTable table) :=
  isUnqualified_append.2
    ⟨by decide, isUnqualified_of_digits fun _ => Number.isDigit_of_mem_text⟩

theorem qualifiersFrom_eq_nil {text : List Char} (plain : '.' ∉ text) (word : List Char) :
    qualifiersFrom word text = [] := by
  induction text generalizing word with
  | nil => rfl
  | cons c rest ih =>
      simp only [List.mem_cons, not_or] at plain
      unfold qualifiersFrom
      split
      · exact ih plain.2 _
      · rw [if_neg (Ne.symm plain.1)]
        exact ih plain.2 _

theorem Fragment.scopes_words {text : String} (plain : IsUnqualified text) :
    Scopes [.words text] {} := by
  intro before outer
  simp [scan, Piece.scan, qualifiers, qualifiersFrom_eq_nil plain, Level.append, Level.mentioning]

/-! ### Fragments that keep to some rows -/

/-- The fragment introduces these rows, and refers to none but those of the scope. -/
def Fragment.Uses (introduced scope : List String) (fragment : Fragment) : Prop :=
  ∃ mentioned, fragment.Scopes ⟨introduced, mentioned⟩ ∧ mentioned ⊆ scope

/-- The fragment refers to no rows but those of the scope. -/
def Fragment.Within (scope : List String) (fragment : Fragment) : Prop :=
  fragment.Uses [] scope

namespace Fragment

variable {scope : List String}

theorem Within.free_subset {fragment : Fragment} (within : fragment.Within scope) :
    fragment.free ⊆ scope := by
  obtain ⟨mentioned, scopes, known⟩ := within
  rwa [free, scopes.scope, Level.free_of_mentioned]

theorem Within.mono {fragment : Fragment} {more : List String} (within : fragment.Within scope)
    (subset : scope ⊆ more) : fragment.Within more :=
  within.imp fun _ => And.imp_right fun known => List.Subset.trans known subset

theorem Uses.introduced_eq {fragment : Fragment} {introduced : List String}
    (uses : fragment.Uses introduced scope) : fragment.introduced = introduced := by
  obtain ⟨mentioned, scopes, -⟩ := uses
  rw [Fragment.introduced, scopes.scope]

theorem Uses.append {left right : Fragment} {first second : List String}
    (leftUses : left.Uses first scope) (rightUses : right.Uses second scope) :
    (left ++ right).Uses (first ++ second) scope := by
  obtain ⟨_, leftScopes, leftKnown⟩ := leftUses
  obtain ⟨_, rightScopes, rightKnown⟩ := rightUses
  exact ⟨_, leftScopes.append rightScopes, List.append_subset.2 ⟨leftKnown, rightKnown⟩⟩

@[simp] theorem within_nil : Within scope [] :=
  ⟨[], scopes_nil, List.nil_subset _⟩

@[simp] theorem Within.append {left right : Fragment} (first : left.Within scope)
    (second : right.Within scope) : (left ++ right).Within scope :=
  Uses.append first second

theorem Within.before {left right : Fragment} {introduced : List String}
    (first : left.Within scope) (second : right.Uses introduced scope) :
    (left ++ right).Uses introduced scope :=
  Uses.append first second

theorem Uses.before {left right : Fragment} {introduced : List String}
    (first : left.Uses introduced scope) (second : right.Within scope) :
    (left ++ right).Uses introduced scope := by
  simpa using Uses.append first second

theorem Within.cons {piece : Piece} {rest : Fragment} (first : Within scope [piece])
    (second : rest.Within scope) : Within scope (piece :: rest) :=
  first.append second

@[simp] theorem Within.parenthesized {fragment : Fragment} (within : fragment.Within scope) :
    fragment.parenthesized.Within scope := by
  obtain ⟨mentioned, scopes, known⟩ := within
  refine ⟨_, scopes.parenthesized, ?_⟩
  rwa [Level.free_of_mentioned]

/-- What a subquery introduces is not looked for outside of it. -/
theorem Uses.parenthesized {fragment : Fragment} {introduced : List String}
    (uses : fragment.Uses introduced (introduced ++ scope)) :
    fragment.parenthesized.Within scope := by
  obtain ⟨mentioned, scopes, known⟩ := uses
  refine ⟨_, scopes.parenthesized, fun row member => ?_⟩
  obtain ⟨isMentioned, apart⟩ := List.mem_filter.1 member
  rcases List.mem_append.1 (known isMentioned) with inside | outside
  · simp [inside] at apart
  · exact outside

@[simp] theorem Within.words {text : String} (plain : IsUnqualified text) {rest : Fragment}
    (others : rest.Within scope) : Within scope (.words text :: rest) :=
  .cons ⟨[], scopes_words plain, List.nil_subset _⟩ others

theorem Uses.words {text : String} (plain : IsUnqualified text) {introduced : List String}
    {rest : Fragment} (others : rest.Uses introduced scope) :
    Uses introduced scope (.words text :: rest) :=
  Within.before ⟨[], scopes_words plain, List.nil_subset _⟩ others

@[simp] theorem Within.column {row : String} (known : row ∈ scope) (name : String)
    {rest : Fragment} (others : rest.Within scope) : Within scope (.column row name :: rest) :=
  .cons ⟨[row], scopes_column row name, List.cons_subset.2 ⟨known, List.nil_subset _⟩⟩ others

theorem Within.still {piece : Piece} (still : ∀ levels, Piece.scan levels piece = levels)
    {rest : Fragment} (others : rest.Within scope) : Within scope (piece :: rest) :=
  .cons ⟨[], scopes_still still, List.nil_subset _⟩ others

@[simp] theorem Within.not {rest : Fragment} (others : rest.Within scope) :
    Within scope (.not :: rest) :=
  .still (fun levels => by cases levels <;> rfl) others

@[simp] theorem Within.and {rest : Fragment} (others : rest.Within scope) :
    Within scope (.and :: rest) :=
  .cons ⟨[], scopes_and, List.nil_subset _⟩ others

@[simp] theorem Within.marker (text : String) {rest : Fragment} (others : rest.Within scope) :
    Within scope (.marker text :: rest) :=
  .still (fun levels => by cases levels <;> rfl) others

@[simp] theorem Within.bound (value : Param) {rest : Fragment} (others : rest.Within scope) :
    Within scope (.bound value :: rest) :=
  .cons ⟨[], scopes_bound value, List.nil_subset _⟩ others

theorem within_or : Within scope [.words " ", .or] :=
  .words (by decide) (.still (fun levels => by cases levels <;> rfl) within_nil)

theorem additive_within : Additive fun fragment => fragment.Within scope where
  nil := within_nil
  append _ _ := .append

theorem Within.join {separator : Fragment} (between : separator.Within scope)
    {fragments : List Fragment} (all : ∀ fragment ∈ fragments, fragment.Within scope) :
    (Fragment.join separator fragments).Within scope :=
  additive_within.join between all

theorem Within.commaList {fragments : List Fragment}
    (all : ∀ fragment ∈ fragments, fragment.Within scope) :
    (Fragment.commaList fragments).Within scope :=
  .join (.words (by decide) within_nil) all

theorem Within.conjunction {fragments : List Fragment}
    (all : ∀ fragment ∈ fragments, fragment.Within scope) :
    (Fragment.conjunction fragments).Within scope :=
  .join (.words (by decide) (.and within_nil)) all

theorem Within.disjunction {fragments : List Fragment}
    (all : ∀ fragment ∈ fragments, fragment.Within scope) :
    (Fragment.disjunction fragments).Within scope :=
  .join within_or all

/-- A caller's fragment, which is not looked into. -/
def IsGiven (fragment : Fragment) : Prop :=
  ∀ piece ∈ fragment, ∃ sql params, piece = .given sql params

theorem IsGiven.within {fragment : Fragment} (given : fragment.IsGiven) :
    fragment.Within scope := by
  induction fragment with
  | nil => exact within_nil
  | cons piece rest ih =>
      obtain ⟨⟨sql, params, rfl⟩, others⟩ := List.forall_mem_cons.1 given
      exact .still (fun levels => by cases levels <;> rfl) (ih others)

/-- The fragment as no more than a text with values. -/
def asGiven (fragment : Fragment) : Fragment :=
  [.given fragment.sql fragment.params]

theorem isGiven_asGiven (fragment : Fragment) : fragment.asGiven.IsGiven :=
  List.forall_mem_singleton.2 ⟨_, _, rfl⟩

@[simp] theorem sql_asGiven (fragment : Fragment) : fragment.asGiven.sql = fragment.sql :=
  String.append_empty

@[simp] theorem params_asGiven (fragment : Fragment) : fragment.asGiven.params = fragment.params :=
  List.append_nil _

theorem query_asGiven (fragment : Fragment) : fragment.asGiven.query = fragment.query := by
  simp [query]

end Fragment

/-! ### Statements -/

theorem Join.uses_render {scope : List String} {join : Join} (named : join.row ≠ "")
    (source : join.row = join.source.sql ∨ join.source.Within scope)
    (on : ∀ condition ∈ join.on, condition.Within scope) : join.render.Uses [join.row] scope := by
  have keyword : IsUnqualified (Join.keyword join.kind) := by
    cases join.kind <;> decide
  have row : Fragment.Uses [join.row] scope [.named join.row] :=
    ⟨[], Fragment.scopes_named _, List.nil_subset _⟩
  have head : Fragment.Uses [join.row] scope
      (if join.row = join.source.sql then [.words (Join.keyword join.kind), .named join.row]
      else .words (Join.keyword join.kind) :: join.source ++ [.words " ", .named join.row]) := by
    split
    · exact .words keyword row
    · rename_i other
      exact .words keyword ((source.resolve_left other).before (.words (by decide) row))
  have conditions : Fragment.Within scope (.words " ON " :: Fragment.conjunction join.on) :=
    .words (by decide) (.conjunction on)
  unfold Join.render
  simp only [if_neg named]
  split
  · exact head
  · exact head.before conditions

theorem Join.uses_inner {scope : List String} {source : Fragment} {row : String}
    {on : List Fragment} (named : row ≠ "") (known : row = source.sql ∨ source.Within scope)
    (all : ∀ condition ∈ on, condition.Within scope) :
    (Join.inner source row on).render.Uses [row] scope := by
  rw [Join.inner_eq]
  exact Join.uses_render named known fun condition member =>
    all condition (List.mem_filter.1 member).1

theorem Fragment.uses_relation {table row : String} (scope : List String) (named : row ≠ "")
    (plain : IsUnqualified table) : (relation table row).Uses [row] scope := by
  have name (row : String) : Fragment.Uses [row] scope [.named row] :=
    ⟨[], Fragment.scopes_named _, List.nil_subset _⟩
  unfold relation
  split
  · rename_i same
    rw [← same.resolve_left named]
    exact name row
  · exact .words plain (.words (by decide) (name row))

/-- The conditions tie the row to some that are known, and refer to no others. -/
structure Join.IsTied (known : List String) (join : Join) : Prop where
  some : join.on ≠ []
  own : join.row ∈ join.on.flatMap Fragment.free
  earlier : ∃ row ∈ known, row ∈ join.on.flatMap Fragment.free
  only : ∀ row ∈ join.on.flatMap Fragment.free, row = join.row ∨ row ∈ known

/-- Each join is tied to rows that are known, or are those of joins before it. -/
def Join.AllTied (known : List String) (joins : List Join) : Prop :=
  ∀ before join after, joins = before ++ join :: after →
    join.IsTied (known ++ before.map Join.row)

theorem Join.allTied_nil (known : List String) : Join.AllTied known [] :=
  fun _ _ _ split => absurd split.symm (by simp)

theorem Join.allTied_singleton {known : List String} {join : Join} (tied : join.IsTied known) :
    Join.AllTied known [join] := by
  intro before other after split
  obtain ⟨rfl, rest⟩ | ⟨_, -, none⟩ := List.cons_eq_append_iff.1 split
  · obtain rfl := (List.cons.inj rest).1
    simpa using tied
  · simp at none

theorem Join.AllTied.append {known : List String} {left right : List Join}
    (first : Join.AllTied known left) (second : Join.AllTied (known ++ left.map Join.row) right) :
    Join.AllTied known (left ++ right) := by
  intro before join after split
  rcases List.append_eq_append_iff.1 split with ⟨others, rfl, inRight⟩ | ⟨others, inLeft, behind⟩
  · simpa using second others join after inRight
  · -- Where nothing of the left is behind it, the join is the first of the right.
    cases others with
    | nil =>
        obtain rfl : left = before := by simpa using inLeft
        simpa using second [] join after behind.symm
    | cons other rest =>
        obtain ⟨rfl, -⟩ := List.cons.inj behind
        exact first before join rest inLeft

theorem Join.IsTied.mono {known more : List String} {join : Join} (tied : join.IsTied known)
    (subset : known ⊆ more) : join.IsTied more where
  some := tied.some
  own := tied.own
  earlier := tied.earlier.imp fun _ => And.imp_left fun isKnown => subset isKnown
  only row inside := (tied.only row inside).imp_right fun isKnown => subset isKnown

theorem Join.allTied_of_isTied {known : List String} {joins : List Join}
    (tied : ∀ join ∈ joins, join.IsTied known) : Join.AllTied known joins := by
  rintro before join after rfl
  exact (tied join (by simp)).mono (List.subset_append_left ..)

theorem Join.IsTied.of_first {known : List String} {join : Join} {first : Fragment}
    (member : first ∈ join.on) (own : join.row ∈ first.free)
    (earlier : ∃ row ∈ known, row ∈ first.free)
    (within : ∀ condition ∈ join.on, condition.Within (join.row :: known)) :
    join.IsTied known where
  some := List.ne_nil_of_mem member
  own := List.mem_flatMap.2 ⟨first, member, own⟩
  earlier := earlier.imp fun _ => And.imp_right fun inFirst =>
    List.mem_flatMap.2 ⟨first, member, inFirst⟩
  only row inside := by
    obtain ⟨condition, inOn, free⟩ := List.mem_flatMap.1 inside
    exact List.mem_cons.1 ((within condition inOn).free_subset free)

namespace Select

/-- The rows of a statement, in the order in which they are introduced. -/
def rows (select : Select) : List String :=
  select.source.introduced ++ select.joins.map Join.row

/-- A statement whose rows have names of their own, each of them tied to some that
come before it, and that refers to no others. -/
structure IsScoped (select : Select) : Prop where
  source : ∃ row, select.source.introduced = [row]
  named : ∀ join ∈ select.joins, join.render.introduced = [join.row]
  distinct : select.rows.Nodup
  tied : Join.AllTied select.source.introduced select.joins
  clauses : ∀ fragment ∈ select.columns ++ select.conditions ++ select.order,
    fragment.free ⊆ select.rows

/-- A statement that refers to its own rows, and besides to none but those of the
scope, has to be in parentheses to keep its rows to itself. -/
structure IsClosed (scope : List String) (select : Select) : Prop where
  into : select.into = none
  columns : ∀ column ∈ select.columns, column.Within (select.rows ++ scope)
  source : select.source.Uses select.source.introduced (select.rows ++ scope)
  joins : ∀ join ∈ select.joins, join.render.Uses [join.row] (select.rows ++ scope)
  conditions : ∀ condition ∈ select.conditions, condition.Within (select.rows ++ scope)
  order : ∀ term ∈ select.order, term.Within (select.rows ++ scope)
  limit : select.limit = none

variable {scope : List String} {select : Select}

@[simp] theorem rows_restrict (select : Select) (condition : Fragment) :
    (select.restrict condition).rows = select.rows := by
  unfold Select.restrict
  split <;> rfl

theorem IsClosed.restrict (closed : select.IsClosed scope) {condition : Fragment}
    (within : condition.Within (select.rows ++ scope)) :
    (select.restrict condition).IsClosed scope := by
  unfold Select.restrict
  split
  · exact closed
  · exact { closed with
      conditions := List.forall_mem_append.2
        ⟨closed.conditions, List.forall_mem_singleton.2 within⟩ }

theorem IsClosed.uses_subquery (closed : select.IsClosed scope) :
    select.subquery.Uses select.rows (select.rows ++ scope) := by
  obtain ⟨into, columns, source, joins, conditions, order, limit⟩ := closed
  have listed : select.selectClause.Within (select.rows ++ scope) := by
    unfold selectClause
    split <;> exact .words (by decide) (.commaList columns)
  have from_ : Fragment.Uses select.source.introduced (select.rows ++ scope)
      (.words (" " ++ "FROM ") :: select.source) :=
    .words (by decide) source
  have joined : Fragment.Uses (select.joins.map Join.row) (select.rows ++ scope)
      (select.joins.flatMap fun join => .words " " :: join.render) := by
    revert joins
    generalize select.rows ++ scope = all
    induction select.joins with
    | nil => exact fun _ => Fragment.within_nil
    | cons join rest ih =>
        intro joins
        obtain ⟨first, others⟩ := List.forall_mem_cons.1 joins
        exact Fragment.Uses.append (.words (by decide) first) (ih others)
  have restricted : (select.whereClause " ").Within (select.rows ++ scope) := by
    unfold whereClause
    split
    · exact Fragment.within_nil
    · exact .words (by decide) (.join (.words (by decide) (.and Fragment.within_nil)) conditions)
  have sorted : (select.orderClause " ").Within (select.rows ++ scope) := by
    unfold orderClause
    split
    · exact Fragment.within_nil
    · exact .words (by decide) (.commaList order)
  have clauses := (((listed.before from_).append joined).before restricted).before sorted
  change Fragment.Uses (select.source.introduced ++ select.joins.map Join.row) _ _
  simpa [Select.subquery, render, into, limit] using clauses

theorem IsClosed.subquery (closed : select.IsClosed scope) :
    select.subquery.parenthesized.Within scope :=
  closed.uses_subquery.parenthesized

end Select

end Sql

open Sql

theorem Sql.Select.IsClosed.existing {scope : List String} {select : Select}
    (closed : select.IsClosed scope) : (existing select).Within scope :=
  .words (by decide) closed.subquery

end CorpusQuery
