import Mathlib.Data.List.Forall2
import CorpusQuery.Sql.Select

namespace CorpusQuery.Sql

/-! Statements clause by clause: their bound values, which conditions are blank, which
statements cannot be told apart, and what holds of a statement because it holds of its parts. -/

namespace Fragment

/-! ### Blank fragments -/

theorem isBlank_cons (piece : Piece) (rest : Fragment) :
    isBlank (piece :: rest) = (Text.allBlank piece.sql && rest.isBlank) := by
  simp [isBlank, Text.allBlank]

theorem isBlank_append (left right : Fragment) :
    isBlank (left ++ right) = (left.isBlank && right.isBlank) := by
  simp [isBlank, Text.allBlank]

theorem isBlank_cons_of_visible {piece : Piece} (visible : Text.allBlank piece.sql = false)
    (rest : Fragment) : isBlank (piece :: rest) = false := by
  rw [isBlank_cons, visible, Bool.false_and]

/-! ### Pieces -/

theorem infix_join {separator : Fragment} {fragments : List Fragment} {fragment : Fragment}
    (member : fragment ∈ fragments) : fragment <:+: join separator fragments := by
  induction fragments with
  | nil => contradiction
  | cons first rest ih =>
      cases rest with
      | nil => exact List.mem_singleton.1 member ▸ List.infix_rfl
      | cons second others =>
          rcases List.mem_cons.1 member with rfl | behind
          · exact ⟨[], separator ++ join separator (second :: others), by simp [join]⟩
          · exact (ih behind).trans (List.suffix_append _ _).isInfix

section Join

variable {holds : Fragment → Prop} {separator : Fragment}
  (between : ∀ {left right}, holds left → holds right → holds (left ++ separator ++ right))

include between

/-- What a separator between two fragments keeps, it keeps between any number of them. -/
theorem holds_join_of_ne_nil {fragments : List Fragment} (some : fragments ≠ [])
    (all : ∀ fragment ∈ fragments, holds fragment) : holds (join separator fragments) := by
  induction fragments with
  | nil => contradiction
  | cons first rest ih =>
      obtain ⟨head, others⟩ := List.forall_mem_cons.1 all
      cases rest with
      | nil => exact head
      | cons second more => exact between head (ih (List.cons_ne_nil _ _) others)

theorem holds_join (none : holds []) {fragments : List Fragment}
    (all : ∀ fragment ∈ fragments, holds fragment) : holds (join separator fragments) := by
  cases fragments with
  | nil => exact none
  | cons first rest => exact holds_join_of_ne_nil between (List.cons_ne_nil _ _) all

end Join

/-! ### Bound values -/

@[simp] theorem params_nil : params [] = [] := rfl

@[simp] theorem params_cons (piece : Piece) (rest : Fragment) :
    params (piece :: rest) = piece.params ++ params rest := rfl

theorem params_join {separator : Fragment} (unbound : separator.params = [])
    (fragments : List Fragment) : (join separator fragments).params = fragments.flatMap params := by
  induction fragments with
  | nil => rfl
  | cons first rest ih =>
      cases rest with
      | nil => simp [join]
      | cons second others => simp [join, unbound, ih]

@[simp] theorem params_commaList (fragments : List Fragment) :
    (commaList fragments).params = fragments.flatMap params :=
  params_join rfl fragments

@[simp] theorem params_conjunction (fragments : List Fragment) :
    (conjunction fragments).params = fragments.flatMap params :=
  params_join rfl fragments

@[simp] theorem params_parenthesized (fragment : Fragment) :
    fragment.parenthesized.params = fragment.params := by
  simp [parenthesized, Piece.params]

end Fragment

/-! ### Likeness

A likeness that concatenation keeps is kept by every clause, and so by the statement. -/

theorem forall₂_of_map_eq {f : α → β} {lefts rights : List α} (same : lefts.map f = rights.map f) :
    List.Forall₂ (fun left right => f left = f right) lefts rights := by
  rw [← List.forall₂_eq_eq_eq, List.forall₂_map_left_iff, List.forall₂_map_right_iff] at same
  exact same

/-- What is put together of like fragments is alike. -/
structure Fragment.Congruence (alike : Fragment → Fragment → Prop) : Prop where
  refl : ∀ fragment, alike fragment fragment
  append : ∀ {first second third fourth}, alike first third → alike second fourth →
    alike (first ++ second) (third ++ fourth)

/-- Statements whose clauses are alike, one by one. -/
structure Select.ClausesAlike (alike : Fragment → Fragment → Prop) (left right : Select) :
    Prop where
  into : left.into = right.into
  distinct : left.distinct = right.distinct
  columns : List.Forall₂ alike left.columns right.columns
  source : left.source = right.source
  joins : List.Forall₂ (fun join other => alike join.render other.render) left.joins right.joins
  conditions : List.Forall₂ alike left.conditions right.conditions
  order : List.Forall₂ alike left.order right.order
  limit : Option.Rel alike left.limit right.limit

section Alike

variable {alike : Fragment → Fragment → Prop} (like : Fragment.Congruence alike)

include like

namespace Fragment.Congruence

theorem forall₂_refl (fragments : List Fragment) : List.Forall₂ alike fragments fragments :=
  List.forall₂_same.2 fun fragment _ => like.refl fragment

theorem rel_refl (fragment : Option Fragment) : Option.Rel alike fragment fragment := by
  cases fragment with
  | none => exact .none
  | some fragment => exact .some (like.refl fragment)

theorem cons (piece : Piece) {left right : Fragment} (same : alike left right) :
    alike (piece :: left) (piece :: right) :=
  like.append (like.refl [piece]) same

theorem parenthesized {left right : Fragment} (same : alike left right) :
    alike left.parenthesized right.parenthesized :=
  like.append (like.cons .opening same) (like.refl [.closing])

theorem join (separator : Fragment) {lefts rights : List Fragment}
    (same : List.Forall₂ alike lefts rights) :
    alike (Fragment.join separator lefts) (Fragment.join separator rights) := by
  induction same with
  | nil => exact like.refl []
  | cons first rest ih =>
      cases rest with
      | nil => exact first
      | cons second others => exact like.append (like.append first (like.refl separator)) ih

/-- A clause is not written where there is nothing in it. -/
theorem clause (keyword : Piece) (separator : Fragment) {lefts rights : List Fragment}
    (same : List.Forall₂ alike lefts rights) :
    alike (if lefts = [] then [] else keyword :: Fragment.join separator lefts)
      (if rights = [] then [] else keyword :: Fragment.join separator rights) := by
  cases same with
  | nil => exact like.refl []
  | cons first rest =>
      rw [if_neg (List.cons_ne_nil _ _), if_neg (List.cons_ne_nil _ _)]
      exact like.cons _ (like.join _ (.cons first rest))

end Fragment.Congruence

theorem Select.ClausesAlike.render {left right : Select} (same : left.ClausesAlike alike right)
    (gap : String) : alike (left.render gap) (right.render gap) := by
  obtain ⟨into, distinct, columns, source, joins, conditions, order, limit⟩ := left
  obtain ⟨_, _, _, _, others, _, _, most⟩ := right
  obtain ⟨rfl, rfl, columnsAlike, rfl, joinsAlike, conditionsAlike, orderAlike, limitAlike⟩ := same
  dsimp only at columnsAlike joinsAlike conditionsAlike orderAlike limitAlike
  have joined : alike (joins.flatMap fun join => .words gap :: join.render)
      (others.flatMap fun join => .words gap :: join.render) := by
    induction joinsAlike with
    | nil => exact like.refl []
    | cons first _ ih => exact like.append (like.cons _ first) ih
  have listed := like.cons (.words (if distinct then "SELECT DISTINCT " else "SELECT "))
    (like.join [.words ", "] columnsAlike)
  have rows := like.refl (.words (gap ++ "FROM ") :: source)
  refine like.append (like.append (like.append (like.append (like.append (like.append (like.refl _)
    listed) rows) joined) (like.clause _ _ conditionsAlike)) (like.clause _ _ orderAlike)) ?_
  cases limitAlike with
  | none => exact like.refl []
  | some count => exact like.cons _ count

theorem Select.clausesAlike_conditions (select : Select) {lefts rights : List Fragment}
    (same : List.Forall₂ alike lefts rights) :
    ({ select with conditions := lefts } : Select).ClausesAlike alike
      { select with conditions := rights } where
  into := rfl
  distinct := rfl
  columns := like.forall₂_refl _
  source := rfl
  joins := List.forall₂_same.2 fun _ _ => like.refl _
  conditions := same
  order := like.forall₂_refl _
  limit := like.rel_refl _

end Alike

/-! ### Views -/

/-- What is seen of two fragments together depends on what is seen of each. -/
def Fragment.Compositional (view : Fragment → α) : Prop :=
  ∀ ⦃first second third fourth : Fragment⦄, view first = view third → view second = view fourth →
    view (first ++ second) = view (third ++ fourth)

namespace Fragment

theorem compositional_map (f : Piece → Piece) : Compositional (List.map f) := by
  intro first second third fourth left right
  rw [List.map_append, List.map_append, left, right]

theorem compositional_query : Compositional query := by
  intro first second third fourth left right
  obtain ⟨leftSql, leftParams⟩ := Query.mk.inj left
  obtain ⟨rightSql, rightParams⟩ := Query.mk.inj right
  simp only [query, sql_append, params_append, leftSql, leftParams, rightSql, rightParams]

/-- Which fragments are blank is seen by their texts. -/
theorem query_visible_congr {left right : List Fragment}
    (same : left.map query = right.map query) :
    (left.filter (!·.isBlank)).map query = (right.filter (!·.isBlank)).map query := by
  have filtered (fragments : List Fragment) :
      (fragments.filter (!·.isBlank)).map query =
        (fragments.map query).filter (!Text.allBlank ·.sql) := by
    rw [List.filter_map]
    rfl
  rw [filtered, filtered, same]

/-- To a view that sees parts one by one, fragments are alike that look the same. -/
theorem Compositional.congruence {view : Fragment → α} (compositional : Compositional view) :
    Congruence fun left right => view left = view right where
  refl _ := rfl
  append first second := compositional first second

end Fragment

@[simp] theorem params_relation (table row : String) : (relation table row).params = [] := by
  unfold relation
  split <;> rfl

/-- The values of a joined source come before those of its conditions. -/
theorem Join.params_render (join : Join) :
    join.render.params =
      ({ join with on := [] } : Join).render.params ++ join.on.flatMap Fragment.params := by
  cases conditions : join.on with
  | nil => simp [Join.render, conditions]
  | cons first rest => simp [Join.render, conditions, Piece.params]

theorem Join.params_render_of_bare {join : Join} (bare : join.source.params = []) :
    join.render.params = join.on.flatMap Fragment.params := by
  have head : ({ join with on := [] } : Join).render.params = [] := by
    simp only [Join.render, if_pos]
    split
    · simpa [Piece.params] using bare
    · split <;> simp [Piece.params, bare]
  rw [params_render, head, List.nil_append]

/-- Blank conditions are left out. -/
theorem Join.foldl_adding (on : List Fragment) (join : Join) :
    on.foldl adding join = { join with on := join.on ++ on.filter (!·.isBlank) } := by
  induction on generalizing join with
  | nil => simp
  | cons first rest ih =>
      rw [List.foldl_cons, ih]
      cases blank : first.isBlank <;> simp [adding, blank]

theorem Join.inner_eq (source : Fragment) (row : String) (on : List Fragment) :
    inner source row on = ⟨.inner, source, row, on.filter (!·.isBlank)⟩ := by
  simp [inner, foldl_adding]

@[simp] theorem Join.row_inner (source : Fragment) (row : String) (on : List Fragment) :
    (inner source row on).row = row := by
  rw [inner_eq]

/-! ### What holds of each part

What holds of the words between clauses holds of a statement if it does of its clauses. -/

/-- What holds of fragments that are put together, where it holds of each. -/
structure Fragment.Additive (holds : Fragment → Prop) : Prop where
  nil : holds []
  append ⦃left right : Fragment⦄ : holds left → holds right → holds (left ++ right)

theorem Fragment.additive_forall_mem (holds : Piece → Prop) :
    Additive fun fragment => ∀ piece ∈ fragment, holds piece where
  nil := List.forall_mem_nil _
  append _ _ first second := List.forall_mem_append.2 ⟨first, second⟩

/-- The words that joined rows are written with. -/
def Join.keywords : List String :=
  ["INNER JOIN ", "LEFT OUTER JOIN ", " ", " ON "]

/-- The words that clauses are written with. -/
def Select.keywords (gap : String) : List String :=
  ["INSERT INTO ", "SELECT ", "SELECT DISTINCT ", ", ", gap, gap ++ "FROM ", gap ++ "WHERE ",
    gap ++ "ORDER BY ", gap ++ "LIMIT "]

section Parts

variable {holds : Fragment → Prop} (additive : Fragment.Additive holds)

include additive

namespace Fragment.Additive

theorem join {separator : Fragment} (between : holds separator) {fragments : List Fragment}
    (all : ∀ fragment ∈ fragments, holds fragment) : holds (Fragment.join separator fragments) :=
  holds_join (fun left right => additive.append (additive.append left between) right)
    additive.nil all

theorem flatMap {items : List α} {f : α → Fragment} (all : ∀ item ∈ items, holds (f item)) :
    holds (items.flatMap f) := by
  induction items with
  | nil => exact additive.nil
  | cons first rest ih =>
      obtain ⟨head, others⟩ := List.forall_mem_cons.1 all
      exact additive.append head (ih others)

end Fragment.Additive

variable (and : holds [.and])

include and

theorem Join.holds_render (words : ∀ text ∈ keywords, holds [.words text]) {join : Join}
    (named : holds [.named join.row]) (source : holds join.source)
    (on : ∀ condition ∈ join.on, holds condition) : holds join.render := by
  have word {text : String} (known : text ∈ keywords) {rest : Fragment} (others : holds rest) :
      holds (.words text :: rest) := additive.append (words text known) others
  have kind : keyword join.kind ∈ keywords := by
    cases join.kind <;> simp [keyword, keywords]
  have space : " " ∈ keywords := by simp [keywords]
  have head : holds
      (if join.row = "" then .words (keyword join.kind) :: join.source
      else if join.row = join.source.sql then [.words (keyword join.kind), .named join.row]
      else .words (keyword join.kind) :: join.source ++ [.words " ", .named join.row]) := by
    split
    · exact word kind source
    · split
      · exact word kind named
      · exact additive.append (word kind source) (word space named)
  have conditions : holds (.words " ON " :: Fragment.conjunction join.on) :=
    word (by simp [keywords]) (additive.join (word space and) on)
  change holds (if join.on = [] then _ else _ ++ _)
  split
  · exact head
  · exact additive.append head conditions

theorem Select.holds_render {gap : String}
    (words : ∀ text ∈ keywords gap, holds [.words text]) {select : Select}
    (into : ∀ table ∈ select.into, holds table) (columns : ∀ column ∈ select.columns, holds column)
    (source : holds select.source) (joins : ∀ join ∈ select.joins, holds join.render)
    (conditions : ∀ condition ∈ select.conditions, holds condition)
    (order : ∀ term ∈ select.order, holds term) (limit : ∀ count ∈ select.limit, holds count) :
    holds (select.render gap) := by
  have word {text : String} (known : text ∈ keywords gap) {rest : Fragment}
      (others : holds rest) : holds (.words text :: rest) :=
    additive.append (words text known) others
  have space : gap ∈ keywords gap := by simp [keywords]
  have comma : holds [.words ", "] := words ", " (by simp [keywords])
  have listed : holds select.selectClause := by
    refine word ?_ (additive.join comma columns)
    split <;> simp [keywords]
  have joined : holds (select.joins.flatMap fun join => .words gap :: join.render) :=
    additive.flatMap fun join member => word space (joins join member)
  have restricted : holds (select.whereClause gap) := by
    unfold whereClause
    split
    · exact additive.nil
    · exact word (by simp [keywords]) (additive.join (word space and) conditions)
  have sorted : holds (select.orderClause gap) := by
    unfold orderClause
    split
    · exact additive.nil
    · exact word (by simp [keywords]) (additive.join comma order)
  have rows : holds (.words (gap ++ "FROM ") :: select.source) := word (by simp [keywords]) source
  refine additive.append (additive.append (additive.append (additive.append (additive.append
    (additive.append ?_ listed) rows) joined) restricted) sorted) ?_
  · split
    · exact additive.append (word (by simp [keywords]) (into _ ‹_›)) (words gap space)
    · exact additive.nil
  · split
    · exact word (by simp [keywords]) (limit _ ‹_›)
    · exact additive.nil

end Parts

namespace Select

@[simp] theorem columns_restrict (select : Select) (condition : Fragment) :
    (select.restrict condition).columns = select.columns := by
  unfold restrict
  split <;> rfl

theorem restrict_of_visible (select : Select) {piece : Piece}
    (visible : Text.allBlank piece.sql = false) (rest : Fragment) :
    select.restrict (piece :: rest) =
      { select with conditions := select.conditions ++ [piece :: rest] } := by
  rw [restrict, Fragment.isBlank_cons_of_visible visible, if_neg Bool.false_ne_true]

theorem infix_render_of_mem_conditions {select : Select} {condition : Fragment}
    (member : condition ∈ select.conditions) (gap : String) :
    condition <:+: select.render gap := by
  have restricted : condition <:+: select.whereClause gap := by
    rw [whereClause, if_neg (List.ne_nil_of_mem member)]
    exact (Fragment.infix_join member).trans (List.suffix_cons _ _).isInfix
  exact ((restricted.trans (List.suffix_append _ _).isInfix).trans
    (List.prefix_append _ (select.orderClause gap)).isInfix).trans (List.prefix_append _ _).isInfix

/-- Statements that take their rows from the same sources, and whose clauses a view tells no
difference between. -/
structure SameClauses (view : Fragment → α) (left right : Select) : Prop where
  into : left.into = right.into
  distinct : left.distinct = right.distinct
  columns : left.columns.map view = right.columns.map view
  source : left.source = right.source
  joins : left.joins = right.joins
  conditions : left.conditions.map view = right.conditions.map view
  order : left.order.map view = right.order.map view
  limit : left.limit.map view = right.limit.map view

/-- A view that tells no difference between the clauses tells none between the
statements. -/
theorem SameClauses.render {view : Fragment → α} (compositional : Fragment.Compositional view)
    {left right : Select} (same : SameClauses view left right) (gap : String) :
    view (left.render gap) = view (right.render gap) := by
  have limited : Option.Rel (fun left right => view left = view right) left.limit right.limit := by
    have limits := same.limit
    generalize left.limit = limit, right.limit = other at limits
    cases limit with
    | none =>
        obtain rfl : other = none := by simpa using limits.symm
        exact .none
    | some count =>
        obtain ⟨most, rfl, same⟩ := Option.map_eq_some_iff.1 limits.symm
        exact .some same.symm
  exact ClausesAlike.render compositional.congruence
    { into := same.into
      distinct := same.distinct
      columns := forall₂_of_map_eq same.columns
      source := same.source
      joins := same.joins ▸ List.forall₂_same.2 fun _ _ => rfl
      conditions := forall₂_of_map_eq same.conditions
      order := forall₂_of_map_eq same.order
      limit := limited } gap

/-- A view that tells no difference between the conditions tells none between the
statements. -/
theorem render_congr {view : Fragment → α} (compositional : Fragment.Compositional view)
    (gap : String) (select : Select) {left right : List Fragment}
    (same : left.map view = right.map view) :
    view (render gap { select with conditions := left }) =
      view (render gap { select with conditions := right }) := by
  have alike := compositional.congruence
  exact (clausesAlike_conditions alike select (forall₂_of_map_eq same)).render alike gap

theorem foldl_restrict (conditions : List Fragment) (select : Select) :
    conditions.foldl restrict select =
      { select with conditions := select.conditions ++ conditions.filter (!·.isBlank) } := by
  induction conditions generalizing select with
  | nil => simp
  | cons first rest ih =>
      rw [List.foldl_cons, ih]
      cases blank : first.isBlank <;> simp [restrict, blank]

theorem params_selectClause (select : Select) :
    select.selectClause.params = select.columns.flatMap Fragment.params := by
  simp [selectClause, Piece.params]

theorem params_whereClause (gap : String) (select : Select) :
    (select.whereClause gap).params = select.conditions.flatMap Fragment.params := by
  cases conditions : select.conditions with
  | nil => simp [whereClause, conditions]
  | cons first rest => simp [whereClause, conditions, Piece.params, Fragment.params_join]

theorem params_orderClause (gap : String) (select : Select) :
    (select.orderClause gap).params = select.order.flatMap Fragment.params := by
  cases terms : select.order with
  | nil => simp [orderClause, terms]
  | cons first rest => simp [orderClause, terms, Piece.params]

/-- The values of a statement's placeholders: those of its columns, sources,
conditions and order, one clause after the other. -/
theorem params_render (gap : String) (select : Select) :
    (select.render gap).params =
      (select.into.toList.flatMap Fragment.params) ++
      select.columns.flatMap Fragment.params ++
      select.source.params ++
      select.joins.flatMap (fun join => join.render.params) ++
      select.conditions.flatMap Fragment.params ++
      select.order.flatMap Fragment.params ++
      (select.limit.toList.flatMap Fragment.params) := by
  have joined : (Fragment.params (select.joins.flatMap fun join => .words gap :: join.render)) =
      select.joins.flatMap fun join => join.render.params := by
    induction select.joins with
    | nil => rfl
    | cons join rest ih => simp [ih, Piece.params]
  unfold render
  cases select.into <;> cases select.limit <;>
    simp [Piece.params, params_selectClause, params_whereClause, params_orderClause, joined]

end Select

end CorpusQuery.Sql
