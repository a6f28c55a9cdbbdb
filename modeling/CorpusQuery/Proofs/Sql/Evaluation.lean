import Mathlib.Data.List.Perm.Basic
import Mathlib.Data.Multiset.Bind
import CorpusQuery.Proofs.Sql.Clauses

namespace CorpusQuery.Sql

/-! The rows that statements return.

A statement goes through its sources from left to right, as nested loops: each row
so far is combined with the rows of the next source that meet the source's
conditions.  What is left once the statement's own conditions are met comes in the
order of its terms.  How the database evaluates an expression is left open, but it
sees nothing of the rows in scope except their values. -/

/-! ### Rows in scope -/

inductive Datum where
  | null
  | integer (value : Int)
  | text (value : String)
  | number (value : Number.Binary64)
deriving DecidableEq

/-- Whether the value can number a row. -/
def Datum.isKey : Datum → Bool
  | .null | .integer _ => true
  | _ => false

/-- A row: the values of its columns. -/
abbrev Record := String → Datum

/-- The rows in scope, by their names. -/
abbrev Frame := String → Option Record

def Frame.empty : Frame :=
  fun _ => none

/-- The frame with one more row. -/
def Frame.with (frame : Frame) (row : String) (record : Record) : Frame :=
  fun other => if other = row then some record else frame other

@[simp] theorem Frame.with_same (frame : Frame) (row : String) (record : Record) :
    frame.with row record row = some record := by
  simp [Frame.with]

theorem Frame.with_other {row other : String} (different : other ≠ row) (frame : Frame)
    (record : Record) : frame.with row record other = frame other := by
  simp [Frame.with, different]

theorem Frame.with_comm {left right : String} (different : left ≠ right) (frame : Frame)
    (first second : Record) :
    (frame.with left first).with right second = (frame.with right second).with left first := by
  funext row
  unfold Frame.with
  split
  · rename_i isRight
    rw [if_neg (by rw [isRight]; exact different.symm)]
  · rfl

/-- A piece of an expression whose columns have been looked up. -/
inductive Token where
  | piece (piece : Piece)
  | datum (value : Datum)
deriving DecidableEq

/-- A column of a row in scope is its value.  The rows of a subquery are not in
scope, and none of them is named like a row that is. -/
def Piece.token (frame : Frame) : Piece → Token
  | .column row name =>
      match frame row with
      | some record => .datum (record name)
      | none => .piece (.column row name)
  | piece => .piece piece

theorem Piece.token_column {frame : Frame} {row : String} {record : Record}
    (known : frame row = some record) (name : String) :
    (Piece.column row name).token frame = .datum (record name) := by
  simp only [token, known]

def Fragment.tokens (frame : Frame) (fragment : Fragment) : List Token :=
  fragment.map (Piece.token frame)

/-! ### Databases -/

/-- The columns that number rows, or refer to their numbers. -/
def keyColumns : List String :=
  ["annotation_id", "turn_annotation_id", "ag_id"]

structure Database where
  /-- The rows of a table, or of a subquery that stands for one. -/
  records : String → List Record
  holds : Frame → List Token → Bool
  value : Frame → List Token → Datum
  /-- Whether a value may come before another. -/
  order : Datum → Datum → Bool
  order_total : ∀ left right, order left right || order right left
  order_trans : ∀ first second third, order first second → order second third → order first third
  keys : ∀ table, ∀ record ∈ records table, ∀ column ∈ keyColumns, (record column).isKey
  /-- Numbers are equal if they are the same. -/
  holds_equal : ∀ frame (left right : Int),
    holds frame [.datum (.integer left), .piece (.words " = "), .datum (.integer right)] =
      decide (left = right)
  /-- Nothing is equal to nothing. -/
  holds_null : ∀ frame datum,
    holds frame [.datum .null, .piece (.words " = "), .datum datum] = false ∧
      holds frame [.datum datum, .piece (.words " = "), .datum .null] = false

namespace Database

variable (database : Database)

def equates (frame : Frame) (left right : Datum) : Bool :=
  database.holds frame [.datum left, .piece (.words " = "), .datum right]

theorem eq_of_equates {frame : Frame} {left right : Datum} (leftKey : left.isKey)
    (rightKey : right.isKey) (equal : database.equates frame left right) : left = right := by
  unfold equates at equal
  cases left <;> cases right <;>
    simp_all [Datum.isKey, database.holds_equal, database.holds_null]

theorem ne_null_of_equates {frame : Frame} {left right : Datum}
    (equal : database.equates frame left right) : left ≠ .null := by
  rintro rfl
  unfold equates at equal
  rw [(database.holds_null frame right).1] at equal
  contradiction

theorem equates_comm {frame : Frame} {left right : Datum} (leftKey : left.isKey)
    (rightKey : right.isKey) :
    database.equates frame left right = database.equates frame right left := by
  unfold equates
  cases left <;> cases right <;>
    simp_all [Datum.isKey, database.holds_equal, database.holds_null, eq_comm]

/-- All of the conditions hold. -/
def meets (conditions : List Fragment) (frame : Frame) : Bool :=
  conditions.all fun condition => database.holds frame (condition.tokens frame)

/-- The values of some expressions. -/
def values (expressions : List Fragment) (frame : Frame) : List Datum :=
  expressions.map fun expression => database.value frame (expression.tokens frame)

/-- Whether a list of values may come before another: the first values that do not
come in either order decide. -/
def ordered : List Datum → List Datum → Bool
  | left :: lefts, right :: rights =>
      database.order left right && (!database.order right left || ordered lefts rights)
  | [], _ => true
  | _ :: _, [] => false

end Database

/-! ### Statements -/

/-- The table of a source with a name, and the name. -/
def Fragment.origin : Fragment → String × String
  | [.words table, .words _, .named row] => (table, row)
  | [.named table] => (table, table)
  | fragment => (fragment.sql, "")

namespace Join

/-- The frame with each row of the joined source that meets its conditions. -/
def fitting (database : Database) (join : Join) (frame : Frame) : List Frame :=
  ((database.records join.source.sql).map (frame.with join.row)).filter (database.meets join.on)

/-- A left join keeps a frame that no row fits, with a row of nulls. -/
def frames (database : Database) (join : Join) (frame : Frame) : List Frame :=
  match join.kind with
  | .inner => join.fitting database frame
  | .left =>
      if (join.fitting database frame).isEmpty then [frame.with join.row fun _ => .null]
      else join.fitting database frame

end Join

def joinAll (database : Database) (joins : List Join) (frames : List Frame) : List Frame :=
  joins.foldl (fun frames join => frames.flatMap (join.frames database)) frames

namespace Select

/-- The tables that are read, each with the name of its row. -/
def sources (select : Select) : List (String × String) :=
  select.source.origin :: select.joins.map fun join => (join.source.sql, join.row)

/-- The conditions under which the sources are joined. -/
def joinConditions (select : Select) : List Fragment :=
  select.joins.flatMap Join.on

/-- The rows of the first source. -/
def start (database : Database) (select : Select) : List Frame :=
  (database.records select.source.origin.1).map (Frame.empty.with select.source.origin.2)

/-- The combined rows that meet all conditions, in the order of the loops. -/
def frames (database : Database) (select : Select) : List Frame :=
  (joinAll database select.joins (select.start database)).filter
    (database.meets select.conditions)

/-- The statement neither drops repeated rows nor limits their number, and returns
these rows in this order.  Rows that the terms of its order leave equal may come
either way. -/
def Returns (database : Database) (select : Select) (rows : List (List Datum)) : Prop :=
  select.distinct = false ∧ select.limit = none ∧
  ∃ frames : List Frame, frames.Perm (select.frames database) ∧
    frames.Pairwise (fun earlier later =>
      database.ordered (database.values select.order earlier)
        (database.values select.order later)) ∧
    rows = frames.map (database.values select.columns)

end Select

/-! ### Order -/

namespace Database

variable {database : Database}

theorem ordered_total (left right : List Datum) :
    database.ordered left right || database.ordered right left := by
  induction left generalizing right with
  | nil => simp [ordered]
  | cons first rest ih =>
      cases right with
      | nil => simp [ordered]
      | cons second others =>
          have either := database.order_total first second
          have tails := ih others
          simp only [ordered]
          cases forth : database.order first second <;>
            cases back : database.order second first <;> simp_all

theorem ordered_trans {first second third : List Datum} (left : database.ordered first second)
    (right : database.ordered second third) : database.ordered first third := by
  induction first generalizing second third with
  | nil => simp [ordered]
  | cons a as ih =>
      cases second with
      | nil => simp [ordered] at left
      | cons b bs =>
          cases third with
          | nil => simp [ordered] at right
          | cons c cs =>
              simp only [ordered, Bool.and_eq_true, Bool.or_eq_true, Bool.not_eq_true'] at left right ⊢
              refine ⟨database.order_trans a b c left.1 right.1, ?_⟩
              by_cases back : database.order c a = true
              · -- all three values are tied, so the rest decides
                have ba := database.order_trans b c a right.1 back
                have cb := database.order_trans c a b back left.1
                simp only [ba, cb, Bool.true_eq_false, false_or] at left right
                exact .inr (ih left.2 right.2)
              · exact .inl (by simpa using back)

end Database

namespace Select

theorem exists_returns (database : Database) {select : Select} (repeats : select.distinct = false)
    (unlimited : select.limit = none) : ∃ rows, select.Returns database rows := by
  let earlier (left right : Frame) : Bool :=
    database.ordered (database.values select.order left) (database.values select.order right)
  have sorted : ((select.frames database).mergeSort earlier).Pairwise (earlier · ·) :=
    @List.pairwise_mergeSort _ earlier (fun _ _ _ => Database.ordered_trans)
      (fun _ _ => Database.ordered_total _ _) _
  exact ⟨_, repeats, unlimited, _, List.mergeSort_perm _ _, sorted, rfl⟩

/-- Statements whose combined rows are the same up to their order, and that agree on
the values of each, return the same. -/
theorem returns_iff_of_perm {database : Database} {left right : Select}
    (distinct : left.distinct = right.distinct) (limit : left.limit = right.limit)
    (same : (left.frames database).Perm (right.frames database))
    (order : ∀ frame ∈ left.frames database,
      database.values left.order frame = database.values right.order frame)
    (columns : ∀ frame ∈ left.frames database,
      database.values left.columns frame = database.values right.columns frame)
    (rows : List (List Datum)) : left.Returns database rows ↔ right.Returns database rows := by
  constructor
  · rintro ⟨repeats, unlimited, frames, perm, sorted, rfl⟩
    refine ⟨distinct ▸ repeats, limit ▸ unlimited, frames, perm.trans same, ?_, ?_⟩
    · refine sorted.imp_of_mem fun {earlier later} first second ahead => ?_
      rwa [← order earlier (perm.mem_iff.1 first), ← order later (perm.mem_iff.1 second)]
    · exact List.map_congr_left fun frame member => columns frame (perm.mem_iff.1 member)
  · rintro ⟨repeats, unlimited, frames, perm, sorted, rfl⟩
    have within := fun {frame} (member : frame ∈ frames) =>
      same.mem_iff.2 (perm.mem_iff.1 member)
    refine ⟨distinct ▸ repeats, limit ▸ unlimited, frames, perm.trans same.symm, ?_, ?_⟩
    · refine sorted.imp_of_mem fun {earlier later} first second ahead => ?_
      rwa [order earlier (within first), order later (within second)]
    · exact List.map_congr_left fun frame member => (columns frame (within member)).symm

end Select

/-! ### Columns by other names -/

/-- Both names of a column stand for the same value. -/
def Frame.Knows (frame : Frame) (respell : Piece → Piece) : Prop :=
  ∀ piece, (respell piece).token frame = piece.token frame

/-- A join, its conditions with columns by other names. -/
def Join.shape (respell : Piece → Piece) (join : Join) :
    JoinKind × Fragment × String × List Fragment :=
  (join.kind, join.source, join.row, join.on.map (List.map respell))

/-- Two statements say the same, with columns by other names: they bind the same
values, and have the same clauses but for the order of their sources. -/
structure Select.Agree (respell : Piece → Piece) (left right : Select) : Prop where
  params : left.statement.params = right.statement.params
  into : left.into = right.into
  distinct : left.distinct = right.distinct
  limit : left.limit = right.limit
  columns : left.columns.map (List.map respell) = right.columns.map (List.map respell)
  sources : left.sources.Perm right.sources
  joinConditions :
    left.joinConditions.map (List.map respell) = right.joinConditions.map (List.map respell)
  conditions : left.conditions.map (List.map respell) = right.conditions.map (List.map respell)
  order : left.order.map (List.map respell) = right.order.map (List.map respell)

section Shapes

variable {respell : Piece → Piece} {left right : List Join}
  (same : left.map (Join.shape respell) = right.map (Join.shape respell))

include same

theorem sources_of_shapes :
    left.map (fun join => (join.source.sql, join.row)) =
      right.map (fun join => (join.source.sql, join.row)) := by
  have read (joins : List Join) : joins.map (fun join => (join.source.sql, join.row)) =
      (joins.map (Join.shape respell)).map fun shape => (shape.2.1.sql, shape.2.2.1) := by
    simp [Join.shape]
  rw [read left, same, read right]

theorem conditions_of_shapes :
    (left.flatMap Join.on).map (List.map respell) =
      (right.flatMap Join.on).map (List.map respell) := by
  have read (joins : List Join) : (joins.flatMap Join.on).map (List.map respell) =
      (joins.map (Join.shape respell)).flatMap fun shape => shape.2.2.2 := by
    simp [Join.shape, List.map_flatMap, List.flatMap_map]
  rw [read left, same, read right]

end Shapes

section Respelled

variable {database : Database} {respell : Piece → Piece} {frame : Frame}

theorem Frame.Knows.tokens_eq (knows : frame.Knows respell) {left right : Fragment}
    (same : left.map respell = right.map respell) : left.tokens frame = right.tokens frame := by
  have seen (fragment : Fragment) :
      (fragment.map respell).map (Piece.token frame) = fragment.tokens frame := by
    rw [List.map_map]
    exact List.map_congr_left fun piece _ => knows piece
  rw [← seen left, same, seen right]

theorem Frame.Knows.values_eq (knows : frame.Knows respell) {left right : List Fragment}
    (same : left.map (List.map respell) = right.map (List.map respell)) :
    database.values left frame = database.values right frame := by
  replace same := forall₂_of_map_eq same
  induction same with
  | nil => rfl
  | cons heads _ ih =>
      exact congrArg₂ (fun first rest => database.value frame first :: rest) (knows.tokens_eq heads) ih

theorem Frame.Knows.meets_eq (knows : frame.Knows respell) {left right : List Fragment}
    (same : left.map (List.map respell) = right.map (List.map respell)) :
    database.meets left frame = database.meets right frame := by
  replace same := forall₂_of_map_eq same
  induction same with
  | nil => rfl
  | cons heads _ ih =>
      exact congrArg₂ (fun first rest => database.holds frame first && rest) (knows.tokens_eq heads) ih

theorem Join.frames_eq {left right : Join} (same : left.shape respell = right.shape respell)
    (kept : ∀ record, (frame.with left.row record).Knows respell) :
    left.frames database frame = right.frames database frame := by
  obtain ⟨kinds, sources, rows, conditions⟩ :
      left.kind = right.kind ∧ left.source = right.source ∧ left.row = right.row ∧
        left.on.map (List.map respell) = right.on.map (List.map respell) := by
    simpa [Join.shape] using same
  have fitting : left.fitting database frame = right.fitting database frame := by
    unfold Join.fitting
    rw [← sources, ← rows]
    refine List.filter_congr fun extended member => ?_
    obtain ⟨record, _, rfl⟩ := List.mem_map.1 member
    exact (kept record).meets_eq conditions
  simp only [Join.frames, fitting, kinds, rows]

theorem Join.knows_of_mem_frames {join : Join}
    (kept : ∀ record, (frame.with join.row record).Knows respell) {extended : Frame}
    (member : extended ∈ join.frames database frame) : extended.Knows respell := by
  have fitting : ∀ extended ∈ join.fitting database frame, extended.Knows respell := by
    intro extended member
    obtain ⟨record, _, rfl⟩ := List.mem_map.1 (List.mem_filter.1 member).1
    exact kept record
  unfold Join.frames at member
  split at member
  · exact fitting extended member
  · split at member
    · obtain rfl := List.mem_singleton.1 member
      exact kept _
    · exact fitting extended member

theorem joinAll_eq {left right : List Join} {frames : List Frame}
    (same : left.map (Join.shape respell) = right.map (Join.shape respell))
    (knows : ∀ frame ∈ frames, frame.Knows respell)
    (kept : ∀ join ∈ left, ∀ frame : Frame, frame.Knows respell →
      ∀ record, (frame.with join.row record).Knows respell) :
    joinAll database left frames = joinAll database right frames ∧
      ∀ frame ∈ joinAll database left frames, frame.Knows respell := by
  replace same := forall₂_of_map_eq same
  induction same generalizing frames with
  | nil => exact ⟨rfl, knows⟩
  | @cons first second rest others heads _ ih =>
      obtain ⟨keptFirst, keptRest⟩ := List.forall_mem_cons.1 kept
      have next : frames.flatMap (first.frames database) =
          frames.flatMap (second.frames database) :=
        List.flatMap_congr fun frame member =>
          Join.frames_eq heads (keptFirst frame (knows frame member))
      have stillKnows : ∀ frame ∈ frames.flatMap (first.frames database),
          frame.Knows respell := by
        intro extended member
        obtain ⟨frame, within, added⟩ := List.mem_flatMap.1 member
        exact Join.knows_of_mem_frames (keptFirst frame (knows frame within)) added
      have joined := ih stillKnows keptRest
      simp only [joinAll, List.foldl_cons] at joined ⊢
      rwa [← next]

theorem joinAll_perm (joins : List Join) {left right : List Frame} (same : left.Perm right) :
    (joinAll database joins left).Perm (joinAll database joins right) := by
  induction joins generalizing left right with
  | nil => exact same
  | cons join rest ih => exact ih (same.flatMap_right _)

end Respelled

/-! ### Two sources in either order -/

/-- The pairs that meet a condition, listed by their first or by their second
part. -/
theorem filtered_pairs_perm (lefts : List α) (rights : List β) (keep : α → β → Bool)
    (pair : α → β → γ) :
    (lefts.flatMap fun left => (rights.filter (keep left)).map (pair left)).Perm
      (rights.flatMap fun right => (lefts.filter (keep · right)).map (pair · right)) := by
  let single (left : α) (right : β) : List γ := if keep left right then [pair left right] else []
  have byLeft (left : α) :
      (rights.filter (keep left)).map (pair left) = rights.flatMap (single left) := by
    induction rights with
    | nil => rfl
    | cons right rest ih => by_cases kept : keep left right <;> simp [single, kept, ih]
  have byRight (right : β) :
      (lefts.filter (keep · right)).map (pair · right) = lefts.flatMap (single · right) := by
    induction lefts with
    | nil => rfl
    | cons left rest ih => by_cases kept : keep left right <;> simp [single, kept, ih]
  simp only [byLeft, byRight]
  -- As multisets, both sides run through all pairs.
  rw [← Multiset.coe_eq_coe]
  simpa only [← Multiset.coe_bind] using
    Multiset.bind_bind (lefts : Multiset α) (rights : Multiset β)
      (f := fun left right => (single left right : Multiset γ))

/-- A row joined by one of its columns. -/
def Join.tied (source : Fragment) (own other : String × String) : Join :=
  ⟨.inner, source, own.1,
    [[.column own.1 own.2, .words " = ", .column other.1 other.2]]⟩

section Tied

variable {database : Database} {left right : String × String} (different : left.1 ≠ right.1)
  (leftSource rightSource : Fragment)

include different

theorem Join.frames_tied (record : Record) :
    (Join.tied rightSource right left).frames database (Frame.empty.with left.1 record) =
      ((database.records rightSource.sql).filter fun added =>
        database.equates ((Frame.empty.with left.1 record).with right.1 added) (added right.2)
          (record left.2)).map ((Frame.empty.with left.1 record).with right.1) := by
  change Join.fitting .. = _
  simp only [fitting, tied, List.filter_map]
  refine congrArg (List.map _) (List.filter_congr fun added _ => ?_)
  simp [Database.meets, Database.equates, Fragment.tokens, Piece.token,
    Frame.with_other different]

/-- The rows of two sources that are tied by an equation of their keys, from either
side. -/
theorem tied_pairs_perm (leftKey : left.2 ∈ keyColumns) (rightKey : right.2 ∈ keyColumns) :
    (((database.records leftSource.sql).map (Frame.empty.with left.1)).flatMap
        ((Join.tied rightSource right left).frames database)).Perm
      (((database.records rightSource.sql).map (Frame.empty.with right.1)).flatMap
        ((Join.tied leftSource left right).frames database)) := by
  have fromRight : ∀ second ∈ database.records rightSource.sql,
      (Join.tied leftSource left right).frames database (Frame.empty.with right.1 second) =
        ((database.records leftSource.sql).filter fun first =>
          database.equates ((Frame.empty.with left.1 first).with right.1 second) (second right.2)
            (first left.2)).map
          fun first => (Frame.empty.with left.1 first).with right.1 second := by
    intro second member
    rw [Join.frames_tied different.symm, List.filter_congr fun first within => ?_]
    · exact List.map_congr_left fun first _ => (Frame.with_comm different ..).symm
    · rw [Frame.with_comm different]
      exact database.equates_comm (database.keys _ _ within _ leftKey)
        (database.keys _ _ member _ rightKey)
  simp only [List.flatMap_map, Join.frames_tied different]
  rw [List.flatMap_congr fromRight]
  exact filtered_pairs_perm _ _ _ _

/-- Rows that are tied have the same number. -/
theorem key_eq_of_mem_tied_pairs (leftKey : left.2 ∈ keyColumns) (rightKey : right.2 ∈ keyColumns)
    {frame : Frame} (member : frame ∈ ((database.records leftSource.sql).map
      (Frame.empty.with left.1)).flatMap ((Join.tied rightSource right left).frames database)) :
    ∃ first ∈ database.records leftSource.sql, ∃ second ∈ database.records rightSource.sql,
      frame = (Frame.empty.with left.1 first).with right.1 second ∧
        first left.2 = second right.2 ∧ second right.2 ≠ .null := by
  simp only [List.flatMap_map, Join.frames_tied different, List.mem_flatMap, List.mem_map,
    List.mem_filter] at member
  obtain ⟨first, within, second, ⟨found, equal⟩, rfl⟩ := member
  have same := database.eq_of_equates (database.keys _ _ found _ rightKey)
    (database.keys _ _ within _ leftKey) equal
  exact ⟨first, within, second, found, rfl, same.symm, database.ne_null_of_equates equal⟩

end Tied

end CorpusQuery.Sql
