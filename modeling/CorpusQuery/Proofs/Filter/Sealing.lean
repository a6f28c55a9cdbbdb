import CorpusQuery.Filter.Condition
import CorpusQuery.Proofs.Sql.Sealing

namespace CorpusQuery

/-! No condition that an expression makes shows an `OR`.  Where one is needed it
stands in parentheses, and where texts of the schema are needed they stand in
literals. -/

open Sql

/-! ### Restrictions -/

namespace Access

theorem isNested_roles {permission : List Fragment}
    (all : ∀ condition ∈ permission, condition.IsNested) : (roles permission).IsNested := by
  refine Select.isNested_rows ?_ (.named (by decide) Fragment.isNested_nil) ?_ (by simp)
  · exact List.forall_mem_singleton.2 (.words (by decide) Fragment.isNested_nil)
  · refine List.forall_mem_singleton.2
      (Join.isNested_inner (.named (by decide) Fragment.isNested_nil) (by decide) ?_)
    simp only [List.cons_append, List.mem_cons, List.mem_append, List.not_mem_nil, or_false,
      forall_eq_or_imp]
    refine ⟨(Fragment.isSealed_compareColumns (by decide) (by decide) (by decide)).isNested, ?_⟩
    rintro condition (given | rfl)
    · exact all condition given
    · exact .column (by decide) (.words (by decide) (Fragment.isSealed_marker _).isNested)

variable {graph : Fragment} (nested : graph.IsNested)

theorem isNested_ofUser (id : String) :
    Fragment.IsNested [.column "role" "user_id", .words " = ", .bound (.text id)] :=
  .column (by decide) (.words (by decide) (Fragment.isSealed_bound _).isNested)

include nested

theorem isSealed_byAttribute (id : String) : (byAttribute id graph).IsSealed := by
  refine Fragment.IsNested.behind (Select.IsNested.subquery ?_) (by decide)
  refine (((isNested_roles (by simp)).join ?_).restrict (isNested_ofUser id)).restrict ?_
  · refine Join.isNested_inner (.words (by decide) Fragment.isNested_nil) (by decide) ?_
    exact List.forall_mem_cons.2
      ⟨(Fragment.isSealed_compareColumns (by decide) (by decide) (by decide)).isNested,
        List.forall_mem_singleton.2
          (.column (by decide) (.words (by decide) (.column (by decide) Fragment.isNested_nil)))⟩
  · exact .column (by decide) (.words (by decide) nested)

theorem isSealed_byCorpus (id : String) : (byCorpus id graph).IsSealed := by
  refine Fragment.IsNested.behind (Select.IsNested.subquery ?_) (by decide)
  refine (((isNested_roles ?_).join ?_).restrict (isNested_ofUser id)).restrict ?_
  · exact List.forall_mem_singleton.2
      (.column (by decide) (.words (by decide) (Fragment.isSealed_marker _).isNested))
  · refine Join.isNested_inner (.words (by decide) Fragment.isNested_nil) (by decide) ?_
    exact List.forall_mem_singleton.2
      (.column (by decide) (.words (by decide) (.column (by decide) Fragment.isNested_nil)))
  · exact .column (by decide) (.words (by decide) nested)

/-- A caller's condition has to be nested itself. -/
theorem isSealed_restriction {access : Access}
    (given : ∀ fragment, access = .condition fragment → fragment.IsNested) :
    (access.restriction graph).IsSealed := by
  cases access with
  | condition fragment => exact (given fragment rfl).parenthesized
  | user id =>
      refine Fragment.IsNested.parenthesized (Fragment.isNested_disjunction ?_)
      exact List.forall_mem_cons.2 ⟨(isSealed_byAttribute nested id).isNested,
        List.forall_mem_singleton.2 (isSealed_byCorpus nested id).isNested⟩

end Access

namespace Filter

/-! ### Targets -/

namespace Target

theorem isSealed_graph? {target : Target} {graph : Fragment} (found : target.graph? = some graph) :
    graph.IsSealed := by
  unfold graph? at found
  split at found
  · cases found
    exact Fragment.isSealed_column (by decide)
  · cases found
    exact Fragment.isSealed_column (by decide)
  · cases found
    exact Fragment.isSealed_column (by decide)
  · contradiction

theorem nested_turnTable? {schema : Schema} {table : String}
    (found : turnTable? schema = some table) : Nested table.toList := by
  obtain ⟨entry, -, stored⟩ := Option.bind_eq_some_iff.1 found
  obtain ⟨number, -, rfl⟩ := Option.map_eq_some_iff.1 stored
  exact nested_layerTable number

theorem isSealed_turnSpeaker : turnSpeaker.IsSealed :=
  isSealed_apply (.column (by decide) (.words (by decide) Fragment.isNested_nil)) (by decide)

theorem isSealed_speaker? {schema : Schema} {target : Target} {speaker : Fragment}
    (found : target.speaker? schema = some speaker) : speaker.IsSealed := by
  unfold speaker? at found
  split at found
  · cases found
    exact Fragment.isSealed_column (by decide)
  · cases found
    exact Fragment.isSealed_column (by decide)
  · split at found
    · obtain ⟨table, known, rfl⟩ := Option.map_eq_some_iff.1 found
      refine (Select.isNested_rows ?_ ?_ (by simp) ?_).subquery.parenthesized
      · exact List.forall_mem_singleton.2 isSealed_turnSpeaker.isNested
      · exact isNested_relation (nested_turnTable? known) (by decide)
      · exact List.forall_mem_singleton.2
          (Fragment.isSealed_compareColumns (by decide) (by decide) (by decide)).isNested
    · contradiction
  · contradiction

theorem isSealed_own (target : Target) : ∀ condition ∈ target.own, condition.IsSealed := by
  unfold own
  split
  · exact List.forall_mem_singleton.2
      ((Fragment.isSealed_column (by decide)).between (Fragment.isSealed_marker _) (by decide))
  · refine List.forall_mem_singleton.2 (isSealed_existing (Select.isNested_rows ?_ ?_ (by simp) ?_))
    · exact List.forall_mem_singleton.2 (.words (by decide) Fragment.isNested_nil)
    · exact isNested_relation (by decide) (by decide)
    · exact List.forall_mem_cons.2
        ⟨(Fragment.isSealed_compareColumns (by decide) (by decide) (by decide)).isNested,
          List.forall_mem_singleton.2
            (.column (by decide) (.words (by decide) Fragment.isNested_nil))⟩
  · simp

end Target

/-! ### Values -/

structure Related.IsNested (related : Related) : Prop where
  rows : related.rows.IsNested
  order : ∀ term ∈ related.order, term.IsNested

namespace Related

variable {related : Related} (nested : related.IsNested)

include nested

theorem IsNested.listing {column : Fragment} (more : column.IsNested) :
    (related.listing column).IsNested :=
  nested.rows.column more

theorem IsNested.first {column : Fragment} (more : column.IsNested) :
    (related.first column).IsSealed := by
  refine Fragment.IsNested.parenthesized (Select.IsNested.subquery ?_)
  refine { nested.listing more with order := nested.order, limit := ?_ }
  exact List.forall_mem_singleton.2 (.words (by decide) Fragment.isNested_nil)

theorem IsNested.count : related.count.IsSealed :=
  (nested.listing (isSealed_apply (.words (by decide) Fragment.isNested_nil)
    (by decide)).isNested).subquery.parenthesized

theorem IsNested.some {condition : Fragment} (more : condition.IsNested) :
    (related.some condition).IsSealed :=
  isSealed_existing
    ((nested.listing (.words (by decide) Fragment.isNested_nil)).restrict more)

end Related

def Value.IsSealed : Value → Prop
  | .scalar fragment => fragment.IsSealed
  | .literals items => ∀ item ∈ items, item.IsSealed
  | .rows related column => related.IsNested ∧ column.IsSealed

theorem isSealed_nothing : nothing.IsSealed :=
  Fragment.isSealed_words (by decide)

theorem isSealed_membership {item : Fragment} (single : item.IsSealed) {list : Value}
    (whole : list.IsSealed) : (membership item list).IsSealed := by
  cases list with
  | scalar value => exact single.between whole (by decide)
  | rows related column => exact isSealed_within single (whole.1.listing whole.2.isNested)
  | literals items =>
      cases items with
      | nil => exact Fragment.isSealed_words (by decide)
      | cons first rest =>
          refine single.between (Fragment.IsNested.parenthesized ?_) (by decide)
          exact Fragment.isNested_commaList fun item member => (whole item member).isNested

theorem isSealed_commonMember {left right : Value} (first : left.IsSealed)
    (second : right.IsSealed) : (commonMember left right).IsSealed := by
  unfold commonMember
  split
  · exact first.1.some (isSealed_membership first.2 second).isNested
  · exact second.1.some (isSealed_membership second.2 first).isNested
  · exact Fragment.isSealed_words (by decide)
  · refine Fragment.IsNested.parenthesized (Fragment.isNested_disjunction ?_)
    intro test member
    obtain ⟨item, within, rfl⟩ := List.mem_map.1 member
    exact (isSealed_membership (first item within) second).isNested
  · exact isSealed_membership first second

theorem isSealed_regexp (pattern : String) {value : Fragment} (whole : value.IsSealed) :
    Fragment.IsSealed (value ++ [.words " REGEXP ", .bound (.text pattern)]) :=
  whole.between (Fragment.isSealed_bound _) (by decide)

theorem isSealed_matching (pattern : String) (negated : Bool) {value : Value}
    (whole : value.IsSealed) : (matching pattern negated value).IsSealed := by
  have perhapsNot {found : Fragment} (whole : found.IsSealed) :
      Fragment.IsSealed (if negated then .not :: found else found) := by
    split
    · exact whole.not
    · exact whole
  cases value with
  | scalar value =>
      cases negated with
      | true => exact whole.between (Fragment.isSealed_bound _) (by decide)
      | false => exact isSealed_regexp pattern whole
  | rows related column =>
      exact perhapsNot (whole.1.some (isSealed_regexp pattern whole.2).isNested)
  | literals items =>
      refine perhapsNot (Fragment.IsNested.parenthesized (Fragment.isNested_disjunction ?_))
      intro test member
      obtain ⟨item, within, rfl⟩ := List.mem_map.1 member
      exact (isSealed_regexp pattern (whole item within)).isNested

theorem isSealed_size {value : Value} (whole : value.IsSealed) : (size value).IsSealed := by
  cases value with
  | scalar fragment => exact isSealed_apply whole.isNested (by decide)
  | literals items => exact isSealed_natural _
  | rows related column => exact whole.1.count

end Filter

end CorpusQuery
