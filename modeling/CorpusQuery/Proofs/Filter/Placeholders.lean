import CorpusQuery.Proofs.Filter.Confinement
import CorpusQuery.Proofs.Sql.Placeholders

namespace CorpusQuery

/-! Each value that an expression binds stands in the place of its own placeholder,
in whatever order operands are written. -/

open Sql

/-! ### Restrictions -/

namespace Access

/-- Of an access only a condition of the caller's can fail to be aligned. -/
def IsAligned : Access → Prop
  | .condition fragment => fragment.IsAligned
  | .user _ => True

theorem isAligned_permitted {permission : List Fragment} {join : Join} {ofUser ofGraph : Fragment}
    (permits : ∀ condition ∈ permission, condition.IsAligned) (joined : join.IsAligned)
    (user : ofUser.IsAligned) (graph : ofGraph.IsAligned) :
    ((((roles permission).join join).restrict ofUser).restrict ofGraph).IsAligned := by
  refine ((Select.IsAligned.join ?_ joined).restrict user).restrict graph
  refine Select.isAligned_rows (by simp +decide) (by simp +decide) ?_ (by simp)
  refine List.forall_mem_singleton.2 (Join.isAligned_inner (by simp +decide) (by decide) ?_)
  simpa +decide [or_imp, forall_and] using permits

theorem isAligned_restriction {access : Access} (aligned : access.IsAligned) {graph : Fragment}
    (known : graph.IsAligned) : (access.restriction graph).IsAligned := by
  cases access with
  | condition fragment => exact Fragment.isAligned_parenthesized.2 aligned
  | user id =>
      have attributes : (byAttribute id graph).IsAligned := by
        unfold byAttribute
        simp only [Fragment.isAligned_cons, Fragment.isAligned_parenthesized]
        refine ⟨by simp +decide, (isAligned_permitted ?_ ?_ ?_ ?_).subquery⟩ <;>
          simp +decide [known]
      have corpora : (byCorpus id graph).IsAligned := by
        unfold byCorpus
        simp only [Fragment.isAligned_cons, Fragment.isAligned_parenthesized]
        refine ⟨by simp +decide, (isAligned_permitted ?_ ?_ ?_ ?_).subquery⟩ <;>
          simp +decide [known]
      simp [restriction, attributes, corpora]

end Access

@[simp] theorem isAligned_turnSpeaker : turnSpeaker.IsAligned := by
  decide

@[simp] theorem isAligned_uidFrom (stem : String) {number : Fragment}
    (aligned : number.IsAligned) : (uidFrom stem number).IsAligned := by
  simp +decide [uidFrom, aligned]

namespace Filter

/-! ### Targets -/

namespace Target

theorem isAligned_graph? {target : Target} {graph : Fragment} (found : target.graph? = some graph) :
    graph.IsAligned := by
  unfold graph? at found
  split at found <;> cases found <;> decide

theorem isSilent_turnTable? {schema : Schema} {table : String}
    (found : turnTable? schema = some table) : IsSilent table := by
  obtain ⟨entry, -, stored⟩ := Option.bind_eq_some_iff.1 found
  obtain ⟨number, -, rfl⟩ := Option.map_eq_some_iff.1 stored
  exact isSilent_layerTable number

theorem isAligned_speaker? {schema : Schema} {target : Target} {speaker : Fragment}
    (found : target.speaker? schema = some speaker) : speaker.IsAligned := by
  unfold speaker? at found
  split at found
  · cases found
    decide
  · cases found
    decide
  · split at found
    · obtain ⟨table, known, rfl⟩ := Option.map_eq_some_iff.1 found
      have silent := isSilent_turnTable? known
      refine Fragment.isAligned_parenthesized.2 (Select.isAligned_rows ?_ ?_ ?_ ?_).subquery <;>
        simp +decide [silent]
    · contradiction
  · contradiction

theorem isAligned_own (target : Target) : ∀ condition ∈ target.own, condition.IsAligned := by
  unfold own
  split
  · simp +decide
  · refine List.forall_mem_singleton.2 (isAligned_existing (Select.isAligned_rows ?_ ?_ ?_ ?_)) <;>
      simp +decide
  · simp

theorem isAligned_row (target : Target) : IsSilent target.row.1 ∧ target.row.2.IsAligned := by
  cases target with
  | attributed layer owner name => cases owner <;> simp +decide [row]
  | _ => simp +decide [row]

theorem isAligned_standardOrder (target : Target) :
    ∀ term ∈ target.standardOrder, term.IsAligned := by
  unfold standardOrder
  split <;> decide

theorem isAligned_accessCondition (schema : Schema) (target : Target) {access : Access}
    (aligned : access.IsAligned) : (target.accessCondition schema access).IsAligned := by
  unfold accessCondition
  split
  · exact Access.isAligned_restriction aligned Fragment.isAligned_nil
  · split
    · rename_i known
      exact Access.isAligned_restriction aligned (isAligned_graph? known)
    · rename_i speaker _ known
      have graph : Fragment.IsAligned [.column "access_speaker" "ag_id"] := by decide
      have restricted := Access.isAligned_restriction aligned graph
      refine isAligned_existing (Select.isAligned_rows ?_ ?_ ?_ ?_) <;>
        simp +decide [restricted, isAligned_speaker? known]
    · exact Access.isAligned_restriction aligned (by decide)

/-- All fragments of the caller's have closed quotes and a placeholder for each value. -/
structure Options.IsAligned (options : Options) : Prop where
  select : ∀ columns ∈ options.select, Fragment.IsAligned columns
  access : ∀ access ∈ options.access, Access.IsAligned access
  extra : ∀ condition ∈ options.extra, Fragment.IsAligned condition
  order : ∀ terms, options.order = .after terms → ∀ term ∈ terms, term.IsAligned
  limit : ∀ count ∈ options.limit, Fragment.IsAligned count

theorem isAligned_orderTerms (target : Target) {order : RowOrder}
    (given : ∀ terms, order = .after terms → ∀ term ∈ terms, term.IsAligned) :
    ∀ term ∈ target.orderTerms order, term.IsAligned := by
  cases order with
  | standard => exact target.isAligned_standardOrder
  | after terms => exact List.forall_mem_append.2 ⟨given terms rfl, target.isAligned_standardOrder⟩
  | unordered => simp [orderTerms]

theorem isAligned_anchorJoins : ∀ join ∈ anchorJoins, join.IsAligned := by
  simp +decide [anchorJoins]

theorem isAligned_transcriptJoin : transcriptJoin.IsAligned :=
  Join.isAligned_inner (by decide) (by decide) (by decide)

theorem isAligned_select (schema : Schema) (target : Target) {options : Options}
    (given : options.IsAligned) {condition : Noted Fragment}
    (aligned : condition.value.IsAligned) :
    (target.select schema options condition).IsAligned := by
  obtain ⟨silent, source⟩ := target.isAligned_row
  refine Select.IsAligned.foldl_restrict ?_
    { into := by simp
      columns := List.forall_mem_cons.2 ⟨?_, ?_⟩
      source
      joins := List.forall_mem_append.2 ⟨?_, ?_⟩
      conditions := by simp
      order := target.isAligned_orderTerms given.order
      limit := given.limit }
  · refine List.forall_mem_append.2 ⟨List.forall_mem_append.2 ⟨List.forall_mem_append.2
      ⟨target.isAligned_own, List.forall_mem_singleton.2 aligned⟩, ?_⟩, ?_⟩
    · simpa using given.extra
    · simpa using fun access known =>
        target.isAligned_accessCondition schema (given.access access known)
  · cases chosen : options.select with
    | none => exact List.forall_mem_singleton.2 (Piece.isAligned_column silent (by decide))
    | some columns => exact given.select columns chosen
  · simp +decide
  · split
    · exact isAligned_anchorJoins
    · simp
  · split
    · simpa using isAligned_transcriptJoin
    · simp

end Target

/-! ### Values -/

structure Related.IsAligned (related : Related) : Prop where
  rows : related.rows.IsAligned
  order : ∀ term ∈ related.order, term.IsAligned

namespace Related

variable {related : Related} (aligned : related.IsAligned)

include aligned

theorem IsAligned.listing {column : Fragment} (more : column.IsAligned) :
    (related.listing column).IsAligned :=
  aligned.rows.column more

theorem IsAligned.first {column : Fragment} (more : column.IsAligned) :
    (related.first column).IsAligned := by
  refine Fragment.isAligned_parenthesized.2 (Select.IsAligned.subquery ?_)
  exact { aligned.listing more with order := aligned.order, limit := by simp +decide }

theorem IsAligned.count : related.count.IsAligned :=
  Fragment.isAligned_parenthesized.2 (aligned.listing (by simp +decide)).subquery

theorem IsAligned.some {condition : Fragment} (more : condition.IsAligned) :
    (related.some condition).IsAligned :=
  isAligned_existing ((aligned.listing (by decide)).restrict more)

end Related

def Value.IsAligned : Value → Prop
  | .scalar fragment => fragment.IsAligned
  | .literals items => ∀ item ∈ items, item.IsAligned
  | .rows related column => related.IsAligned ∧ column.IsAligned

@[simp] theorem isAligned_nothing : nothing.IsAligned := by
  decide

/-- The item comes before the list, although it is looked at after it. -/
theorem isAligned_membership {item : Fragment} (single : item.IsAligned) {list : Value}
    (whole : list.IsAligned) : (membership item list).IsAligned := by
  cases list with
  | scalar value =>
      have fragment : value.IsAligned := whole
      simp +decide [membership, single, fragment]
  | rows related column => exact isAligned_within single (whole.1.listing whole.2)
  | literals items =>
      cases items with
      | nil => simp +decide [membership]
      | cons first rest =>
          have listed := Fragment.isAligned_commaList.2 whole
          simp +decide [membership, single, listed]

theorem isAligned_commonMember {left right : Value} (first : left.IsAligned)
    (second : right.IsAligned) : (commonMember left right).IsAligned := by
  unfold commonMember
  split
  · exact first.1.some (isAligned_membership first.2 second)
  · exact second.1.some (isAligned_membership second.2 first)
  · decide
  · refine Fragment.isAligned_parenthesized.2 (Fragment.isAligned_disjunction.2 ?_)
    intro test member
    obtain ⟨item, within, rfl⟩ := List.mem_map.1 member
    exact isAligned_membership (first item within) second
  · exact isAligned_membership first second

theorem isAligned_regexp (pattern : String) {value : Fragment} (whole : value.IsAligned) :
    Fragment.IsAligned (value ++ [.words " REGEXP ", .bound (.text pattern)]) := by
  simp +decide [whole]

theorem isAligned_matching (pattern : String) (negated : Bool) {value : Value}
    (whole : value.IsAligned) : (matching pattern negated value).IsAligned := by
  have perhapsNot {found : Fragment} (whole : found.IsAligned) :
      Fragment.IsAligned (if negated then .not :: found else found) := by
    split <;> simp +decide [whole]
  cases value with
  | scalar value =>
      have fragment : value.IsAligned := whole
      cases negated <;> simp +decide [matching, fragment]
  | rows related column =>
      exact perhapsNot (whole.1.some (isAligned_regexp pattern whole.2))
  | literals items =>
      refine perhapsNot (Fragment.isAligned_parenthesized.2 (Fragment.isAligned_disjunction.2 ?_))
      intro test member
      obtain ⟨item, within, rfl⟩ := List.mem_map.1 member
      exact isAligned_regexp pattern (whole item within)

theorem isAligned_size {value : Value} (whole : value.IsAligned) : (size value).IsAligned := by
  cases value with
  | scalar fragment => exact (isAligned_apply (by decide)).2 whole
  | literals items => simp [size]
  | rows related column => exact whole.1.count

end Filter

end CorpusQuery
