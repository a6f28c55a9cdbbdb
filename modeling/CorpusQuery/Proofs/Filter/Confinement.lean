import CorpusQuery.Proofs.Filter.References
import CorpusQuery.Proofs.Schema.Construction

namespace CorpusQuery.Filter

/-! No expression gets around the restriction to the transcripts that someone may
see: it is the last conjunct of every statement, and no conjunct shows an `OR`. -/

open Sql

namespace Scene

variable {scene : Scene}

/-! ### Predicates -/

theorem isSealed_numbered {text : List Char} (spaced : Fragment.Spaced text)
    (numbers : List Int64) :
    Fragment.IsSealed ([.column "annotation" "annotation_id", .words (String.ofList text)] ++
      Fragment.parenthesized (numberList numbers)) := by
  have listed : (numberList numbers).IsNested := by
    refine Fragment.isNested_commaList fun item member => ?_
    obtain ⟨number, -, rfl⟩ := List.mem_map.1 member
    exact (isSealed_integer number).isNested
  have whole : Fragment.IsSealed ([.column "annotation" "annotation_id"] ++
      .words (String.ofList text) :: Fragment.parenthesized (numberList numbers)) :=
    (Fragment.isSealed_column (by decide)).between listed.parenthesized spaced
  exact whole

theorem isSealed_isOneOf (storage : Storage) (layer : String) (uids : List String)
    (negated : Bool) : (isOneOf storage layer uids negated).value.IsSealed := by
  unfold isOneOf
  simp only
  split
  · cases negated <;> exact Fragment.isSealed_words (by decide)
  · rename_i number _
    cases negated with
    | true => exact (Fragment.isSealed_column (by decide)).between (isSealed_integer number) (by decide)
    | false => exact (Fragment.isSealed_column (by decide)).between (isSealed_integer number) (by decide)
  · cases negated with
    | true => exact isSealed_numbered (by decide) _
    | false => exact isSealed_numbered (by decide) _

theorem isSealed_isOfLayer (id : String) (negated : Bool) :
    (scene.isOfLayer id negated).value.IsSealed := by
  have compared (subject : String) : Fragment.IsSealed
      [.marker subject, .words (if negated then " <> " else " = "), .marker id] := by
    cases negated with
    | true => exact (Fragment.isSealed_marker subject).between (Fragment.isSealed_marker id) (by decide)
    | false => exact (Fragment.isSealed_marker subject).between (Fragment.isSealed_marker id) (by decide)
  by_cases missing : (scene.schema.layer? id).isNone <;>
    cases known : scene.target.layerId? with
    | none => simpa [isOfLayer, missing, known] using isSealed_nothing
    | some subject => simpa [isOfLayer, missing, known] using compared subject

theorem isSealed_isChildOf (subject uid : String) (negated : Bool) :
    (scene.isChildOf subject uid negated).value.IsSealed := by
  unfold isChildOf
  simp only
  split
  · rename_i read _
    cases negated with
    | true => exact (Fragment.isSealed_column (by decide)).between (isSealed_integer _) (by decide)
    | false => exact (Fragment.isSealed_column (by decide)).between (isSealed_integer _) (by decide)
  · exact isSealed_nothing

theorem isSealed_plainCompare (left : Operand) (op : Comparison) (right : Operand) :
    (scene.plainCompare left op right).value.IsSealed := by
  simp only [plainCompare, Noted.value_bind, Noted.value_pure]
  cases op <;> exact (isSealed_scalar left).between (isSealed_scalar right) (by decide)

theorem isSealed_nullTest (operand : Operand) (negated : Bool) :
    (scene.nullTest operand negated).value.IsSealed := by
  simp only [nullTest, Noted.value_bind, Noted.value_pure]
  cases negated with
  | true => exact (isSealed_scalar operand).followed (by decide)
  | false => exact (isSealed_scalar operand).followed (by decide)

theorem isSealed_compare (left : Operand) (op : Comparison) (right : Operand) :
    (scene.compare left op right).value.IsSealed := by
  unfold compare
  split
  · simp only
    split
    · exact isSealed_isOfLayer ..
    · exact isSealed_isOneOf ..
    · exact isSealed_isOneOf ..
    · exact isSealed_isChildOf ..
    · split
      · exact isSealed_nullTest ..
      · exact isSealed_plainCompare ..
  · exact isSealed_plainCompare ..

theorem isSealed_test (pattern : String) (operand : Operand) (negated : Bool) :
    (scene.test pattern operand negated).value.IsSealed := by
  simp only [test, Noted.value_bind, Noted.value_pure]
  exact isSealed_matching pattern negated (isSealed_value operand)

theorem isSealed_plainIncludes (list item : Operand) :
    (scene.plainIncludes list item).value.IsSealed := by
  have single : (scene.scalar item).value.IsSealed := isSealed_scalar item
  have whole : (scene.value list).value.IsSealed := isSealed_value list
  simp only [plainIncludes, Noted.value_bind]
  split
  · rename_i text isText
    rw [isText] at whole
    refine Fragment.IsSealed.followed (isSealed_apply ?_ (by decide)) (by decide)
    exact whole.isNested.append (.words (by decide) single.isNested)
  · exact isSealed_membership single whole

theorem isSealed_includes (list item : Operand) : (scene.includes list item).value.IsSealed := by
  unfold includes
  split
  · exact isSealed_isOneOf ..
  · exact isSealed_plainIncludes ..

theorem isSealed_includesAny (list items : Operand) :
    (scene.includesAny list items).value.IsSealed := by
  simp only [includesAny, Noted.value_bind, Noted.value_pure]
  exact isSealed_commonMember (isSealed_value list) (isSealed_value items)

/-! ### Expressions -/

mutual

theorem isSealed_condition : ∀ expression : Expression,
    (scene.condition expression).value.fragment.IsSealed
  | .or items => by
      rw [condition, Noted.value_bind, Noted.value_pure, Condition.fragment]
      refine Fragment.IsNested.parenthesized (Fragment.isNested_disjunction fun part member => ?_)
      exact (isSealed_conditions items part member).isNested
  | .and items => by
      rw [condition, Noted.value_bind, Noted.value_pure, Condition.fragment]
      exact Fragment.isSealed_conjunction (isSealed_conditions items)
  | .not inner => by
      have whole := isSealed_condition inner
      cases inner with
      | test pattern operand =>
          simpa only [condition, Noted.value_bind, Noted.value_pure, Condition.fragment] using
            isSealed_test pattern operand true
      | _ =>
          simp only [condition, Noted.value_bind, Noted.value_pure, Condition.fragment] at whole ⊢
          exact whole.isNested.parenthesized.not
  | .compare left op right => by
      simpa only [condition, Noted.value_bind, Noted.value_pure, Condition.fragment] using
        isSealed_compare left op right
  | .test pattern operand => by
      simpa only [condition, Noted.value_bind, Noted.value_pure, Condition.fragment] using
        isSealed_test pattern operand false
  | .includes list item => by
      simpa only [condition, Noted.value_bind, Noted.value_pure, Condition.fragment] using
        isSealed_includes list item
  | .includesAny list items => by
      simpa only [condition, Noted.value_bind, Noted.value_pure, Condition.fragment] using
        isSealed_includesAny list items

theorem isSealed_conditions : ∀ items : List Expression,
    ∀ fragment ∈ Condition.fragments (scene.conditions items).value, fragment.IsSealed
  | [] => by simp [conditions, Condition.fragments]
  | item :: items => by
      rw [conditions, Noted.value_bind, Noted.value_bind, Noted.value_pure, Condition.fragments]
      exact List.forall_mem_cons.2 ⟨isSealed_condition item, isSealed_conditions items⟩

end

end Scene

/-! ### Statements -/

theorem Target.conditions_select (schema : Schema) (target : Target) (options : Target.Options)
    (condition : Noted Fragment) :
    (target.select schema options condition).conditions =
        (target.own ++ [condition.value] ++ options.extra.toList.map Fragment.parenthesized ++
          options.access.toList.map (target.accessCondition schema)).filter (!·.isBlank) ∧
      (target.select schema options condition).source = target.row.2 := by
  unfold select
  simp only [Select.foldl_restrict, List.nil_append, and_self]

/-- The restriction for a row that has a speaker, but may stand for many graphs. -/
def speakerRestriction (row : String) (access : Access) : Fragment :=
  existing
    { columns := [[.words "*"]]
      source := relation "transcript_speaker" "access_speaker"
      conditions :=
        [equalColumns ("access_speaker", "speaker_number") (row, "speaker_number"),
          access.restriction [.column "access_speaker" "ag_id"]] }

theorem isSealed_speakerRestriction {row : List Char}
    (plain : Sealed (row ++ '.' :: "speaker_number".toList)) {access : Access}
    (given : ∀ fragment, access = .condition fragment → fragment.IsNested) :
    (speakerRestriction (String.ofList row) access).IsSealed := by
  refine isSealed_existing (Select.isNested_rows ?_ ?_ (by simp) ?_)
  · exact List.forall_mem_singleton.2 (.words (by decide) Fragment.isNested_nil)
  · exact isNested_relation (by decide) (by decide)
  · refine List.forall_mem_cons.2 ⟨?_, List.forall_mem_singleton.2 ?_⟩
    · have named : "speaker_number" = String.ofList "speaker_number".toList :=
        String.ofList_toList.symm
      rw [named]
      exact (Fragment.isSealed_compareColumns (by decide) plain (by decide)).isNested
    · exact (Access.isSealed_restriction (.column (by decide) Fragment.isNested_nil) given).isNested

namespace Target

/-- What confines the rows of a target: a caller's condition as it is, or else the
restriction of the row's own graph, or of those that its speaker speaks in. -/
def restriction (target : Target) (access : Access) : Fragment :=
  match access with
  | .condition fragment => fragment.parenthesized
  | .user _ =>
      if target.graph?.isSome then access.restriction [.column target.row.1 "ag_id"]
      else speakerRestriction target.row.1 access

/-- Only a target that is a problem would be restricted to no graph at all. -/
theorem accessCondition_eq_restriction {target : Target} (known : target ≠ .unresolved)
    (schema : Schema) (access : Access) :
    target.accessCondition schema access = target.restriction access := by
  cases access with
  | condition fragment => rfl
  | user id =>
      cases target with
      | intervals layer scope table => rfl
      | attributed layer owner name => cases owner <;> rfl
      | participants layer mainOnly => rfl
      | transcripts => rfl
      | unresolved => contradiction

theorem visible_restriction (target : Target) (access : Access) :
    (target.restriction access).isBlank = false := by
  have opened (inner : Fragment) : inner.parenthesized.isBlank = false :=
    Fragment.isBlank_cons_of_visible (by decide) _
  cases access with
  | condition fragment => exact opened fragment
  | user id =>
      unfold restriction
      simp only
      split
      · exact opened _
      · exact Fragment.isBlank_cons_of_visible (by decide) _

theorem isSealed_restriction (target : Target) {access : Access}
    (given : ∀ fragment, access = .condition fragment → fragment.IsNested) :
    (target.restriction access).IsSealed := by
  have ofRow {row : List Char} (plain : Nested (row ++ '.' :: ['a', 'g', '_', 'i', 'd'])) :
      (access.restriction [.column (String.ofList row) "ag_id"]).IsSealed :=
    Access.isSealed_restriction (.column plain Fragment.isNested_nil) given
  cases access with
  | condition fragment => exact (given fragment rfl).parenthesized
  | user id =>
      cases target with
      | intervals layer scope table => exact ofRow (by decide)
      | attributed layer owner name =>
          cases owner with
          | transcript => exact ofRow (by decide)
          | participant => exact isSealed_speakerRestriction (by decide) given
      | participants layer mainOnly => exact isSealed_speakerRestriction (by decide) given
      | transcripts => exact ofRow (by decide)
      | unresolved => exact isSealed_speakerRestriction (by decide) given

theorem problems_of_unresolved {schema : Schema} {subject : Subject}
    (unknown : (resolve schema subject).value = .unresolved) :
    (resolve schema subject).problems ≠ [] := by
  cases subject with
  | layer id =>
      revert unknown
      change (resolveLayer schema id).value = _ → (resolveLayer schema id).problems ≠ []
      unfold resolveLayer
      split <;> simp [Noted.problem]
  | participants => contradiction
  | transcripts => contradiction

end Target

/-- Every statement ends in the restriction of its own rows.  No conjunct opens or
closes a parenthesis for another or shows an `OR`, nor do all of them together. -/
theorem select_confined {schema : Schema} {subject : Subject} {options : Target.Options}
    {expression : Expression} {access : Access} {statement : Select}
    (selected : select schema subject options expression = .ok statement)
    (restricted : options.access = some access)
    (extraNested : ∀ fragment, options.extra = some fragment → fragment.IsNested)
    (accessNested : ∀ fragment, access = .condition fragment → fragment.IsNested) :
    ∃ target before, (Target.resolve schema subject).value = target ∧ target ≠ .unresolved ∧
      statement.source = target.row.2 ∧
      statement.conditions = before ++ [target.restriction access] ∧
      (∀ condition ∈ statement.conditions, condition.IsSealed) ∧
      (Fragment.join [.words "\n", .and] statement.conditions).IsSealed := by
  let target := (Target.resolve schema subject).value
  let condition := (Scene.condition ⟨schema, target⟩ expression).value.fragment
  let others := target.own ++ [condition] ++ options.extra.toList.map Fragment.parenthesized
  obtain ⟨noProblems, rfl⟩ := acceptWithout_eq_ok.1 selected
  have known : target ≠ .unresolved := fun unknown =>
    Target.problems_of_unresolved unknown (List.append_eq_nil_iff.1 noProblems).1
  have last : options.access.toList.map (target.accessCondition schema) =
      [target.restriction access] := by
    rw [restricted]
    exact congrArg (fun final => [final]) (Target.accessCondition_eq_restriction known schema access)
  have all : ∀ conjunct ∈ others ++ [target.restriction access], conjunct.IsSealed := by
    refine List.forall_mem_append.2 ⟨List.forall_mem_append.2 ⟨List.forall_mem_append.2
      ⟨target.isSealed_own, ?_⟩, ?_⟩, ?_⟩
    · exact List.forall_mem_singleton.2 (Scene.isSealed_condition expression)
    · intro conjunct member
      obtain ⟨extra, given, rfl⟩ := List.mem_map.1 member
      exact (extraNested extra (Option.mem_toList.1 given)).parenthesized
    · exact List.forall_mem_singleton.2 (target.isSealed_restriction accessNested)
  obtain ⟨conjuncts, source⟩ := target.conditions_select schema options
    { examine schema subject expression with value := condition }
  rw [last] at conjuncts
  have kept : ∀ conjunct ∈ (others ++ [target.restriction access]).filter (!·.isBlank),
      conjunct.IsSealed := fun conjunct member => all conjunct (List.mem_filter.1 member).1
  have ends : (others ++ [target.restriction access]).filter (!·.isBlank) =
      others.filter (!·.isBlank) ++ [target.restriction access] := by
    rw [List.filter_append, List.filter_cons_of_pos (by simp [target.visible_restriction access]),
      List.filter_nil]
  refine ⟨target, _, rfl, known, source, conjuncts.trans ends, ?_, ?_⟩
  · exact fun conjunct member => kept conjunct (conjuncts ▸ member)
  · exact Fragment.isSealed_join (show Fragment.Spaced ['\n', 'A', 'N', 'D', ' '] by decide)
      (by decide) fun conjunct member => kept conjunct (conjuncts ▸ member)

/-! ### A layer whose id would open a parenthesis and a literal -/

namespace OddLayer

def schema : Schema :=
  .ofEntries [⟨{ Layer.ofId "o'clock (OR" with tableId := some 3 }, .temporal .span 3⟩] {}

def options : Target.Options :=
  { access := some (.user "anna"), extra := some [.words "annotation.ordinal = 1"] }

def expression : Expression :=
  .or [.compare (.own .layerId) .eq (.text "o'clock (OR"), .test "a" (.own .label)]

end OddLayer

theorem oddLayer_confined :
    ∃ statement target before,
      select OddLayer.schema (.layer "o'clock (OR") OddLayer.options OddLayer.expression =
          .ok statement ∧
        statement.conditions = before ++ [Target.restriction target (.user "anna")] ∧
        ∀ condition ∈ statement.conditions, condition.IsSealed := by
  have accepted : ∃ statement, select OddLayer.schema (.layer "o'clock (OR") OddLayer.options
      OddLayer.expression = .ok statement := by
    have clean : (examine OddLayer.schema (.layer "o'clock (OR") OddLayer.expression).problems = [] :=
      by decide +kernel
    unfold select
    exact ⟨_, acceptWithout_eq_ok.2 ⟨clean, rfl⟩⟩
  obtain ⟨statement, selected⟩ := accepted
  obtain ⟨target, before, _, _, _, last, all, _⟩ := select_confined selected rfl
    (fun fragment given => by cases given; decide) (fun fragment given => by contradiction)
  exact ⟨statement, target, before, selected, last, all⟩

end CorpusQuery.Filter
