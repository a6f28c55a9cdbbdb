import CorpusQuery.Proofs.Search.Bindings
import CorpusQuery.Proofs.Search.Sealing

namespace CorpusQuery

/-! What the filters of a search add to its statement, and that they change nothing
else of it. -/

open Sql

theorem Access.visible_restriction (access : Access) (graph : Fragment) :
    (access.restriction graph).isBlank = false := by
  cases access <;> exact Fragment.isBlank_cons_of_visible (by decide) _

namespace Search

/-! ### Filters -/

inductive Restriction where
  | transcripts (filter : Fragment)
  | participants (filter : Fragment)
  | mainParticipants
  | access (access : Access)

/-- The conjunct of a filter, for the expressions of a match's graph and speaker. -/
def Restriction.conjunct (graph : Fragment) (speaker : Option Fragment) : Restriction → Fragment
  | .transcripts filter => Options.transcriptCondition graph filter
  | .participants filter => Options.participantCondition graph speaker filter
  | .mainParticipants => [.column "main_participant" "main_speaker", .words " <> 0"]
  | .access given => given.restriction graph

theorem Restriction.visible_conjunct (restriction : Restriction) (graph : Fragment)
    (speaker : Option Fragment) : (restriction.conjunct graph speaker).isBlank = false := by
  have behind (item rest : Fragment) : (item ++ .words " IN " :: rest).isBlank = false := by
    rw [Fragment.isBlank_append, Fragment.isBlank_cons_of_visible (by decide), Bool.and_false]
  cases restriction with
  | transcripts filter => exact behind _ _
  | participants filter => cases speaker <;> exact behind _ _
  | mainParticipants => exact Fragment.isBlank_cons_of_visible (by decide) _
  | access given => exact given.visible_restriction graph

namespace Options

/-- The filters that are set, in the order of their conjuncts. -/
def restrictions (options : Options) : List Restriction :=
  options.transcripts.toList.map .transcripts ++
  options.participants.toList.map .participants ++
  (if options.mainParticipantOnly then [.mainParticipants] else []) ++
  options.access.toList.map .access

/-- The options without any filter. -/
def unfiltered (options : Options) : Options :=
  { searchId := options.searchId, minConfidence := options.minConfidence }

variable {options : Options} {graph : Fragment} {speaker : Option Fragment}

theorem conditions_eq :
    options.conditions graph speaker =
      options.restrictions.map (Restriction.conjunct graph speaker) := by
  unfold conditions restrictions
  cases options.mainParticipantOnly <;>
    simp [Restriction.conjunct, Function.comp_def]

theorem restrict_unfiltered (select : Select) :
    options.unfiltered.restrict graph speaker select = select := by
  simp [restrict, unfiltered, joins, conditions]

end Options

/-- What is recorded of each match in a column of the table of matches. -/
def recorded (statement : Select) (column : String) : Option Fragment :=
  (resultColumns.zip statement.columns).lookup column

/-- The statement differs from the base in what the filters add to it, and in nothing
else. -/
structure Filtered (options : Options) (graph : Fragment) (speaker : Option Fragment)
    (base statement : Select) : Prop where
  others : { statement with joins := base.joins, conditions := base.conditions } = base
  conditions : statement.conditions =
    base.conditions ++ options.restrictions.map (Restriction.conjunct graph speaker)
  visible : ∀ restriction ∈ options.restrictions,
    (restriction.conjunct graph speaker).isBlank = false
  /-- Only the filter for main participants joins a row, and binds no value to do so. -/
  joins : ∃ added, statement.joins = base.joins ++ added ∧
    (options.mainParticipantOnly = false → added = []) ∧
    (options.mainParticipantOnly = true → ∃ join, added = [join] ∧ join.render.params = [])
  ofGraph : recorded statement "ag_id" = some graph
  ofSpeaker : recorded statement "speaker_number" = some (speaker.getD [.words "NULL"])
  last : ∀ access, options.access = some access →
    statement.conditions.getLast? = some (access.restriction graph)

namespace Options

variable {options : Options} {graph : Fragment} {speaker : Option Fragment}

/-- Restrictions to what someone may see come last. -/
theorem getLast?_conditions {access : Access} (restricted : options.access = some access)
    (before : List Fragment) :
    (before ++ options.conditions graph speaker).getLast? = some (access.restriction graph) := by
  simp [conditions, restricted, ← List.append_assoc]

theorem joins_cases (bare : graph.params = [])
    (bareSpeaker : ∀ fragment ∈ speaker, fragment.params = []) :
    (options.mainParticipantOnly = false → options.joins graph speaker = []) ∧
      (options.mainParticipantOnly = true →
        ∃ join, options.joins graph speaker = [join] ∧ join.render.params = []) := by
  have unbound := params_joins bare bareSpeaker options
  refine ⟨fun all => by simp [joins, all], fun only => ⟨mainParticipantJoin graph speaker, ?_, ?_⟩⟩
  · simp [joins, only]
  · simpa [joins, only] using unbound

end Options

/-- Whatever the plan, its filters are added to it alike. -/
theorem Plan.filtered (plan : Plan) (options : Options) :
    Filtered options [plan.result.graph.piece] plan.result.speaker?
      (plan.restricted options.unfiltered) (plan.restricted options) := by
  have bareSpeaker : ∀ fragment ∈ plan.result.speaker?, fragment.params = [] := by
    intro fragment known
    obtain ⟨placing, -, rfl⟩ := Option.map_eq_some_iff.1 known
    rfl
  have base : plan.restricted options.unfiltered = plan.select options.searchId :=
    Options.restrict_unfiltered _
  rw [base]
  constructor
  case others => rfl
  case conditions => exact congrArg (_ ++ ·) Options.conditions_eq
  case visible => exact fun restriction _ => restriction.visible_conjunct _ _
  case joins => exact ⟨_, rfl, Options.joins_cases rfl bareSpeaker⟩
  case ofGraph => rfl
  case ofSpeaker => rfl
  case last => exact fun access restricted => Options.getLast?_conditions restricted _

/-- A search without filters is planned alike, and each filter is added to its statement
once.  No condition shows an `OR` if none of the caller's fragments ends a parenthesis
or a literal that it did not begin. -/
theorem select_filtered {schema : Schema} {linked : String → Bool} {options : Options}
    {matrix : Matrix} {statement : Select}
    (selected : matrix.select schema linked options = .ok statement) :
    ∃ columns plan base,
      matrix.resolve schema = .ok columns ∧
      planOf schema linked options.minConfidence columns
        (ResolvedColumn.strategy schema linked columns) = .ok plan ∧
      statement = plan.restricted options ∧
      matrix.select schema linked options.unfiltered = .ok base ∧
      Filtered options [plan.result.graph.piece] plan.result.speaker? base statement ∧
      (options.IsNested → statement.IsSealed) := by
  obtain ⟨columns, plan, resolved, planned, rfl⟩ := Matrix.plan_of_select selected
  exact ⟨columns, plan, plan.restricted options.unfiltered, resolved, planned, rfl,
    Matrix.select_of_plan resolved planned, plan.filtered options,
    fun given => Plan.isSealed_restricted (isPlain_planOf planned) given⟩

/-! ### All filters at once -/

namespace AroundWords

/-- A parenthesis and an `OR` stand in a literal, and an `OR` in no parentheses of its own. -/
def confined : Options :=
  { options with
    participants := some
      [.given "SELECT speaker_number FROM speaker WHERE name = ') OR (' OR age > ?" [.integer 30]] }

theorem isNested_confined : confined.IsNested where
  transcripts := by decide +kernel
  participants := by decide +kernel
  access _ same := nomatch same

end AroundWords

theorem aroundWords_filtered : ∃ statement base : Select,
    AroundWords.matrix.select AroundWords.schema AroundWords.linked AroundWords.confined =
      .ok statement ∧
    AroundWords.matrix.select AroundWords.schema AroundWords.linked
      { searchId := 9, minConfidence := some 50 } = .ok base ∧
    (∃ graph speaker, Filtered AroundWords.confined graph speaker base statement) ∧
    statement.conditions.length = base.conditions.length + 4 ∧
    statement.joins.length = base.joins.length + 1 ∧
    statement.IsSealed := by
  obtain ⟨columns, plan, base, -, -, -, alone, filtered, whole⟩ := @select_filtered
    AroundWords.schema AroundWords.linked AroundWords.confined AroundWords.matrix _ rfl
  obtain ⟨added, behind, -, only⟩ := filtered.joins
  obtain ⟨join, rfl, -⟩ := only rfl
  refine ⟨_, base, rfl, alone, ⟨_, _, filtered⟩, ?_, ?_, whole AroundWords.isNested_confined⟩
  · rw [filtered.conditions, List.length_append, List.length_map]
    rfl
  · rw [behind, List.length_append]
    rfl

end Search

end CorpusQuery
