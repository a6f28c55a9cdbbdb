import CorpusQuery.Proofs.Search.Resolution
import CorpusQuery.Proofs.Search.Sources
import CorpusQuery.Proofs.Sql.Sealing

namespace CorpusQuery

/-! All rows of a search and all columns that it refers to have names that are single
words.  So whatever is shown of such columns holds wherever a plan compares them. -/

/-! ### Words -/

namespace Sql

/-- The text has no character but those of words. -/
def IsBare (text : String) : Prop :=
  ∀ c ∈ text.toList, isWordChar c

instance (text : String) : Decidable (IsBare text) :=
  inferInstanceAs (Decidable (∀ c ∈ text.toList, isWordChar c))

@[simp] theorem isBare_append {left right : String} :
    IsBare (left ++ right) ↔ IsBare left ∧ IsBare right := by
  simp [IsBare, or_imp, forall_and]

@[simp] theorem isBare_natural (n : Nat) : IsBare n.repr := by
  intro c member
  simp [isWordChar, Char.isAlphanum, isDigit_of_mem_repr member]

/-- The text is a single word, and a longer one than `OR`. -/
structure IsWord (text : String) : Prop where
  bare : IsBare text
  long : 2 < text.length

instance (text : String) : Decidable (IsWord text) :=
  decidable_of_iff (IsBare text ∧ 2 < text.length)
    ⟨fun word => ⟨word.1, word.2⟩, fun word => ⟨word.bare, word.long⟩⟩

theorem IsWord.append {left right : String} (word : IsWord left) (bare : IsBare right) :
    IsWord (left ++ right) where
  bare := isBare_append.2 ⟨word.bare, bare⟩
  long := by
    rw [String.length_append]
    exact Nat.lt_add_right _ word.long

end Sql

namespace Search

open Sql

theorem Alias.isWord_name (row : Alias) : IsWord row.name := by
  induction row with
  | turn => decide
  | found column place =>
      have search : IsWord "search_" := by decide
      exact ((search.append (isBare_natural column)).append (by decide)).append
        (isBare_natural place)
  | word column => exact IsWord.append (by decide) (isBare_natural column)
  | next column => exact IsWord.append (by decide) (isBare_natural column)
  | previous column => exact IsWord.append (by decide) (isBare_natural column)
  | anchor row edge ih => exact (ih.append (by decide)).append (by cases edge <;> decide)
  | otherWord => decide
  | otherStart => decide

/-! ### Cells and ties -/

def Cell.IsPlain (cell : Cell) : Prop :=
  IsWord cell.column

instance (cell : Cell) : Decidable cell.IsPlain :=
  inferInstanceAs (Decidable (IsWord _))

@[simp] theorem Alias.isPlain_cells (row : Alias) :
    row.id.IsPlain ∧ row.graph.IsPlain ∧ row.label.IsPlain ∧ row.turnId.IsPlain ∧
      row.wordId.IsPlain ∧ row.ordinalInTurn.IsPlain ∧ row.ordinalInWord.IsPlain := by
  simp +decide [Cell.IsPlain, id, graph, label, turnId, wordId, ordinalInTurn, ordinalInWord]

@[simp] theorem Alias.isPlain_edges (row : Alias) (edge : Edge) :
    (row.anchorId edge).IsPlain ∧ (row.offset edge).IsPlain := by
  cases edge <;> simp +decide [Cell.IsPlain, anchorId, offset, Edge.name]

@[simp] theorem Cell.isPlain_anchor (row : Alias) : IsPlain ⟨row, "anchor_id"⟩ := by
  change IsWord "anchor_id"
  decide

@[simp] theorem Alias.isPlain_wordOf (schema : Schema) (layer : TimedLayer) (row : Alias) :
    (row.wordOf schema layer).IsPlain := by
  unfold wordOf
  split <;> simp

namespace Tie

/-- All columns of the tie are single words. -/
def IsPlain : Tie → Prop
  | .compare _ left right => left.IsPlain ∧ right.IsPlain
  | .following left right => left.IsPlain ∧ right.IsPlain
  | .preceding left right => left.IsPlain ∧ right.IsPlain
  | .within _ left right => left.IsPlain ∧ right.IsPlain
  | .trusted .. => True

section

variable {left right : Cell}

@[simp] theorem isPlain_compare {ordering : Ordering} :
    (compare ordering left right).IsPlain ↔ left.IsPlain ∧ right.IsPlain :=
  Iff.rfl

@[simp] theorem isPlain_equal : (equal left right).IsPlain ↔ left.IsPlain ∧ right.IsPlain :=
  Iff.rfl

@[simp] theorem isPlain_following :
    (following left right).IsPlain ↔ left.IsPlain ∧ right.IsPlain :=
  Iff.rfl

@[simp] theorem isPlain_preceding :
    (preceding left right).IsPlain ↔ left.IsPlain ∧ right.IsPlain :=
  Iff.rfl

end

@[simp] theorem isPlain_trusted (anchor : Alias) (threshold : Int64) :
    (trusted anchor threshold).IsPlain :=
  trivial

@[simp] theorem isPlain_adjacent (distance : Nat) (later earlier : Alias) :
    (adjacent distance later earlier).IsPlain := by
  unfold adjacent
  split <;> simp [IsPlain]

end Tie

/-! ### Sources and conditions -/

def Source.IsPlain (source : Source) : Prop :=
  ∀ tie ∈ source.ties, tie.IsPlain

namespace Source

@[simp] theorem isPlain_ofLayer {layer : TimedLayer} {row : Alias} {ties : List Tie} :
    (ofLayer layer row ties).IsPlain ↔ ∀ tie ∈ ties, tie.IsPlain :=
  Iff.rfl

@[simp] theorem isPlain_anchor {confidence : Option Int64} {row : Alias} {edge : Edge}
    {ties : List Tie} (plain : ∀ tie ∈ ties, tie.IsPlain) :
    (anchor confidence row edge ties).IsPlain := by
  have trusted : ∀ tie ∈ confidence.toList.map (Tie.trusted (row.anchor edge)), tie.IsPlain := by
    simp
  exact List.forall_mem_cons.2
    ⟨by simp, List.forall_mem_append.2 ⟨trusted, plain⟩⟩

@[simp] theorem isPlain_thresholdAnchors (confidence : Option Int64) (row : Alias) :
    ∀ source ∈ thresholdAnchors confidence row, source.IsPlain := by
  unfold thresholdAnchors
  split <;> simp

end Source

/-- All columns that the condition compares are single words. -/
def Condition.IsPlain : Condition → Prop
  | .absentOr _ tie => tie.IsPlain
  | .noOtherWord _ ties => ∀ tie ∈ ties, tie.IsPlain
  | .label .. | .first _ | .absent _ => True

@[simp] theorem Condition.isPlain_ofLabel (row : Alias) (wanted : LayerMatch) :
    ∀ condition ∈ ofLabel row wanted, condition.IsPlain := by
  unfold ofLabel
  split <;> simp [IsPlain]

/-! ### Parts and blocks -/

structure Part.IsPlain (part : Part) : Prop where
  sources : ∀ source ∈ part.sources, source.IsPlain
  conditions : ∀ condition ∈ part.conditions, condition.IsPlain

namespace Setting

variable (setting : Setting)

theorem isPlain_wordSources (word : WordRow) {ties : List Tie}
    (plain : ∀ tie ∈ ties, tie.IsPlain) :
    ∀ source ∈ setting.wordSources word ties, source.IsPlain :=
  List.forall_mem_cons.2 ⟨by simpa using plain, Source.isPlain_thresholdAnchors _ _⟩

@[simp] theorem isPlain_nextWord (column : Nat) (word : WordRow) :
    (setting.nextWord column word).IsPlain := by
  simp [nextWord, Source.IsPlain]

@[simp] theorem isPlain_previousWord (column : Nat) (word : WordRow) :
    (setting.previousWord column word).IsPlain := by
  simp [previousWord, Source.IsPlain]

@[simp] theorem isPlain_startIfAny (row : Alias) : (startIfAny row).IsPlain := by
  simp [startIfAny, Source.IsPlain]

theorem isPlain_turnPart (column : Nat) (word : WordRow) (found : ResolvedMatch) :
    (setting.turnPart column word found).IsPlain := by
  constructor <;> cases atStart : found.wanted.anchoredStart <;>
    cases atEnd : found.wanted.anchoredEnd <;> simp [turnPart, atStart, atEnd, Condition.IsPlain]

theorem isPlain_covering (word : WordRow) (found : ResolvedMatch) (row : Alias) {tie : Tie}
    (plain : tie.IsPlain) : ∀ source ∈ setting.covering word found row tie, source.IsPlain := by
  simp [covering, plain]

theorem isPlain_sharing (word : WordRow) (found : ResolvedMatch) (row : Alias) {tie : Tie}
    (plain : tie.IsPlain) : (sharing word found row tie).IsPlain := by
  cases atStart : found.wanted.anchoredStart <;> cases atEnd : found.wanted.anchoredEnd <;>
    simp [sharing, plain, atStart, atEnd]

theorem isPlain_intervalPart (word : WordRow) (found : ResolvedMatch) (row : Alias)
    {tie otherTie : Tie} (plain : tie.IsPlain) (otherPlain : otherTie.IsPlain) :
    (setting.intervalPart word found row tie otherTie).IsPlain := by
  have other : Cell.IsPlain ⟨.otherStart, "offset"⟩ := by decide
  unfold intervalPart
  split
  · exact ⟨by simp [isPlain_sharing _ _ _ plain], by simp⟩
  · refine ⟨setting.isPlain_covering word found row plain, ?_⟩
    cases found.wanted.anchoredStart <;> cases found.wanted.anchoredEnd <;>
      simp [Condition.IsPlain, otherPlain, other]

theorem isPlain_utterancePart (column : Nat) (word : WordRow) (found : ResolvedMatch)
    (row : Alias) {tie : Tie} (plain : tie.IsPlain) :
    (setting.utterancePart column word found row tie).IsPlain := by
  refine ⟨List.forall_mem_append.2 ⟨List.forall_mem_append.2
    ⟨setting.isPlain_covering word found row plain, ?_⟩, ?_⟩, List.forall_mem_append.2 ⟨?_, ?_⟩⟩
  all_goals split <;> simp [Condition.IsPlain]

theorem isPlain_withinWordPart (word : WordRow) (found : ResolvedMatch) (row : Alias)
    {number : Cell} (plain : number.IsPlain) (earlier : Option Alias) :
    (setting.withinWordPart word found row number earlier).IsPlain := by
  refine ⟨?_, by simp [withinWordPart]⟩
  simp [withinWordPart, wordNumber, plain]

theorem isPlain_structuralPart (column place : Nat) (word : WordRow) (earlier : Option Alias)
    (found : ResolvedMatch) :
    (setting.structuralPart column place word earlier found).IsPlain := by
  unfold structuralPart
  simp only
  split
  · exact ⟨by simp, by simp⟩
  · split
    · exact setting.isPlain_turnPart column word found
    · split
      · exact setting.isPlain_withinWordPart word found _ (by simp) none
      · exact setting.isPlain_withinWordPart word found _ (by simp) earlier
      · split
        · exact setting.isPlain_utterancePart column word found _ (by simp)
        · exact setting.isPlain_intervalPart word found _ (by simp) (by simp)
      · exact setting.isPlain_intervalPart word found _ (by simp) (by simp)

theorem isPlain_part (column place : Nat) (word : WordRow) (earlier : Option Alias)
    (found : ResolvedMatch) : (setting.part column place word earlier found).IsPlain := by
  obtain ⟨sources, conditions⟩ := setting.isPlain_structuralPart column place word earlier found
  exact ⟨sources, List.forall_mem_append.2 ⟨conditions, Condition.isPlain_ofLabel _ _⟩⟩

theorem isPlain_partsFrom (column : Nat) (word : WordRow) (place : Nat)
    (earlier : Option Alias) (found : List ResolvedMatch) :
    ∀ part ∈ setting.partsFrom column word place earlier found, part.IsPlain := by
  induction found generalizing place earlier with
  | nil => simp [partsFrom]
  | cons first rest ih => exact List.forall_mem_cons.2 ⟨setting.isPlain_part .., ih _ _⟩

theorem isPlain_blocksFrom (column : Nat) (earlier : Option Block)
    (columns : List ResolvedColumn) :
    ∀ block ∈ setting.blocksFrom column earlier columns,
      (∀ source ∈ block.sources setting, source.IsPlain) ∧
        ∀ part ∈ block.parts, part.IsPlain := by
  induction columns generalizing column earlier with
  | nil => simp [blocksFrom]
  | cons resolved rest ih =>
      have parts := setting.isPlain_partsFrom column
        (setting.word column resolved.found) 0 none resolved.found
      refine List.forall_mem_cons.2 ⟨⟨?_, parts⟩, ih _ _⟩
      refine List.forall_mem_append.2 ⟨setting.isPlain_wordSources _ (by simp), ?_⟩
      intro source member
      obtain ⟨part, within, inside⟩ := List.mem_flatMap.1 member
      exact (parts part within).sources source inside

end Setting

/-! ### Plans -/

structure Result.IsPlain (result : Result) : Prop where
  graph : result.graph.IsPlain
  start : result.start.IsPlain
  stop : result.stop.IsPlain
  placing : ∀ placing ∈ result.placing,
    placing.turn.IsPlain ∧ placing.firstWord.IsPlain ∧ placing.lastWord.IsPlain

/-- All columns of the plan are single words. -/
structure Plan.IsPlain (plan : Plan) : Prop where
  joins : ∀ source ∈ plan.joins, source.IsPlain
  conditions : ∀ condition ∈ plan.conditions, condition.IsPlain
  result : plan.result.IsPlain
  order : ∀ cell ∈ plan.order, cell.IsPlain

theorem Setting.isPlain_plan (setting : Setting) (columns : List ResolvedColumn) :
    (setting.plan columns).IsPlain where
  joins source member := by
    obtain ⟨block, within, inside⟩ := List.mem_flatMap.1 (Source.mem_of_mem_once member)
    exact (setting.isPlain_blocksFrom _ _ _ block within).1 source inside
  conditions condition member := by
    obtain ⟨part, inParts, inside⟩ := List.mem_flatMap.1 member
    obtain ⟨block, within, inBlock⟩ := List.mem_flatMap.1 inParts
    exact ((setting.isPlain_blocksFrom _ _ _ block within).2 part inBlock).conditions
      condition inside
  result := by
    constructor <;> simp [plan, result, wordNumber]
  order := by
    simp only [plan, Setting.order]
    refine List.forall_mem_cons.2 ⟨by simp, List.forall_mem_cons.2 ⟨by simp, ?_⟩⟩
    refine List.forall_mem_append.2 ⟨by simp, ?_⟩
    split <;> simp

theorem WordChain.isPlain_sourcesAfter (layer : TimedLayer) (confidence : Option Int64)
    (column : Nat) (earlier : Link) (rest : List Link) :
    ∀ source ∈ sourcesAfter layer confidence column earlier rest, source.IsPlain := by
  induction rest generalizing column earlier with
  | nil => simp [sourcesAfter]
  | cons link others ih =>
      refine List.forall_mem_cons.2 ⟨by simp, ?_⟩
      exact List.forall_mem_append.2 ⟨Source.isPlain_thresholdAnchors _ _, ih _ _⟩

theorem WordChain.isPlain_plan (schema : Schema) (turns : TimedLayer)
    (confidence : Option Int64) (chain : WordChain) :
    (chain.plan schema turns confidence).IsPlain where
  joins := List.forall_mem_cons.2 ⟨by simp, List.forall_mem_append.2
    ⟨Source.isPlain_thresholdAnchors _ _, isPlain_sourcesAfter _ _ _ _ _⟩⟩
  conditions condition member := by
    obtain ⟨⟨link, column⟩, -, inside⟩ := List.mem_flatMap.1 member
    exact Condition.isPlain_ofLabel _ _ condition inside
  result := by
    constructor <;> simp [plan, result]
  order := by
    simp [plan]

theorem SpanScan.isPlain_plan (confidence : Option Int64) (found : ResolvedMatch) :
    (plan confidence found).IsPlain where
  joins := by simp [plan]
  conditions := Condition.isPlain_ofLabel _ _
  result := by constructor <;> simp [plan]
  order := by simp [plan]

/-- Whatever the strategy, a search compares columns that are single words. -/
theorem isPlain_planOf {schema : Schema} {linked : String → Bool} {confidence : Option Int64}
    {columns : List ResolvedColumn} {strategy : Strategy} {plan : Plan}
    (planned : planOf schema linked confidence columns strategy = .ok plan) : plan.IsPlain := by
  rcases planOf_cases planned with
    ⟨chain, turns, -, rfl⟩ | ⟨found, -, rfl⟩ | ⟨turns, words, -, rfl⟩
  · exact chain.isPlain_plan schema turns confidence
  · exact SpanScan.isPlain_plan confidence found
  · exact Setting.isPlain_plan _ columns

end Search

end CorpusQuery
