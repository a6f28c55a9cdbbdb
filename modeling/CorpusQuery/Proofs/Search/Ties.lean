import CorpusQuery.Proofs.Search.Names
import CorpusQuery.Proofs.Search.Sources
import CorpusQuery.Proofs.Sql.Scope

namespace CorpusQuery.Search

/-! Every row of a search is tied to rows before it, and no other rows are referred
to. -/

open Sql

/-! ### Ties -/

@[simp] theorem Alias.row_cells (row : Alias) :
    row.id.row = row ∧ row.graph.row = row ∧ row.turnId.row = row ∧ row.wordId.row = row ∧
      row.ordinalInTurn.row = row ∧ row.ordinalInWord.row = row :=
  ⟨rfl, rfl, rfl, rfl, rfl, rfl⟩

@[simp] theorem Alias.row_anchorId (row : Alias) (edge : Edge) : (row.anchorId edge).row = row :=
  rfl

@[simp] theorem Alias.row_offset (row : Alias) (edge : Edge) :
    (row.offset edge).row = .anchor row edge :=
  rfl

@[simp] theorem Alias.row_wordOf (schema : Schema) (layer : TimedLayer) (row : Alias) :
    (row.wordOf schema layer).row = row := by
  unfold wordOf
  split <;> rfl

namespace Tie

/-- The rows that a tie refers to. -/
def rows : Tie → List Alias
  | .compare _ left right => [left.row, right.row]
  | .following left right => [left.row, right.row]
  | .preceding left right => [left.row, right.row]
  | .within _ left right => [left.row, right.row, right.row]
  | .trusted anchor _ => [anchor]

theorem scopes_fragment (tie : Tie) : tie.fragment.Scopes ⟨[], tie.rows.map Alias.name⟩ := by
  have cell (cell : Cell) : Fragment.Scopes [cell.piece] ⟨[], [cell.row.name]⟩ :=
    Fragment.scopes_column _ _
  have words {text : String} (plain : IsUnqualified text) : Fragment.Scopes [.words text] {} :=
    Fragment.scopes_words plain
  cases tie with
  | compare ordering left right =>
      exact (cell left).cons ((words (by cases ordering <;> decide)).cons (cell right))
  | following left right =>
      exact (cell left).cons ((words (by decide)).cons ((cell right).cons (words (by decide))))
  | preceding left right =>
      exact (cell left).cons ((words (by decide)).cons ((cell right).cons (words (by decide))))
  | within distance left right =>
      have counted : IsUnqualified (" + " ++ toString distance) := by
        simp +decide
      exact (cell left).cons ((words (by decide)).cons ((cell right).cons ((words (by decide)).cons
        (Fragment.scopes_and.cons ((cell right).cons (words counted))))))
  | trusted anchor threshold =>
      exact (Fragment.scopes_column _ _).cons
        ((words (by decide)).cons (Fragment.scopes_bound (.integer threshold)))

theorem free_fragment (tie : Tie) : tie.fragment.free = tie.rows.map Alias.name := by
  rw [Fragment.free, tie.scopes_fragment.scope, Level.free_of_mentioned]

@[simp] theorem rows_compare (ordering : Ordering) (left right : Cell) :
    (compare ordering left right).rows = [left.row, right.row] :=
  rfl

@[simp] theorem rows_equal (left right : Cell) : (equal left right).rows = [left.row, right.row] :=
  rfl

@[simp] theorem rows_following (left right : Cell) :
    (following left right).rows = [left.row, right.row] :=
  rfl

@[simp] theorem rows_preceding (left right : Cell) :
    (preceding left right).rows = [left.row, right.row] :=
  rfl

theorem mem_rows_adjacent {distance : Nat} {later earlier row : Alias} :
    row ∈ (adjacent distance later earlier).rows ↔ row = later ∨ row = earlier := by
  unfold adjacent
  split <;> simp [rows, Alias.ordinalInTurn]

end Tie

namespace Source

/-- The rows that the ties of a source refer to. -/
def mentioned (source : Source) : List Alias :=
  source.ties.flatMap Tie.rows

/-- The source is tied to some row that is known, and refers to no others. -/
structure IsTied (known : List Alias) (source : Source) : Prop where
  own : source.row ∈ source.mentioned
  earlier : ∃ row ∈ known, row ∈ source.mentioned
  only : ∀ row ∈ source.mentioned, row = source.row ∨ row ∈ known

/-- Each source is tied to rows that are known, or are those of sources before it. -/
def AllTied : List Alias → List Source → Prop
  | _, [] => True
  | known, source :: rest => source.IsTied known ∧ AllTied (source.row :: known) rest

theorem IsTied.mono {known more : List Alias} (subset : known ⊆ more) {source : Source}
    (tied : source.IsTied known) : source.IsTied more := by
  obtain ⟨own, ⟨row, isKnown, mentioned⟩, only⟩ := tied
  exact ⟨own, ⟨row, subset isKnown, mentioned⟩, fun row member =>
    (only row member).imp_right (@subset row)⟩

theorem AllTied.mono {known more : List Alias} (subset : known ⊆ more) {sources : List Source}
    (tied : AllTied known sources) : AllTied more sources := by
  induction sources generalizing known more with
  | nil => trivial
  | cons source rest ih =>
      exact ⟨tied.1.mono subset, ih (List.cons_subset_cons _ subset) tied.2⟩

theorem allTied_append {known : List Alias} {left right : List Source} :
    AllTied known (left ++ right) ↔
      AllTied known left ∧ AllTied (left.map Source.row ++ known) right := by
  induction left generalizing known with
  | nil => simp [AllTied]
  | cons source rest ih =>
      have same : rest.map Source.row ++ source.row :: known ⊆
          (source :: rest).map Source.row ++ known := by simp
      have back : (source :: rest).map Source.row ++ known ⊆
          rest.map Source.row ++ source.row :: known := by simp
      rw [List.cons_append, AllTied, AllTied, ih, and_assoc]
      exact and_congr_right fun _ => and_congr_right fun _ => ⟨.mono same, .mono back⟩

/-- A source is left out only if its row is known already. -/
theorem AllTied.once {known : List Alias} {sources : List Source} (tied : AllTied known sources) :
    AllTied known (once sources) := by
  have added (sources added : List Source) (before : AllTied known added)
      (behind : AllTied (added.map Source.row ++ known) sources) :
      AllTied known (sources.foldl addOnce added) := by
    induction sources generalizing added with
    | nil => exact before
    | cons source rest ih =>
        obtain ⟨first, others⟩ := behind
        rw [List.foldl_cons]
        unfold addOnce
        split
        · rename_i present
          obtain ⟨earlier, member, same⟩ := List.any_eq_true.1 present
          have isKnown : source.row ∈ added.map Source.row :=
            eq_of_beq same ▸ List.mem_map_of_mem member
          refine ih added before (others.mono ?_)
          simp [isKnown]
        · refine ih _ (allTied_append.2 ⟨before, first, trivial⟩) (others.mono ?_)
          simp
  exact added sources [] trivial (by simpa using tied)

/-- The first tie is to a row that is known. -/
theorem IsTied.of_first {known : List Alias} {source : Source} {first : Tie} {ties : List Tie}
    (listed : source.ties = first :: ties) (own : source.row ∈ first.rows)
    (earlier : ∃ row ∈ known, row ∈ first.rows)
    (only : ∀ tie ∈ source.ties, ∀ row ∈ tie.rows, row = source.row ∨ row ∈ known) :
    source.IsTied known := by
  have mentioned {row : Alias} (member : row ∈ first.rows) : row ∈ source.mentioned := by
    rw [Source.mentioned, listed, List.flatMap_cons]
    exact List.mem_append_left _ member
  refine ⟨mentioned own, ?_, fun row member => ?_⟩
  · obtain ⟨row, isKnown, inFirst⟩ := earlier
    exact ⟨row, isKnown, mentioned inFirst⟩
  · obtain ⟨tie, inTies, inTie⟩ := List.mem_flatMap.1 member
    exact only tie inTies row inTie

variable {known : List Alias}

theorem isTied_ofLayer {layer : TimedLayer} {row : Alias} {first : Tie} {ties : List Tie}
    (own : row ∈ first.rows) (earlier : ∃ other ∈ known, other ∈ first.rows)
    (only : ∀ tie ∈ first :: ties, ∀ other ∈ tie.rows, other = row ∨ other ∈ known) :
    (ofLayer layer row (first :: ties)).IsTied known :=
  .of_first rfl own earlier only

theorem isTied_anchor (confidence : Option Int64) {row : Alias} (isKnown : row ∈ known)
    (edge : Edge) {ties : List Tie}
    (only : ∀ tie ∈ ties, ∀ other ∈ tie.rows, other = .anchor row edge ∨ other ∈ known) :
    (anchor confidence row edge ties).IsTied known := by
  refine .of_first rfl (by simp [anchor]) ⟨row, isKnown, by simp⟩ ?_
  refine List.forall_mem_cons.2 ⟨?_, List.forall_mem_append.2 ⟨?_, only⟩⟩
  · simp [anchor, isKnown]
  · simp [anchor, Tie.rows]

theorem allTied_thresholdAnchors (confidence : Option Int64) {row : Alias}
    (isKnown : row ∈ known) : AllTied known (thresholdAnchors confidence row) := by
  unfold thresholdAnchors
  split
  · exact ⟨isTied_anchor confidence isKnown .start (by simp),
      isTied_anchor confidence (List.mem_cons_of_mem _ isKnown) .stop (by simp), trivial⟩
  · trivial

end Source

/-! ### Conditions -/

/-- The rows that a condition refers to, but for those of its own subqueries. -/
def Condition.rows : Condition → List Alias
  | .label row _ => [row]
  | .first word => [word]
  | .absent row => [row]
  | .absentOr row tie => row :: tie.rows
  | .noOtherWord _ ties =>
      (ties.flatMap Tie.rows).filter fun row => row != .otherWord && row != .otherStart

theorem Condition.eq_of_mem_ofLabel {row : Alias} {wanted : LayerMatch} {condition : Condition}
    (member : condition ∈ ofLabel row wanted) : condition = .label row wanted := by
  unfold ofLabel at member
  split at member
  · exact List.mem_singleton.1 member
  · contradiction

/-- The sources are tied to rows that are known or to each other, and with them all
other rows are known that are needed. -/
structure InScope (known : List Alias) (sources : List Source) (rows : List Alias)
    (conditions : List Condition) : Prop where
  tied : Source.AllTied known sources
  rowsKnown : rows ⊆ sources.map Source.row ++ known
  conditionsKnown : ∀ condition ∈ conditions, condition.rows ⊆ sources.map Source.row ++ known

namespace InScope

variable {known rows : List Alias} {sources : List Source} {conditions : List Condition}

theorem nil : InScope known [] [] [] :=
  ⟨trivial, List.nil_subset _, by simp⟩

theorem append {moreSources : List Source} {moreRows : List Alias}
    {moreConditions : List Condition} (first : InScope known sources rows conditions)
    (second : InScope (sources.map Source.row ++ known) moreSources moreRows moreConditions) :
    InScope known (sources ++ moreSources) (rows ++ moreRows) (conditions ++ moreConditions) := by
  have all : (sources ++ moreSources).map Source.row ++ known ⊆
      moreSources.map Source.row ++ (sources.map Source.row ++ known) := by
    simp
  have before : sources.map Source.row ++ known ⊆
      (sources ++ moreSources).map Source.row ++ known := by
    simp
  have behind : moreSources.map Source.row ++ (sources.map Source.row ++ known) ⊆
      (sources ++ moreSources).map Source.row ++ known := by
    simp
  refine ⟨Source.allTied_append.2 ⟨first.tied, second.tied⟩,
    List.append_subset.2 ⟨List.Subset.trans first.rowsKnown before,
      List.Subset.trans second.rowsKnown behind⟩,
    List.forall_mem_append.2 ⟨?_, ?_⟩⟩
  · exact fun condition member => List.Subset.trans (first.conditionsKnown condition member) before
  · exact fun condition member => List.Subset.trans (second.conditionsKnown condition member) behind

theorem once (inScope : InScope known sources rows conditions) :
    InScope known (Source.once sources) rows conditions := by
  have same : sources.map Source.row ++ known ⊆
      (Source.once sources).map Source.row ++ known := by
    intro row member
    simpa only [List.mem_append, Source.mem_rows_once] using member
  exact ⟨inScope.tied.once, List.Subset.trans inScope.rowsKnown same, fun condition member =>
    List.Subset.trans (inScope.conditionsKnown condition member) same⟩

end InScope

/-! ### Matches -/

abbrev Part.InScope (known : List Alias) (part : Part) : Prop :=
  Search.InScope known part.sources [part.row] part.conditions

namespace Setting

variable (setting : Setting)

/-- The segment that the next one follows is that of the part, or known before. -/
theorem segmentAfter_cases (word : WordRow) {column place : Nat} {earlier : Option Alias}
    {found : ResolvedMatch} {segment : Alias}
    (last : segment ∈ setting.segmentAfter column place earlier found) :
    segment = (setting.part column place word earlier found).row ∨ segment ∈ earlier := by
  unfold segmentAfter at last
  split at last
  · rename_i isSegment
    simp only [Bool.and_eq_true, decide_eq_true_eq, Bool.not_eq_true'] at isSegment
    obtain rfl := Option.some.inj last
    refine .inl ?_
    unfold part structuralPart
    by_cases isWord : word.row = .found column place <;>
      simp [isWord, isSegment.1, isSegment.2, withinWordPart]
  · exact .inr last

section Part

variable {known : List Alias} {word : WordRow} (turnKnown : .turn ∈ known)
  (wordKnown : word.row ∈ known)

include turnKnown wordKnown

theorem isTied_nextWord (column : Nat) : (setting.nextWord column word).IsTied known := by
  refine .of_first rfl (by simp [nextWord]) ⟨.turn, turnKnown, by simp⟩ ?_
  simp [nextWord, turnKnown, wordKnown]

theorem isTied_previousWord (column : Nat) : (setting.previousWord column word).IsTied known := by
  refine .of_first rfl (by simp [previousWord]) ⟨.turn, turnKnown, by simp⟩ ?_
  simp [previousWord, turnKnown, wordKnown]

omit turnKnown wordKnown in
theorem isTied_startIfAny {row : Alias} (isKnown : row ∈ known) :
    (startIfAny row).IsTied known := by
  refine .of_first rfl (by simp [startIfAny]) ⟨row, isKnown, by simp⟩ ?_
  simp [startIfAny, isKnown]

theorem inScope_turnPart (column : Nat) (found : ResolvedMatch) :
    (setting.turnPart column word found).InScope known := by
  have next := setting.isTied_nextWord turnKnown wordKnown column
  unfold turnPart
  constructor
  · cases found.wanted.anchoredEnd
    · trivial
    · exact ⟨next, trivial⟩
  · simp [turnKnown]
  · cases found.wanted.anchoredStart <;> cases found.wanted.anchoredEnd <;>
      simp [Condition.rows, wordKnown, nextWord]

/-- The tie is to the turn. -/
theorem allTied_covering (found : ResolvedMatch) {row : Alias} {tie : Tie}
    (rows : tie.rows = [row, .turn]) :
    Source.AllTied known (setting.covering word found row tie) := by
  refine ⟨Source.isTied_anchor _ wordKnown _ (by simp),
    Source.isTied_ofLayer (by simp [rows])
      ⟨.turn, List.mem_cons_of_mem _ turnKnown, by simp [rows]⟩ ?_,
    Source.isTied_anchor _ (by simp [Source.ofLayer]) _ ?_,
    Source.isTied_anchor _ (by simp [Source.ofLayer]) _ ?_, trivial⟩
  · simp [rows, turnKnown]
  · simp [Source.anchor]
  · simp [Source.anchor]

theorem inScope_intervalPart (found : ResolvedMatch) {row : Alias} {tie otherTie : Tie}
    (rows : tie.rows = [row, .turn]) (otherRows : otherTie.rows = [.otherWord, .turn]) :
    (setting.intervalPart word found row tie otherTie).InScope known := by
  have covered := setting.allTied_covering turnKnown wordKnown found rows
  unfold intervalPart
  split
  · refine ⟨⟨Source.isTied_ofLayer (by simp [rows]) ⟨.turn, turnKnown, by simp [rows]⟩ ?_, trivial⟩,
      by simp [sharing, Source.ofLayer], by simp⟩
    cases found.wanted.anchoredStart <;> cases found.wanted.anchoredEnd <;>
      simp [rows, turnKnown, wordKnown]
  · refine ⟨covered, by simp [covering, Source.ofLayer], ?_⟩
    cases found.wanted.anchoredStart <;> cases found.wanted.anchoredEnd <;>
      simp [Condition.rows, otherRows, covering, Source.ofLayer, Source.anchor, turnKnown]

theorem inScope_utterancePart (column : Nat) (found : ResolvedMatch) {row : Alias} {tie : Tie}
    (rows : tie.rows = [row, .turn]) :
    (setting.utterancePart column word found row tie).InScope known := by
  have covered := setting.allTied_covering turnKnown wordKnown found rows
  have before (more : List Alias) : Source.AllTied (more ++ known)
      (if found.wanted.anchoredStart then
        [setting.previousWord column word, startIfAny (.previous column)] else []) := by
    split
    · exact ⟨setting.isTied_previousWord (by simp [turnKnown]) (by simp [wordKnown]) column,
        isTied_startIfAny (by simp [previousWord]), trivial⟩
    · trivial
  have behind (more : List Alias) : Source.AllTied (more ++ known)
      (if found.wanted.anchoredEnd then
        [setting.nextWord column word, startIfAny (.next column)] else []) := by
    split
    · exact ⟨setting.isTied_nextWord (by simp [turnKnown]) (by simp [wordKnown]) column,
        isTied_startIfAny (by simp [nextWord]), trivial⟩
    · trivial
  unfold utterancePart
  refine ⟨Source.allTied_append.2 ⟨Source.allTied_append.2 ⟨covered, before _⟩, behind _⟩, ?_, ?_⟩
  · simp [covering, Source.ofLayer]
  · cases found.wanted.anchoredStart <;> cases found.wanted.anchoredEnd <;>
      simp [Condition.rows, covering, Source.ofLayer, Source.anchor, previousWord, nextWord,
        startIfAny]

omit turnKnown in
theorem inScope_withinWordPart (found : ResolvedMatch) {row : Alias} {number : Cell}
    (ofRow : number.row = row) {earlier : Option Alias}
    (earlierKnown : ∀ segment ∈ earlier, segment ∈ known) :
    (setting.withinWordPart word found row number earlier).InScope known := by
  have ofWord : (setting.wordNumber word).row = word.row := by
    simp [wordNumber]
  refine ⟨⟨Source.isTied_ofLayer (by simp [ofRow]) ⟨word.row, wordKnown, by simp [ofWord]⟩ ?_,
    trivial⟩, by simp [withinWordPart, Source.ofLayer], by simp [withinWordPart]⟩
  cases earlier with
  | none => simp [ofRow, ofWord, wordKnown]
  | some segment => simp [ofRow, ofWord, wordKnown, earlierKnown segment rfl]

theorem inScope_structuralPart (column place : Nat) {earlier : Option Alias}
    (earlierKnown : ∀ segment ∈ earlier, segment ∈ known) (found : ResolvedMatch) :
    (setting.structuralPart column place word earlier found).InScope known := by
  unfold structuralPart
  simp only
  split
  · rename_i isWord
    exact ⟨trivial, by simp [← isWord, wordKnown], by simp⟩
  · split
    · exact setting.inScope_turnPart turnKnown wordKnown column found
    · split
      · exact setting.inScope_withinWordPart wordKnown found (by simp) (by simp)
      · exact setting.inScope_withinWordPart wordKnown found (by simp) earlierKnown
      · split
        · exact setting.inScope_utterancePart turnKnown wordKnown column found (by simp)
        · exact setting.inScope_intervalPart turnKnown wordKnown found (by simp) (by simp)
      · exact setting.inScope_intervalPart turnKnown wordKnown found (by simp) (by simp)

theorem inScope_part (column place : Nat) {earlier : Option Alias}
    (earlierKnown : ∀ segment ∈ earlier, segment ∈ known) (found : ResolvedMatch) :
    (setting.part column place word earlier found).InScope known := by
  obtain ⟨sources, row, conditions⟩ :=
    setting.inScope_structuralPart turnKnown wordKnown column place earlierKnown found
  refine ⟨sources, row, List.forall_mem_append.2 ⟨conditions, fun condition member => ?_⟩⟩
  obtain rfl := Condition.eq_of_mem_ofLabel member
  exact row

theorem inScope_partsFrom (column place : Nat) (earlier : Option Alias)
    (earlierKnown : ∀ segment ∈ earlier, segment ∈ known) (found : List ResolvedMatch) :
    let parts := setting.partsFrom column word place earlier found
    InScope known (parts.flatMap Part.sources) (parts.map Part.row)
      (parts.flatMap Part.conditions) := by
  induction found generalizing known place earlier with
  | nil => exact .nil
  | cons first rest ih =>
      have here := setting.inScope_part turnKnown wordKnown column place earlierKnown first
      -- The next part may be tied to the segment before it, which is then known by now.
      refine here.append (ih (by simp [turnKnown]) (by simp [wordKnown]) (place + 1) _ ?_)
      intro segment last
      rcases setting.segmentAfter_cases word last with same | before
      · exact same ▸ here.rowsKnown (List.mem_singleton_self _)
      · exact List.mem_append_right _ (earlierKnown segment before)

end Part

/-! ### Columns -/

variable {known : List Alias}

/-- The rows of a column that results and their order may be taken from. -/
def Block.rows (block : Block) : List Alias :=
  block.word.row :: block.parts.map Part.row

/-- The word is tied to the turn, and to the word of the column before. -/
theorem inScope_wordSources (turnKnown : .turn ∈ known) (word : WordRow) {ties : List Tie}
    (tied : ∀ tie ∈ ties, ∀ row ∈ tie.rows, row = word.row ∨ row ∈ known) :
    InScope known (setting.wordSources word ties) [word.row] [] := by
  refine ⟨⟨Source.isTied_ofLayer (by simp) ⟨.turn, turnKnown, by simp⟩ ?_,
    Source.allTied_thresholdAnchors _ (by simp [Source.ofLayer])⟩,
    by simp [wordSources, Source.ofLayer], by simp⟩
  exact List.forall_mem_cons.2 ⟨by simp [turnKnown], tied⟩

theorem inScope_blocksFrom (turnKnown : .turn ∈ known) (column : Nat) (earlier : Option Block)
    (earlierKnown : ∀ before ∈ earlier, before.word.row ∈ known) (columns : List ResolvedColumn) :
    let blocks := setting.blocksFrom column earlier columns
    InScope known (blocks.flatMap (Block.sources setting)) (blocks.flatMap Block.rows)
      (blocks.flatMap fun block => block.parts.flatMap Part.conditions) := by
  induction columns generalizing known column earlier with
  | nil => exact .nil
  | cons resolved rest ih =>
      have words : InScope known (setting.wordSources (setting.word column resolved.found)
          (earlier.toList.map fun before =>
            .adjacent before.adjacency (setting.word column resolved.found).row before.word.row))
          [(setting.word column resolved.found).row] [] := by
        refine setting.inScope_wordSources turnKnown _ ?_
        cases earlier with
        | none => simp
        | some before => simp [Tie.mem_rows_adjacent, earlierKnown before rfl]
      have parts := setting.inScope_partsFrom (List.mem_append_right _ turnKnown)
        (words.rowsKnown (List.mem_singleton_self _)) column 0 none (by simp) resolved.found
      have block := words.append parts
      refine block.append (ih (List.mem_append_right _ turnKnown) (column + 1) _ ?_)
      rintro _ ⟨⟩
      exact block.rowsKnown (List.mem_cons_self ..)

end Setting

end CorpusQuery.Search
