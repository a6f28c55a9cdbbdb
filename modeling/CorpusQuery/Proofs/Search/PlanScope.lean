import CorpusQuery.Proofs.Search.ChainPlan
import CorpusQuery.Proofs.Search.Ties

namespace CorpusQuery.Search

/-! Each row of a plan is in it once, after the rows that it is tied to, and a plan
asks for nothing of other rows. -/

/-- The rows that the columns of a result are of.  Where there is a turn its speaker
is recorded too. -/
def Result.rows (result : Result) : List Alias :=
  [result.graph.row, result.start.row, result.stop.row, result.defining, result.target] ++
    result.segment.toList ++
    result.placing.toList.flatMap fun placing =>
      [.turn, placing.turn.row, placing.firstWord.row, placing.lastWord.row]

/-- The rows of a plan in their order. -/
def Plan.rows (plan : Plan) : List Alias :=
  plan.row :: plan.joins.map Source.row

/-- A plan has each of its rows once, and refers to no others. -/
structure Plan.InScope (plan : Plan) : Prop where
  distinct : plan.rows.Nodup
  inScope : Search.InScope [plan.row] plan.joins (plan.result.rows ++ plan.order.map Cell.row)
    plan.conditions

namespace Part

theorem mem_of_defining? {parts : List Part} {part : Part} (found : part ∈ defining? parts) :
    part ∈ parts := by
  simp only [defining?, Option.mem_def, Option.or_eq_some_iff] at found
  rcases found with first | ⟨-, last | ⟨-, last⟩⟩
  · exact List.mem_of_find?_eq_some first
  · exact List.mem_reverse.1 (List.mem_of_find?_eq_some last)
  · exact List.mem_reverse.1 (List.mem_of_find?_eq_some last)

end Part

namespace Setting

variable (setting : Setting)

/-- What is recorded of a match is of its turn, of its first and last words, and of
its parts. -/
theorem rows_result (first last : WordRow) (parts : List Part) :
    (setting.result first last parts).rows ⊆
      .turn :: first.row :: last.row :: parts.map Part.row := by
  have chosen (part? : Option Part) (within : ∀ part ∈ part?, part ∈ parts) {other : WordRow}
      (otherwise : other.row ∈ .turn :: first.row :: last.row :: parts.map Part.row) :
      ((part?.map fun part => ⟨part.row, part.found.layer⟩).getD other).row ∈
        .turn :: first.row :: last.row :: parts.map Part.row := by
    cases part? with
    | none => exact otherwise
    | some part =>
        have isPart : part.row ∈ parts.map Part.row := List.mem_map_of_mem (within part rfl)
        simp [isPart]
  have last_ : last.row ∈ Alias.turn :: first.row :: last.row :: parts.map Part.row := by simp
  have defining := chosen (Part.defining? parts) (fun _ => Part.mem_of_defining?) last_
  have target := chosen (Part.marked? parts) (fun _ => List.mem_of_find?_eq_some) defining
  have segment : ((parts.find? Part.isSegment).map Part.row).toList ⊆
      .turn :: first.row :: last.row :: parts.map Part.row := by
    intro row member
    obtain ⟨part, found, rfl⟩ := Option.map_eq_some_iff.1 (Option.mem_toList.1 member)
    have isPart : part.row ∈ parts.map Part.row :=
      List.mem_map_of_mem (List.mem_of_find?_eq_some found)
    simp [isPart]
  refine List.append_subset.2 ⟨List.append_subset.2 ⟨?_, segment⟩, by simp [result, wordNumber]⟩
  exact List.cons_subset.2 ⟨by simp [result], List.cons_subset.2 ⟨by simp [result],
    List.cons_subset.2 ⟨by simp [result], List.cons_subset.2 ⟨defining, List.cons_subset.2
      ⟨target, List.nil_subset _⟩⟩⟩⟩⟩

theorem rows_order (words : List WordRow) (target : Alias) :
    (order words target).map Cell.row ⊆ .turn :: target :: words.map WordRow.row := by
  have places : (words.map fun word => word.row.ordinalInTurn).map Cell.row =
      words.map WordRow.row :=
    List.map_map
  unfold order
  split <;> simp [places]

/-- A plan takes results and their order from its columns and its turn. -/
theorem rows_plan {columns : List ResolvedColumn} (asked : columns ≠ []) :
    (setting.plan columns).result.rows ++ (setting.plan columns).order.map Cell.row ⊆
      .turn :: (setting.blocksFrom 0 none columns).flatMap Block.rows := by
  have some : setting.blocksFrom 0 none columns ≠ [] := by
    cases columns with
    | nil => contradiction
    | cons => simp [blocksFrom]
  unfold plan
  simp only
  generalize setting.blocksFrom 0 none columns = blocks at some
  have wordKnown {word : WordRow} (member : word ∈ blocks.map Block.word) :
      word.row ∈ blocks.flatMap Block.rows := by
    obtain ⟨block, within, rfl⟩ := List.mem_map.1 member
    exact List.mem_flatMap.2 ⟨block, within, List.mem_cons_self ..⟩
  have partsKnown : (blocks.flatMap Block.parts).map Part.row ⊆ blocks.flatMap Block.rows := by
    intro row member
    obtain ⟨part, inParts, rfl⟩ := List.mem_map.1 member
    obtain ⟨block, within, inBlock⟩ := List.mem_flatMap.1 inParts
    exact List.mem_flatMap.2
      ⟨block, within, List.mem_cons_of_mem _ (List.mem_map_of_mem inBlock)⟩
  have words : blocks.map Block.word ≠ [] := by simpa using some
  have first := wordKnown (List.head_mem words)
  have last := wordKnown (List.getLast_mem words)
  have recorded := List.Subset.trans
    (setting.rows_result ((blocks.map Block.word).head words)
      ((blocks.map Block.word).getLast words) (blocks.flatMap Block.parts))
    (List.cons_subset_cons _ (List.cons_subset.2 ⟨first, List.cons_subset.2 ⟨last, partsKnown⟩⟩))
  rw [List.head?_eq_some_head words, List.getLast?_eq_some_getLast words]
  refine List.append_subset.2 ⟨recorded, List.Subset.trans (rows_order _ _) ?_⟩
  refine List.cons_subset.2 ⟨List.mem_cons_self .., List.cons_subset.2 ⟨recorded ?_, ?_⟩⟩
  · simp [Result.rows]
  · intro row member
    obtain ⟨word, within, rfl⟩ := List.mem_map.1 member
    exact List.mem_cons_of_mem _ (wordKnown within)

theorem inScope_plan {columns : List ResolvedColumn} (asked : columns ≠ []) :
    (setting.plan columns).InScope := by
  obtain ⟨tied, rowsKnown, conditionsKnown⟩ :=
    (setting.inScope_blocksFrom (List.mem_singleton_self Alias.turn) 0 none (by simp) columns).once
  constructor
  · refine List.nodup_cons.2 ⟨fun member => ?_, Source.nodup_rows_once _⟩
    -- The turn is of no column.
    rw [plan, Source.mem_rows_once, rows_blocksFrom] at member
    obtain ⟨⟨resolved, index⟩, -, inside⟩ := List.mem_flatMap.1 member
    cases column?_of_mem_columnRows inside
  · refine ⟨tied, List.Subset.trans (setting.rows_plan asked)
      (List.cons_subset.2 ⟨?_, rowsKnown⟩), ?_⟩
    · exact List.mem_append_right _ (List.mem_singleton_self _)
    · rwa [plan, List.flatMap_assoc]

end Setting

namespace WordChain

/-! The rows of a chain are the turn, and those that its words bring in. -/

variable (layer : TimedLayer) (confidence : Option Int64)

theorem rows_sourcesAfter (column : Nat) (earlier : Link) (rest : List Link) :
    (sourcesAfter layer confidence column earlier rest).map Source.row =
      (List.range' (column + 1) rest.length).flatMap (linkRows confidence) := by
  induction rest generalizing column earlier with
  | nil => rfl
  | cons link others ih =>
      rw [List.length_cons, List.range'_succ, List.flatMap_cons, ← ih (column + 1) link]
      exact List.map_append

theorem allTied_sourcesAfter {known : List Alias} (firstKnown : firstRow ∈ known) {column : Nat}
    (earlierKnown : .found column 0 ∈ known) (earlier : Link) (rest : List Link) :
    Source.AllTied known (sourcesAfter layer confidence column earlier rest) := by
  induction rest generalizing known column earlier with
  | nil => trivial
  | cons link others ih =>
      refine ⟨Source.isTied_ofLayer (by simp) ⟨firstRow, firstKnown, by simp⟩ ?_,
        Source.allTied_append.2 ⟨Source.allTied_thresholdAnchors _ (List.mem_cons_self ..),
          ih (by simp [firstKnown]) (by simp [Source.ofLayer]) _⟩⟩
      simp [Tie.mem_rows_adjacent, firstKnown, earlierKnown]

theorem targetRow_column (chain : WordChain) :
    ∃ column < chain.links.length, chain.targetRow = .found column 0 := by
  refine ⟨_, ?_, rfl⟩
  cases found : chain.links.findIdx? (·.found.wanted.target) with
  | none => simp [links]
  | some index => exact (List.findIdx?_eq_some_iff_getElem.1 found).1

variable (schema : Schema) (turns : TimedLayer) (chain : WordChain)

/-- The first word comes before the turn, and its anchors after it. -/
theorem perm_rows_plan :
    (chain.plan schema turns confidence).rows.Perm
      (.turn :: (List.range chain.links.length).flatMap (linkRows confidence)) := by
  have listed : (chain.plan schema turns confidence).rows =
      firstRow :: .turn :: ((Source.thresholdAnchors confidence firstRow).map Source.row ++
        (sourcesAfter chain.layer confidence 0 chain.first chain.rest).map Source.row) :=
    congrArg (firstRow :: ·) List.map_append
  rw [listed, rows_sourcesAfter, links, List.length_cons, List.range_eq_range', List.range'_succ]
  exact List.Perm.swap ..

theorem nodup_plan : (chain.plan schema turns confidence).rows.Nodup := by
  refine (perm_rows_plan ..).nodup_iff.2
    (List.nodup_cons.2 ⟨fun member => ?_, nodup_flatMap_linkRows _ List.nodup_range⟩)
  obtain ⟨column, -, inside⟩ := List.mem_flatMap.1 member
  rcases mem_linkRows inside with isTurn | ⟨edge, isTurn⟩ <;> cases isTurn

theorem found_mem_plan {column : Nat} (inside : column < chain.links.length) :
    .found column 0 ∈ (chain.plan schema turns confidence).rows :=
  (perm_rows_plan ..).mem_iff.2 (List.mem_cons_of_mem _
    (List.mem_flatMap.2 ⟨column, List.mem_range.2 inside, List.mem_cons_self ..⟩))

theorem allTied_plan :
    Source.AllTied [firstRow] (chain.plan schema turns confidence).joins := by
  refine ⟨Source.isTied_ofLayer (by simp) ⟨firstRow, List.mem_singleton_self _, by simp⟩ ?_,
    Source.allTied_append.2 ⟨Source.allTied_thresholdAnchors _ ?_, ?_⟩⟩
  · simp
  · simp
  · exact allTied_sourcesAfter _ _ (by simp) (by simp [firstRow]) _ _

/-- What is recorded of a match is of its turn and its words. -/
theorem rows_plan {rows : List Alias} (turn : .turn ∈ rows)
    (words : ∀ column < chain.links.length, .found column 0 ∈ rows) :
    (chain.plan schema turns confidence).result.rows ++
      (chain.plan schema turns confidence).order.map Cell.row ⊆ rows := by
  have first : firstRow ∈ rows := words 0 (Nat.succ_pos _)
  have last : chain.lastRow ∈ rows := words _ (Nat.lt_succ_self _)
  obtain ⟨column, inside, isTarget⟩ := chain.targetRow_column
  have target : chain.targetRow ∈ rows := isTarget ▸ words column inside
  have places : ((List.range chain.links.length).map fun column =>
      Alias.ordinalInTurn (.found column 0)).map Cell.row ⊆ rows := by
    intro row member
    simp only [List.map_map, List.mem_map, List.mem_range] at member
    obtain ⟨column, inside, rfl⟩ := member
    exact words column inside
  refine List.append_subset.2 ⟨?_, ?_⟩
  · simp [plan, result, Result.rows, turn, first, last, target]
  · exact List.cons_subset.2 ⟨first, List.cons_subset.2 ⟨first, places⟩⟩

theorem inScope_plan : (chain.plan schema turns confidence).InScope where
  distinct := nodup_plan ..
  inScope := by
    have known {row : Alias} (member : row ∈ (chain.plan schema turns confidence).rows) :
        row ∈ (chain.plan schema turns confidence).joins.map Source.row ++ [firstRow] :=
      (List.perm_append_singleton _ _).mem_iff.2 member
    refine ⟨allTied_plan .., rows_plan _ _ _ _ (by simp [plan, Source.ofLayer])
      fun _ inside => known (found_mem_plan _ _ _ _ inside), fun condition member => ?_⟩
    obtain ⟨⟨link, column⟩, within, inside⟩ := List.mem_flatMap.1 member
    obtain rfl := Condition.eq_of_mem_ofLabel inside
    exact List.cons_subset.2 ⟨known (found_mem_plan _ _ _ _ (List.snd_lt_of_mem_zipIdx within)),
      List.nil_subset _⟩

end WordChain

theorem SpanScan.inScope_plan (confidence : Option Int64) (found : ResolvedMatch) :
    (plan confidence found).InScope := by
  constructor
  · simp [Plan.rows, plan, row, Source.anchor]
  · refine ⟨⟨Source.isTied_anchor _ (List.mem_singleton_self _) _ (by simp), trivial⟩, ?_, ?_⟩
    · simp [plan, Result.rows, Source.anchor]
    · intro condition member
      obtain rfl := Condition.eq_of_mem_ofLabel member
      simp [Condition.rows, plan]

/-- All ways of searching lead to plans that keep to their rows. -/
theorem inScope_planOf {schema : Schema} {linked : String → Bool} {confidence : Option Int64}
    {columns : List ResolvedColumn} (asked : columns ≠ []) {strategy : Strategy} {plan : Plan}
    (planned : planOf schema linked confidence columns strategy = .ok plan) : plan.InScope := by
  rcases planOf_cases planned with
    ⟨chain, turns, -, rfl⟩ | ⟨found, -, rfl⟩ | ⟨turns, words, -, rfl⟩
  · exact chain.inScope_plan confidence schema turns
  · exact SpanScan.inScope_plan confidence found
  · exact Setting.inScope_plan _ asked

end CorpusQuery.Search
