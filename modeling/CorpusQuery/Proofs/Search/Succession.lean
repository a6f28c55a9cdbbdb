import Mathlib.Algebra.GroupWithZero.Nat
import CorpusQuery.Proofs.Search.Adjacency
import CorpusQuery.Proofs.Search.LastColumn
import CorpusQuery.Proofs.Search.Order

namespace CorpusQuery.Search

/-! The words of a search follow each other in one turn.

Each column has one word, which is joined on its turn and on the word of the column before
it.  Nothing else is asked of the places of words, so that any words will do that follow
each other in this way. -/

open Sql

/-- The words are in one turn, and each is behind the one before it, no further than the gap
between their columns may be. -/
structure InSuccession (numbers : Numbers) (gaps : List Nat) (words : List WordRow) : Prop where
  turn : ∃ turn, Alias.turn.id.value? numbers = some turn ∧
    ∀ word ∈ words, word.row.turnId.value? numbers = some turn
  follows : ∀ (column gap : Nat) (earlier later : WordRow), gaps[column]? = some gap →
    words[column]? = some earlier → words[column + 1]? = some later →
    Follows numbers gap later.row earlier.row

/-- All that the statement joins these rows on is so. -/
def JoinsHold (numbers : Numbers) (statement : Select) (rows : List Alias) : Prop :=
  ∀ join ∈ statement.joins, join.row ∈ rows.map Alias.name →
    ∀ condition ∈ join.on, verdict? numbers condition.sql = some true

/-- There is one word for each column, and the turn and the words are read once each, with no
rows of nulls. -/
structure HasWords (columns : List Column) (words : List WordRow) (statement : Select) :
    Prop where
  each : words.length = columns.length
  own : ∀ (column : Nat) (word : WordRow), words[column]? = some word →
    word.row.column? = some column
  once : ∀ row ∈ Alias.turn :: words.map WordRow.row, statement.rows.count row.name = 1
  inner : ∀ join ∈ statement.joins,
    join.row ∈ (Alias.turn :: words.map WordRow.row).map Alias.name → join.kind = .inner

/-! ### Places -/

/-- Each word is behind those before it, by at least one place for each word and at most
what the gaps between them come to. -/
theorem InSuccession.spread {numbers : Numbers} {gaps : List Nat} {words : List WordRow}
    (succession : InSuccession numbers gaps words) (each : words.length = gaps.length)
    (start count : Nat) {first last : WordRow} (atStart : words[start]? = some first)
    (behind : words[start + count + 1]? = some last) :
    ∃ place next, first.row.ordinalInTurn.value? numbers = some place ∧
      last.row.ordinalInTurn.value? numbers = some next ∧
      place + (count + 1 : Nat) ≤ next ∧
      next ≤ place + ((gaps.drop start).take (count + 1)).sum := by
  have gapAt {index : Nat} {word : WordRow} (known : words[index]? = some word) :
      ∃ gap, gaps[index]? = some gap :=
    ⟨_, List.getElem?_eq_getElem (each ▸ (List.getElem?_eq_some_iff.1 known).1)⟩
  have sum (count gap : Nat) (known : gaps[start + count]? = some gap) :
      ((gaps.drop start).take (count + 1)).sum = ((gaps.drop start).take count).sum + gap := by
    rw [List.take_add_one, List.getElem?_drop, known, List.sum_append]
    simp
  -- The first word stays, and the last moves on by one gap at a time.
  induction count generalizing last with
  | zero =>
      obtain ⟨gap, known⟩ := gapAt atStart
      obtain ⟨place, next, before, after, least, greatest⟩ :=
        succession.follows start gap first last known atStart behind
      refine ⟨place, next, before, after, least, ?_⟩
      rw [sum 0 gap known, List.take_zero, List.sum_nil, Nat.zero_add]
      exact greatest
  | succ count ih =>
      have inside := (List.getElem?_eq_some_iff.1 behind).1
      have middle : words[start + count + 1]? = some words[start + count + 1] :=
        List.getElem?_eq_getElem (by omega)
      obtain ⟨place, between, before, at_, least, greatest⟩ := ih middle
      obtain ⟨gap, known⟩ := gapAt middle
      obtain ⟨same, next, here, after, more, most⟩ :=
        succession.follows _ gap _ last known middle behind
      obtain rfl : between = same := Option.some.inj (at_.symm.trans here)
      have total := sum (count + 1) gap known
      refine ⟨place, next, before, after, ?_, ?_⟩ <;> omega

/-! ### Joins of plans -/

namespace Plan

/-- All that these rows are tied by is so. -/
def JoinsHold (numbers : Numbers) (plan : Plan) (rows : List Alias) : Prop :=
  ∀ source ∈ plan.joins, source.row ∈ rows → ∀ tie ∈ source.ties, tie.Holds numbers

variable {plan : Plan} {options : Options} {rows : List Alias}

theorem mem_joins_restricted {join : Join} (named : join.row ∈ rows.map Alias.name) :
    join ∈ (plan.restricted options).joins ↔
      ∃ source ∈ plan.joins, source.row ∈ rows ∧ join = source.join := by
  obtain ⟨row, among, isRow⟩ := List.mem_map.1 named
  constructor
  · intro member
    rcases List.mem_append.1 member with planned | restricting
    · obtain ⟨source, inPlan, rfl⟩ := List.mem_map.1 planned
      obtain rfl : row = source.row := Alias.name_injective isRow
      exact ⟨source, inPlan, among, rfl⟩
    · have isMain := List.mem_map_of_mem restricting (f := Join.row)
      rw [Options.rows_joins] at isMain
      split at isMain
      · exact absurd (isRow.trans (List.mem_singleton.1 isMain)) row.name_ne_mainParticipant
      · contradiction
  · rintro ⟨source, inPlan, -, rfl⟩
    exact List.mem_append_left _ (List.mem_map_of_mem inPlan)

theorem joinsHold_restricted {numbers : Numbers} :
    Search.JoinsHold numbers (plan.restricted options) rows ↔ plan.JoinsHold numbers rows := by
  constructor
  · intro holds source inPlan among tie member
    have named : source.join.row ∈ rows.map Alias.name := List.mem_map_of_mem among
    exact holds source.join ((mem_joins_restricted named).2 ⟨source, inPlan, among, rfl⟩) named
      tie.fragment (List.mem_map_of_mem member)
  · intro holds join member named condition isCondition
    obtain ⟨source, inPlan, among, rfl⟩ := (mem_joins_restricted named).1 member
    obtain ⟨tie, inTies, rfl⟩ := List.mem_map.1 isCondition
    exact holds source inPlan among tie inTies

end Plan

/-! ### Turn plans -/

namespace Setting

variable (setting : Setting) (columns : List ResolvedColumn)

/-- The source of a column's word. -/
def Block.wordSource (block : Block) : Source :=
  .ofLayer block.word.layer block.word.row
    (.equal block.word.row.turnId Alias.turn.id :: block.ties)

theorem Block.wordSource_mem {block : Block} {blocks : List Block} (member : block ∈ blocks) :
    block.wordSource ∈ blocks.flatMap (Block.sources setting) :=
  List.mem_flatMap.2 ⟨block, member, List.mem_append_left _ (List.mem_cons_self ..)⟩

/-- No other source has the row of a column's word. -/
theorem wordSource_unique {block : Block} (member : block ∈ setting.blocksFrom 0 none columns)
    {source : Source}
    (asked : source ∈ (setting.blocksFrom 0 none columns).flatMap (Block.sources setting))
    (same : source.row = block.word.row) : source = block.wordSource := by
  have once := setting.asksOnce columns
  unfold AsksOnce at once
  simp only [List.filter_map] at once
  have own : (!block.word.row.isShared
      ((setting.blocksFrom 0 none columns).map (·.word.row))) = true := by
    obtain ⟨index, resolved, -, isWord, -⟩ := exists_of_mem_blocksFrom member
    rw [isWord]
    rcases setting.word_cases (0 + index) resolved.found with row | ⟨_, _, row, _⟩ <;>
      rw [row] <;> rfl
  refine List.inj_on_of_nodup_map once (List.mem_filter.2 ⟨asked, ?_⟩)
    (List.mem_filter.2 ⟨Block.wordSource_mem setting member, own⟩) same
  rw [Function.comp_apply, same]
  exact own

theorem mem_joins_plan {source : Source}
    (isWord : source.row ∈ ((setting.blocksFrom 0 none columns).map Block.word).map WordRow.row) :
    source ∈ (setting.plan columns).joins ↔
      ∃ block ∈ setting.blocksFrom 0 none columns, source = block.wordSource := by
  constructor
  · intro joined
    obtain ⟨word, isBlock, row⟩ := List.mem_map.1 isWord
    obtain ⟨block, inBlocks, rfl⟩ := List.mem_map.1 isBlock
    exact ⟨block, inBlocks,
      setting.wordSource_unique columns inBlocks (Source.mem_of_mem_once joined) row.symm⟩
  · rintro ⟨block, inBlocks, rfl⟩
    have asked := Block.wordSource_mem setting inBlocks
    obtain ⟨first, inPlan, row⟩ :=
      List.mem_map.1 (Source.mem_rows_once.2 (List.mem_map_of_mem asked))
    rwa [← setting.wordSource_unique columns inBlocks (Source.mem_of_mem_once inPlan) row]

section Ties

variable {setting} {columns} {start : Nat} {earlier : Option Block}

theorem adjacencies_blocksFrom :
    (setting.blocksFrom start earlier columns).map Block.adjacency =
      columns.map ResolvedColumn.adjacency := by
  induction columns generalizing start earlier with
  | nil => rfl
  | cons resolved rest ih => rw [blocksFrom, List.map_cons, ih, List.map_cons]

theorem ties_head {block : Block}
    (known : (setting.blocksFrom start earlier columns)[0]? = some block) :
    block.ties = earlier.toList.map fun before =>
      .adjacent before.adjacency block.word.row before.word.row := by
  cases columns with
  | nil => contradiction
  | cons resolved rest =>
      obtain rfl := Option.some.inj known
      rfl

theorem ties_succ {index : Nat} {before block : Block}
    (first : (setting.blocksFrom start earlier columns)[index]? = some before)
    (second : (setting.blocksFrom start earlier columns)[index + 1]? = some block) :
    block.ties = [.adjacent before.adjacency block.word.row before.word.row] := by
  induction columns generalizing start earlier index with
  | nil => contradiction
  | cons resolved rest ih =>
      cases index with
      | zero =>
          obtain rfl := Option.some.inj first
          exact ties_head second
      | succ index => exact ih first second

end Ties

variable {columns}

/-- The turn is read first, and so it is not joined. -/
theorem eq_wordSource_of_mem_joins (asked : columns ≠ []) {source : Source}
    (joined : source ∈ (setting.plan columns).joins)
    (among : source.row ∈
      Alias.turn :: ((setting.blocksFrom 0 none columns).map Block.word).map WordRow.row) :
    ∃ block ∈ setting.blocksFrom 0 none columns, source = block.wordSource := by
  rcases List.mem_cons.1 among with isTurn | isWord
  · have turnJoined : Alias.turn ∈ (setting.plan columns).joins.map Source.row :=
      isTurn ▸ List.mem_map_of_mem joined
    exact absurd turnJoined (List.nodup_cons.1 (setting.inScope_plan asked).distinct).1
  · exact (setting.mem_joins_plan columns isWord).1 joined

theorem adjacency_pos (apart : ∀ column ∈ columns, 1 ≤ column.adjacency) {block : Block}
    (member : block ∈ setting.blocksFrom 0 none columns) : 1 ≤ block.adjacency := by
  have adjacencies : (setting.blocksFrom 0 none columns).map Block.adjacency = _ :=
    adjacencies_blocksFrom
  have listed : block.adjacency ∈ columns.map ResolvedColumn.adjacency :=
    adjacencies ▸ List.mem_map_of_mem member
  obtain ⟨column, within, same⟩ := List.mem_map.1 listed
  exact same ▸ apart column within

section Holds

variable {setting} (apart : ∀ column ∈ columns, 1 ≤ column.adjacency) {numbers : Numbers}

include apart

theorem inSuccession_of_ties (asked : columns ≠ [])
    (holds : ∀ block ∈ setting.blocksFrom 0 none columns, ∀ tie ∈ block.wordSource.ties,
      tie.Holds numbers) :
    InSuccession numbers ((setting.blocksFrom 0 none columns).map Block.adjacency)
      ((setting.blocksFrom 0 none columns).map Block.word) := by
  have inTurn {block : Block} (member : block ∈ setting.blocksFrom 0 none columns) :
      ∃ turn, block.word.row.turnId.value? numbers = some turn ∧
        Alias.turn.id.value? numbers = some turn :=
    (Tie.holds_equal (by simp) (by simp)).1 (holds block member _ (List.mem_cons_self ..))
  obtain ⟨resolved, rest, rfl⟩ := List.exists_cons_of_ne_nil asked
  obtain ⟨turn, -, known⟩ := inTurn (List.mem_cons_self ..)
  refine ⟨⟨turn, known, fun word isWord => ?_⟩, fun column between earlier later => ?_⟩
  · obtain ⟨block, member, rfl⟩ := List.mem_map.1 isWord
    obtain ⟨other, ofWord, ofTurn⟩ := inTurn member
    exact ofWord.trans (ofTurn.symm.trans known)
  · simp only [List.getElem?_map, Option.map_eq_some_iff]
    rintro ⟨before, at_, rfl⟩ ⟨same, again, rfl⟩ ⟨block, behind, rfl⟩
    obtain rfl : before = same := Option.some.inj (at_.symm.trans again)
    refine (Tie.holds_adjacent (setting.adjacency_pos apart (List.mem_of_getElem? at_)) _ _).1
      (holds block (List.mem_of_getElem? behind) _ (List.mem_cons_of_mem _ ?_))
    rw [ties_succ at_ behind]
    exact List.mem_singleton_self _

theorem ties_of_inSuccession
    (succession : InSuccession numbers ((setting.blocksFrom 0 none columns).map Block.adjacency)
      ((setting.blocksFrom 0 none columns).map Block.word)) {block : Block}
    (member : block ∈ setting.blocksFrom 0 none columns) :
    ∀ tie ∈ block.wordSource.ties, tie.Holds numbers := by
  obtain ⟨⟨turn, known, same⟩, follows⟩ := succession
  refine List.forall_mem_cons.2 ⟨(Tie.holds_equal (by simp) (by simp)).2
    ⟨turn, same _ (List.mem_map_of_mem member), known⟩, ?_⟩
  obtain ⟨index, at_⟩ := List.getElem?_of_mem member
  cases index with
  | zero =>
      rw [ties_head at_]
      simp
  | succ index =>
      have inside := (List.getElem?_eq_some_iff.1 at_).1
      obtain ⟨before, ahead⟩ : ∃ before,
          (setting.blocksFrom 0 none columns)[index]? = some before :=
        ⟨_, List.getElem?_eq_getElem (by omega)⟩
      rw [ties_succ ahead at_, List.forall_mem_singleton,
        Tie.holds_adjacent (setting.adjacency_pos apart (List.mem_of_getElem? ahead))]
      refine follows index before.adjacency before.word block.word ?_ ?_ ?_ <;> simp [ahead, at_]

end Holds

theorem joinsHold_plan (asked : columns ≠ []) (apart : ∀ column ∈ columns, 1 ≤ column.adjacency)
    (numbers : Numbers) :
    (setting.plan columns).JoinsHold numbers
        (.turn :: ((setting.blocksFrom 0 none columns).map Block.word).map WordRow.row) ↔
      InSuccession numbers (columns.map ResolvedColumn.adjacency)
        ((setting.blocksFrom 0 none columns).map Block.word) := by
  have adjacencies : (setting.blocksFrom 0 none columns).map Block.adjacency = _ :=
    adjacencies_blocksFrom
  rw [← adjacencies]
  constructor
  · intro holds
    refine inSuccession_of_ties apart asked fun block member => ?_
    have isWord : block.wordSource.row ∈
        ((setting.blocksFrom 0 none columns).map Block.word).map WordRow.row :=
      List.mem_map_of_mem (List.mem_map_of_mem member)
    exact holds _ ((setting.mem_joins_plan columns isWord).2 ⟨block, member, rfl⟩)
      (List.mem_cons_of_mem _ isWord)
  · intro succession source joined among
    obtain ⟨block, member, rfl⟩ := setting.eq_wordSource_of_mem_joins asked joined among
    exact ties_of_inSuccession apart succession member

end Setting

/-! ### Chains -/

namespace WordChain

/-- The source of the word behind that of a column. -/
def linkSource (layer : TimedLayer) (column : Nat) (earlier : Link) : Source :=
  .ofLayer layer (.found (column + 1) 0)
    [.equal (Alias.found (column + 1) 0).turnId firstRow.turnId,
      .adjacent earlier.adjacency (.found (column + 1) 0) (.found column 0)]

section

variable {layer : TimedLayer} {confidence : Option Int64} {column : Nat} {earlier : Link}
  {rest : List Link}

theorem linkSource_mem {index : Nat} {before : Link}
    (known : (earlier :: rest)[index]? = some before) (inside : index < rest.length) :
    linkSource layer (column + index) before ∈
      sourcesAfter layer confidence column earlier rest := by
  induction rest generalizing column earlier index with
  | nil => contradiction
  | cons link rest ih =>
      cases index with
      | zero =>
          obtain rfl := Option.some.inj known
          exact List.mem_cons_self ..
      | succ index =>
          have later := @ih (column + 1) link index known (Nat.lt_of_succ_lt_succ inside)
          have place : column + 1 + index = column + (index + 1) := by omega
          rw [place] at later
          exact List.mem_cons_of_mem _ (List.mem_append_right _ later)

theorem sourcesAfter_cases {source : Source}
    (member : source ∈ sourcesAfter layer confidence column earlier rest) :
    (∃ row edge, source.row = .anchor row edge) ∨
      ∃ index before, (earlier :: rest)[index]? = some before ∧ index < rest.length ∧
        source = linkSource layer (column + index) before := by
  induction rest generalizing column earlier with
  | nil => contradiction
  | cons link rest ih =>
      rcases List.mem_cons.1 member with rfl | behind
      · exact .inr ⟨0, earlier, rfl, Nat.succ_pos _, rfl⟩
      · rcases List.mem_append.1 behind with isAnchor | later
        · exact .inl ⟨_, Source.row_of_mem_thresholdAnchors isAnchor⟩
        · refine (ih later).imp_right ?_
          rintro ⟨index, before, known, inside, rfl⟩
          refine ⟨index + 1, before, known, Nat.succ_lt_succ inside, ?_⟩
          have place : column + 1 + index = column + (index + 1) := by omega
          rw [place]

end

/-- The rows of the words of a chain. -/
def words (chain : WordChain) : List WordRow :=
  (List.range chain.links.length).map fun column => ⟨.found column 0, chain.layer⟩

theorem getElem?_words {chain : WordChain} {column : Nat} {word : WordRow} :
    chain.words[column]? = some word ↔
      column < chain.links.length ∧ word = ⟨.found column 0, chain.layer⟩ := by
  rw [words, List.getElem?_map, Option.map_eq_some_iff]
  constructor
  · rintro ⟨index, at_, rfl⟩
    obtain ⟨inside, rfl⟩ := List.getElem?_eq_some_iff.1 at_
    rw [List.getElem_range]
    exact ⟨by simpa using inside, rfl⟩
  · rintro ⟨inside, rfl⟩
    exact ⟨column, List.getElem?_range inside, rfl⟩

theorem anchor_not_word {chain : WordChain} {row : Alias} {edge : Edge} :
    .anchor row edge ∉ Alias.turn :: chain.words.map WordRow.row := by
  simp [words]

section

variable {chain : WordChain} (schema : Schema) (turns : TimedLayer) (confidence : Option Int64)

/-- The source of the turn. -/
def turnSource (turns : TimedLayer) : Source :=
  .ofLayer turns .turn [.equal Alias.turn.id firstRow.turnId]

theorem row_mem_words {column : Nat} (inside : column < chain.links.length) :
    .found column 0 ∈ chain.words.map WordRow.row :=
  List.mem_map_of_mem (List.mem_of_getElem? (getElem?_words.2 ⟨inside, rfl⟩))

/-- The sources of the turn and of the words behind the first. -/
theorem mem_joins_plan {source : Source} :
    source ∈ (chain.plan schema turns confidence).joins ∧
        source.row ∈ Alias.turn :: chain.words.map WordRow.row ↔
      source = turnSource turns ∨
        ∃ index before, chain.links[index]? = some before ∧ index < chain.rest.length ∧
          source = linkSource chain.layer index before := by
  constructor
  · rintro ⟨joined, among⟩
    have noAnchor {row : Alias} {edge : Edge} : source.row ≠ .anchor row edge :=
      fun isAnchor => anchor_not_word (isAnchor ▸ among)
    rcases List.mem_cons.1 joined with isTurn | behind
    · exact .inl isTurn
    · rcases List.mem_append.1 behind with isAnchor | later
      · obtain ⟨edge, row⟩ := Source.row_of_mem_thresholdAnchors isAnchor
        exact absurd row noAnchor
      · rcases sourcesAfter_cases later with
          ⟨row, edge, isAnchor⟩ | ⟨index, before, known, inside, same⟩
        · exact absurd isAnchor noAnchor
        · rw [Nat.zero_add] at same
          exact .inr ⟨index, before, known, inside, same⟩
  · rintro (rfl | ⟨index, before, known, inside, rfl⟩)
    · exact ⟨List.mem_cons_self .., List.mem_cons_self ..⟩
    · have member := @linkSource_mem chain.layer confidence 0 _ _ _ _ known inside
      rw [Nat.zero_add] at member
      exact ⟨List.mem_cons_of_mem _ (List.mem_append_right _ member),
        List.mem_cons_of_mem _ (row_mem_words (Nat.succ_lt_succ inside))⟩

theorem linkSource_holds {numbers : Numbers} {layer : TimedLayer} {column : Nat} {earlier : Link}
    (apart : 1 ≤ earlier.adjacency) :
    (∀ tie ∈ (linkSource layer column earlier).ties, tie.Holds numbers) ↔
      (∃ turn, (Alias.found (column + 1) 0).turnId.value? numbers = some turn ∧
        firstRow.turnId.value? numbers = some turn) ∧
      Follows numbers earlier.adjacency (.found (column + 1) 0) (.found column 0) := by
  rw [← Tie.holds_equal (by simp) (by simp), ← Tie.holds_adjacent apart]
  exact List.forall_mem_cons.trans (and_congr_right' List.forall_mem_singleton)

/-- What the turn and the words behind the first are joined on. -/
theorem joinsHold_iff (apart : ∀ link ∈ chain.links, 1 ≤ link.adjacency) (numbers : Numbers) :
    (chain.plan schema turns confidence).JoinsHold numbers
        (.turn :: chain.words.map WordRow.row) ↔
      (∃ turn, Alias.turn.id.value? numbers = some turn ∧
        firstRow.turnId.value? numbers = some turn) ∧
      ∀ index before, chain.links[index]? = some before → index < chain.rest.length →
        (∃ turn, (Alias.found (index + 1) 0).turnId.value? numbers = some turn ∧
          firstRow.turnId.value? numbers = some turn) ∧
        Follows numbers before.adjacency (.found (index + 1) 0) (.found index 0) := by
  have ofTurn : (∀ tie ∈ (turnSource turns).ties, tie.Holds numbers) ↔ _ :=
    List.forall_mem_singleton.trans (Tie.holds_equal (by simp) (by simp))
  constructor
  · intro holds
    have tied {source : Source} (asked : source = turnSource turns ∨ _) :
        ∀ tie ∈ source.ties, tie.Holds numbers :=
      have ⟨joined, among⟩ := (mem_joins_plan schema turns confidence).2 asked
      holds source joined among
    refine ⟨ofTurn.1 (tied (.inl rfl)), fun index before known inside => ?_⟩
    exact (linkSource_holds (apart before (List.mem_of_getElem? known))).1
      (tied (.inr ⟨index, before, known, inside, rfl⟩))
  · rintro ⟨turn, links⟩ source joined among
    rcases (mem_joins_plan schema turns confidence).1 ⟨joined, among⟩ with
      rfl | ⟨index, before, known, inside, rfl⟩
    · exact ofTurn.2 turn
    · exact (linkSource_holds (apart before (List.mem_of_getElem? known))).2
        (links index before known inside)

theorem joinsHold_plan (apart : ∀ link ∈ chain.links, 1 ≤ link.adjacency) (numbers : Numbers) :
    (chain.plan schema turns confidence).JoinsHold numbers
        (.turn :: chain.words.map WordRow.row) ↔
      InSuccession numbers (chain.links.map Link.adjacency) chain.words := by
  rw [joinsHold_iff schema turns confidence apart]
  constructor
  · rintro ⟨⟨turn, known, ofFirst⟩, links⟩
    refine ⟨⟨turn, known, fun word member => ?_⟩, fun column gap first second => ?_⟩
    · obtain ⟨column, at_⟩ := List.getElem?_of_mem member
      obtain ⟨inside, rfl⟩ := getElem?_words.1 at_
      cases column with
      | zero => exact ofFirst
      | succ column =>
          have before := List.getElem?_eq_getElem (Nat.lt_of_succ_lt inside)
          obtain ⟨⟨other, ofWord, again⟩, -⟩ :=
            links column _ before (Nat.lt_of_succ_lt_succ inside)
          exact ofWord.trans (again.symm.trans ofFirst)
    · simp only [List.getElem?_map, Option.map_eq_some_iff, getElem?_words]
      rintro ⟨before, at_, rfl⟩ ⟨-, rfl⟩ ⟨inside, rfl⟩
      exact (links column before at_ (Nat.lt_of_succ_lt_succ inside)).2
  · rintro ⟨⟨turn, known, same⟩, follows⟩
    have ofWord {column : Nat} (inside : column < chain.links.length) :
        (Alias.found column 0).turnId.value? numbers = some turn :=
      same _ (List.mem_of_getElem? (getElem?_words.2 ⟨inside, rfl⟩))
    have first := ofWord (Nat.succ_pos chain.rest.length)
    refine ⟨⟨turn, known, first⟩, fun index before at_ inside => ?_⟩
    have second := Nat.succ_lt_succ inside
    refine ⟨⟨turn, ofWord second, first⟩, follows index before.adjacency _ _ ?_
      (getElem?_words.2 ⟨Nat.lt_of_succ_lt second, rfl⟩) (getElem?_words.2 ⟨second, rfl⟩)⟩
    rw [List.getElem?_map, at_]
    rfl

end

end WordChain

/-! ### All plans with words -/

/-- A plan has these words, and joins them in succession. -/
structure Plan.HasWords (gaps : List Nat) (words : List WordRow) (plan : Plan) : Prop where
  among : Alias.turn :: words.map WordRow.row ⊆ plan.rows
  inner : ∀ source ∈ plan.joins, source.row ∈ Alias.turn :: words.map WordRow.row →
    source.kind = .inner
  joins : ∀ numbers, plan.JoinsHold numbers (.turn :: words.map WordRow.row) ↔
    InSuccession numbers gaps words

theorem Setting.hasWords_plan (setting : Setting) {columns : List ResolvedColumn}
    (asked : columns ≠ []) (apart : ∀ column ∈ columns, 1 ≤ column.adjacency) :
    (setting.plan columns).HasWords (columns.map ResolvedColumn.adjacency)
      ((setting.blocksFrom 0 none columns).map Block.word) where
  among := by
    refine List.cons_subset.2 ⟨List.mem_cons_self .., fun row isWord => ?_⟩
    obtain ⟨word, isBlock, rfl⟩ := List.mem_map.1 isWord
    obtain ⟨block, member, rfl⟩ := List.mem_map.1 isBlock
    exact List.mem_cons_of_mem _ (List.mem_map_of_mem
      ((setting.mem_joins_plan columns isWord).2 ⟨block, member, rfl⟩))
  inner := by
    intro source joined among
    obtain ⟨block, -, rfl⟩ := setting.eq_wordSource_of_mem_joins asked joined among
    rfl
  joins := setting.joinsHold_plan asked apart

theorem WordChain.hasWords_plan {chain : WordChain}
    (apart : ∀ link ∈ chain.links, 1 ≤ link.adjacency) (schema : Schema) (turns : TimedLayer)
    (confidence : Option Int64) :
    (chain.plan schema turns confidence).HasWords (chain.links.map Link.adjacency)
      chain.words where
  among := by
    refine List.cons_subset.2 ⟨List.mem_cons_of_mem _ (List.mem_cons_self ..), fun row isWord => ?_⟩
    obtain ⟨word, listed, rfl⟩ := List.mem_map.1 isWord
    obtain ⟨column, at_⟩ := List.getElem?_of_mem listed
    obtain ⟨inside, rfl⟩ := getElem?_words.1 at_
    exact found_mem_plan _ _ _ _ inside
  inner := by
    intro source joined among
    rcases (mem_joins_plan schema turns confidence).1 ⟨joined, among⟩ with
      rfl | ⟨index, before, -, -, rfl⟩ <;> rfl
  joins := joinsHold_plan schema turns confidence apart

/-- Every search that is no scan has one word for each column, and joins them in succession. -/
theorem hasWords_planOf {schema : Schema} {linked : String → Bool} {confidence : Option Int64}
    {matrix : Matrix} {columns : List ResolvedColumn} {plan : Plan}
    (resolved : matrix.resolve schema = .ok columns)
    (planned : planOf schema linked confidence columns
      (ResolvedColumn.strategy schema linked columns) = .ok plan)
    (noScan : ∀ found, ResolvedColumn.strategy schema linked columns ≠ .spanScan found) :
    ∃ setting : Setting, columnWords schema columns =
        (columns.zipIdx.map fun (resolved, index) => setting.word index resolved.found) ∧
      plan.HasWords (columns.map ResolvedColumn.adjacency) (columnWords schema columns) := by
  have asked := Matrix.columns_ne_nil_of_resolve resolved
  have apart : ∀ column ∈ columns, 1 ≤ column.adjacency := by
    rw [Matrix.columns_of_resolve resolved, List.forall_mem_map]
    exact (Matrix.isValid_of_resolve resolved).apart
  rcases planOf_inTime planned with ⟨found, chosen, -⟩ |
    ⟨setting, inTime, rfl, -, -, ⟨chain, chosen, rfl⟩ | ⟨-, rfl⟩⟩
  · exact absurd chosen (noScan found)
  · have isChain := ResolvedColumn.chain?_of_strategy chosen
    refine ⟨setting, ?_, ?_⟩
    · rw [← setting.words_blocks inTime.words, Setting.words_blocksFrom]
    · obtain ⟨rfl, -, -⟩ := ResolvedColumn.chain?_spec isChain
      have listed : columnWords setting.schema (chain.links.map Link.column) = chain.words := by
        rw [← setting.words_blocks inTime.words, WordChain.words]
        exact Setting.wordRows_plan_links (fun _ => scope_eq_of_chain? resolved isChain)
          fun _ => layer_eq_of_chain? resolved isChain
      rw [listed, List.map_map]
      refine WordChain.hasWords_plan (fun link member => ?_) _ _ _
      exact apart _ (List.mem_map_of_mem member)
  · refine ⟨setting, ?_, ?_⟩
    · rw [← setting.words_blocks inTime.words, Setting.words_blocksFrom]
    · rw [← setting.words_blocks inTime.words]
      exact setting.hasWords_plan asked apart

/-! ### Statements -/

theorem Plan.HasWords.restricted {plan : Plan} {gaps : List Nat} {words : List WordRow}
    (has : plan.HasWords gaps words) (inScope : plan.InScope) (options : Options) :
    (∀ row ∈ Alias.turn :: words.map WordRow.row,
      (plan.restricted options).rows.count row.name = 1) ∧
    ∀ join ∈ (plan.restricted options).joins,
      join.row ∈ (Alias.turn :: words.map WordRow.row).map Alias.name → join.kind = .inner := by
  refine ⟨fun row among => inScope.count_name options (has.among among),
    fun join member named => ?_⟩
  obtain ⟨source, inPlan, among, rfl⟩ := (mem_joins_restricted named).1 member
  exact has.inner source inPlan among

/-- Each column has its word at its own place. -/
theorem columnWords_spec {schema : Schema} {matrix : Matrix}
    {columns : List ResolvedColumn} (resolved : matrix.resolve schema = .ok columns)
    {setting : Setting} (listed : columnWords schema columns =
      columns.zipIdx.map fun (resolved, index) => setting.word index resolved.found) :
    (columnWords schema columns).length = matrix.columns.length ∧
    ∀ (column : Nat) (word : WordRow), (columnWords schema columns)[column]? = some word →
      word.row.column? = some column := by
  rw [listed]
  constructor
  · rw [List.length_map, List.length_zipIdx, Matrix.columns_of_resolve resolved, List.length_map]
  · intro column word known
    simp only [List.getElem?_map, List.getElem?_zipIdx, Option.map_eq_some_iff, Nat.zero_add]
      at known
    obtain ⟨entry, ⟨found, -, rfl⟩, rfl⟩ := known
    exact setting.column?_word column _

/-- A search that is no scan has one word for each column.  Its joins of the turn and of these
words are met if and only if the words are in one turn, each of them behind the one before it
and no further than the gap between their columns may be.  From the first word to the last, as
between any two, there are then as many places as there are columns in between, or up to as
many as the gaps come to.  How far off a column behind the last might be is not asked. -/
theorem words_in_succession {schema : Schema} {linked : String → Bool} {options : Options}
    {matrix : Matrix} {statement : Select}
    (selected : matrix.select schema linked options = .ok statement)
    (noScan : ∀ found, matrix.strategy schema linked ≠ .ok (.spanScan found)) :
    ∃ words : List WordRow,
      (∃ columns, matrix.resolve schema = .ok columns ∧ words = columnWords schema columns) ∧
      HasWords matrix.columns words statement ∧
      (∀ numbers, JoinsHold numbers statement (.turn :: words.map WordRow.row) ↔
        InSuccession numbers (matrix.columns.map Column.adjacency) words) ∧
      (∀ numbers, InSuccession numbers (matrix.columns.map Column.adjacency) words →
        ∀ (start count : Nat) (first last : WordRow), words[start]? = some first →
          words[start + count + 1]? = some last →
          ∃ place next, first.row.ordinalInTurn.value? numbers = some place ∧
            last.row.ordinalInTurn.value? numbers = some next ∧
            place + (count + 1 : Nat) ≤ next ∧
            next ≤ place +
              (((matrix.columns.map Column.adjacency).drop start).take (count + 1)).sum) ∧
      ∀ (columns : List Column) (last : Column) (adjacency : Nat),
        matrix.columns = columns ++ [last] → 1 ≤ adjacency →
        (⟨columns ++ [{ last with adjacency }]⟩ : Matrix).select schema linked options =
          .ok statement := by
  obtain ⟨columns, plan, resolved, planned, rfl⟩ := Matrix.plan_of_select selected
  have other : ∀ found, ResolvedColumn.strategy schema linked columns ≠ .spanScan found := by
    intro found chosen
    refine noScan found ?_
    simp only [Matrix.strategy, resolved, bind, Except.bind, pure, Except.pure, chosen]
  obtain ⟨setting, listed, has⟩ := hasWords_planOf resolved planned other
  obtain ⟨each, own⟩ := columnWords_spec resolved listed
  have inScope := inScope_planOf (Matrix.columns_ne_nil_of_resolve resolved) planned
  obtain ⟨once, inner⟩ := has.restricted inScope options
  have gaps : columns.map ResolvedColumn.adjacency = matrix.columns.map Column.adjacency := by
    rw [Matrix.columns_of_resolve resolved, List.map_map]
    rfl
  rw [gaps] at has
  refine ⟨_, ⟨columns, resolved, rfl⟩, ⟨each, own, once, inner⟩, fun numbers => ?_,
    fun numbers succession start count first last => ?_, fun others last adjacency same apart => ?_⟩
  · rw [Plan.joinsHold_restricted, has.joins]
  · exact succession.spread (by rw [each, List.length_map]) start count
  · obtain rfl : matrix = ⟨others ++ [last]⟩ := congrArg Matrix.mk same
    exact Matrix.select_last selected apart

/-- The second word is two places behind the first. -/
theorem aroundWords_in_succession : ∃ statement words,
    AroundWords.matrix.select AroundWords.schema AroundWords.linked AroundWords.options =
      .ok statement ∧
    HasWords AroundWords.matrix.columns words statement ∧
    JoinsHold (fun row column => if column = "ordinal_in_turn" then
        if row = "search_0_0" then some 3 else some 5 else some 7)
      statement (.turn :: words.map WordRow.row) := by
  obtain ⟨words, ⟨columns, resolved, rfl⟩, has, holds, -, -⟩ := @words_in_succession
    AroundWords.schema AroundWords.linked AroundWords.options AroundWords.matrix _ rfl
    (fun found same => by cases show Except.ok Strategy.general = _ from same)
  obtain rfl := Except.ok.inj (show Except.ok _ = Except.ok columns from resolved)
  refine ⟨_, _, rfl, has, (holds _).2 ⟨⟨7, rfl, by decide⟩, ?_⟩⟩
  intro column gap earlier later hasGap first second
  match column with
  | 0 =>
      obtain rfl := Option.some.inj hasGap
      obtain rfl := Option.some.inj first
      obtain rfl := Option.some.inj second
      exact ⟨3, 5, rfl, rfl, by decide, by decide⟩
  | column + 1 => exact absurd second nofun

end CorpusQuery.Search
