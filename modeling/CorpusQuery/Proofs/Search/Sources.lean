import Mathlib.Data.List.Nodup
import CorpusQuery.Proofs.Schema.Construction
import CorpusQuery.Proofs.Search.Resolution

namespace CorpusQuery.Search

/-! The rows that the parts of a turn plan bring in.  Most sources have a row of
their own.  Only the anchors of a column's word, the words next to it and the anchors
of these are asked for by several matches, and are joined for the first of them. -/

namespace Source

/-! ### Each row once -/

theorem mem_rows_addOnce {added : List Source} {source : Source} {row : Alias} :
    row ∈ (addOnce added source).map Source.row ↔
      row ∈ added.map Source.row ∨ row = source.row := by
  unfold addOnce
  split
  · rename_i present
    obtain ⟨earlier, member, same⟩ := List.any_eq_true.1 present
    have known : source.row ∈ added.map Source.row :=
      eq_of_beq same ▸ List.mem_map_of_mem member
    exact ⟨.inl, fun either => either.elim id fun isLast => isLast ▸ known⟩
  · simp

theorem nodup_rows_addOnce {added : List Source} (distinct : (added.map Source.row).Nodup)
    (source : Source) : ((addOnce added source).map Source.row).Nodup := by
  unfold addOnce
  split
  · exact distinct
  · rename_i absent
    have fresh : source.row ∉ added.map Source.row := by simpa using absent
    rw [List.map_append]
    exact distinct.append (List.nodup_singleton _) (by simpa using fresh)

theorem mem_of_mem_addOnce {added : List Source} {source other : Source}
    (member : other ∈ addOnce added source) : other ∈ added ∨ other = source := by
  unfold addOnce at member
  split at member
  · exact .inl member
  · simpa using member

theorem mem_rows_once {sources : List Source} {row : Alias} :
    row ∈ (once sources).map Source.row ↔ row ∈ sources.map Source.row := by
  have added (sources added : List Source) : row ∈ (sources.foldl addOnce added).map Source.row ↔
      row ∈ added.map Source.row ∨ row ∈ sources.map Source.row := by
    induction sources generalizing added with
    | nil => simp
    | cons source rest ih =>
        rw [List.foldl_cons, ih, mem_rows_addOnce, List.map_cons, List.mem_cons, or_assoc]
  exact (added sources []).trans (by simp)

theorem nodup_rows_once (sources : List Source) : ((once sources).map Source.row).Nodup := by
  have added (sources : List Source) {added : List Source}
      (distinct : (added.map Source.row).Nodup) :
      ((sources.foldl addOnce added).map Source.row).Nodup := by
    induction sources generalizing added with
    | nil => exact distinct
    | cons source rest ih => exact ih (nodup_rows_addOnce distinct source)
  exact added sources (by simp)

theorem mem_of_mem_once {sources : List Source} {source : Source}
    (member : source ∈ once sources) : source ∈ sources := by
  have added (sources added : List Source) (member : source ∈ sources.foldl addOnce added) :
      source ∈ added ∨ source ∈ sources := by
    induction sources generalizing added with
    | nil => exact .inl member
    | cons first rest ih =>
        rcases ih _ member with before | behind
        · exact (mem_of_mem_addOnce before).imp_right (by simp +contextual)
        · exact .inr (List.mem_cons_of_mem _ behind)
  exact (added sources [] member).resolve_left (by simp)

end Source

/-! ### Matches -/

namespace Setting

variable {setting : Setting}

/-- Whether the match is an annotation that the word starts in, found by the places
of anchors. -/
def covers (setting : Setting) (found : ResolvedMatch) : Bool :=
  match found.scope with
  | .phrase =>
      setting.schema.plays .utterance found.layer.id ||
        !(found.wanted.isAnchored && setting.linked found.layer.id)
  | .span => !(found.wanted.isAnchored && setting.linked found.layer.id)
  | _ => false

/-- The words beside a column's word that bound an utterance, with their anchors. -/
def neighbours (setting : Setting) (column : Nat) (found : ResolvedMatch) : List Alias :=
  if found.scope = .phrase ∧ setting.schema.plays .utterance found.layer.id then
    (if found.wanted.anchoredStart then
      [.previous column, .anchor (.previous column) .start]
    else []) ++
    (if found.wanted.anchoredEnd then [.next column, .anchor (.next column) .start] else [])
  else []

/-- The rows that a match brings in. -/
def rows (setting : Setting) (column place : Nat) (word : WordRow) (found : ResolvedMatch) :
    List Alias :=
  let row := Alias.found column place
  if word.row = row then []
  else if setting.schema.plays .turn found.layer.id then
    if found.wanted.anchoredEnd then [.next column] else []
  else if setting.covers found then
    .anchor word.row .start :: row :: .anchor row .start :: .anchor row .stop ::
      setting.neighbours column found
  else [row]

theorem rows_intervalPart (word : WordRow) (found : ResolvedMatch) (row : Alias)
    (tie otherTie : Tie) :
    (setting.intervalPart word found row tie otherTie).sources.map Source.row =
      if found.wanted.isAnchored && setting.linked found.layer.id then [row]
      else [.anchor word.row .start, row, .anchor row .start, .anchor row .stop] := by
  unfold intervalPart
  split <;> rfl

theorem rows_part (column place : Nat) (word : WordRow) (earlier : Option Alias)
    (found : ResolvedMatch) :
    (setting.part column place word earlier found).sources.map Source.row =
      setting.rows column place word found := by
  change (setting.structuralPart column place word earlier found).sources.map Source.row = _
  unfold structuralPart rows covers neighbours
  simp only
  split
  · rfl
  · split
    · unfold turnPart
      cases found.wanted.anchoredEnd <;> rfl
    · cases found.scope with
      | word => rfl
      | segment => rfl
      | phrase =>
          cases utterance : setting.schema.plays .utterance found.layer.id with
          | true =>
              cases atStart : found.wanted.anchoredStart <;>
                cases atEnd : found.wanted.anchoredEnd <;>
                simp [utterancePart, covering, atStart, atEnd, previousWord, nextWord, startIfAny,
                  Source.anchor, Source.ofLayer]
          | false =>
              simp only [Bool.false_eq_true, if_false, rows_intervalPart]
              cases found.wanted.isAnchored && setting.linked found.layer.id <;> simp
      | span =>
          simp only [rows_intervalPart]
          cases found.wanted.isAnchored && setting.linked found.layer.id <;> simp

/-! ### Columns -/

/-- The word of a column is a row of its own, or that of a match on a layer of words. -/
theorem word_cases (column : Nat) (found : List ResolvedMatch) :
    (setting.word column found).row = .word column ∨
      ∃ place item, (setting.word column found).row = .found column place ∧
        found[place]? = some item ∧ item.scope = .word := by
  have fromPlace (start : Nat) : ∀ word ∈ foundWord? column start found,
      ∃ index item, word.row = .found column (start + index) ∧ found[index]? = some item ∧
        item.scope = .word := by
    induction found generalizing start with
    | nil => simp [foundWord?]
    | cons first rest ih =>
        intro word known
        unfold foundWord? at known
        split at known
        · rename_i isWord
          cases known
          exact ⟨0, first, rfl, rfl, isWord⟩
        · obtain ⟨index, item, row, place, isWord⟩ := ih (start + 1) word known
          exact ⟨index + 1, item, by rw [row, Nat.add_right_comm, Nat.add_assoc], place, isWord⟩
  unfold word
  cases known : foundWord? column 0 found with
  | none => exact .inl rfl
  | some word =>
      obtain ⟨index, item, row, place, isWord⟩ := fromPlace 0 word known
      exact .inr ⟨index, item, by simpa using row, place, isWord⟩

/-- The rows that a column brings in, in the order in which they are asked for. -/
def columnRows (setting : Setting) (column : Nat) (found : List ResolvedMatch) : List Alias :=
  let word := setting.word column found
  word.row :: (Source.thresholdAnchors setting.confidence word.row).map Source.row ++
    found.zipIdx.flatMap fun (item, place) => setting.rows column place word item

theorem rows_partsFrom (column : Nat) (word : WordRow) (place : Nat) (earlier : Option Alias)
    (found : List ResolvedMatch) :
    ((setting.partsFrom column word place earlier found).flatMap Part.sources).map Source.row =
      (found.zipIdx place).flatMap fun (item, place) => setting.rows column place word item := by
  induction found generalizing place earlier with
  | nil => rfl
  | cons first rest ih =>
      rw [partsFrom, List.flatMap_cons, List.map_append, rows_part, ih, List.zipIdx_cons,
        List.flatMap_cons]

theorem rows_blocksFrom (column : Nat) (earlier : Option Block) (columns : List ResolvedColumn) :
    ((setting.blocksFrom column earlier columns).flatMap (Block.sources setting)).map Source.row =
      (columns.zipIdx column).flatMap fun (resolved, index) =>
        setting.columnRows index resolved.found := by
  induction columns generalizing column earlier with
  | nil => rfl
  | cons resolved rest ih =>
      rw [blocksFrom, List.flatMap_cons, List.map_append, ih, List.zipIdx_cons, List.flatMap_cons,
        Block.sources, List.map_append, rows_partsFrom]
      rfl

theorem words_blocksFrom (column : Nat) (earlier : Option Block) (columns : List ResolvedColumn) :
    (setting.blocksFrom column earlier columns).map Block.word =
      (columns.zipIdx column).map fun (resolved, index) => setting.word index resolved.found := by
  induction columns generalizing column earlier with
  | nil => rfl
  | cons resolved rest ih =>
      rw [blocksFrom, List.map_cons, ih, List.zipIdx_cons, List.map_cons]

end Setting

/-! ### Rows that are asked for once -/

namespace Alias

def isNeighbour : Alias → Bool
  | .next _ | .previous _ => true
  | _ => false

/-- Whether several matches may ask for the row, where `words` are the rows of the
columns' words. -/
def isShared (words : List Alias) : Alias → Bool
  | .anchor row _ => words.contains row || row.isNeighbour
  | row => row.isNeighbour

theorem isShared_of_mem {words : List Alias} {word row : Alias} (within : word ∈ words)
    (shared : row.isShared [word]) : row.isShared words := by
  cases row with
  | anchor inner edge =>
      simp only [isShared, List.contains_eq_mem, List.mem_singleton, Bool.or_eq_true,
        decide_eq_true_eq] at shared ⊢
      exact shared.imp_left fun same : inner = word => same ▸ within
  | _ => exact shared

/-- The match that a row, or the annotation that an anchor belongs to, was found by. -/
def origin? : Alias → Option (Nat × Nat)
  | .found column place => some (column, place)
  | .anchor row _ => row.origin?
  | _ => none

def column? : Alias → Option Nat
  | .found column _ | .word column | .next column | .previous column => some column
  | .anchor row _ => row.column?
  | _ => none

end Alias

/-- Entries of one list at different places are told apart. -/
theorem nodup_flatMap_zipIdx {items : List α} {start : Nat} {rows : α × Nat → List β}
    (mark : β → Option γ) (key : Nat → γ) (injective : Function.Injective key)
    (each : ∀ entry ∈ items.zipIdx start, (rows entry).Nodup)
    (marked : ∀ entry ∈ items.zipIdx start, ∀ row ∈ rows entry, mark row = some (key entry.2)) :
    ((items.zipIdx start).flatMap rows).Nodup := by
  rw [List.nodup_flatMap]
  refine ⟨each, ?_⟩
  have apart : (items.zipIdx start).Pairwise fun left right => left.2 ≠ right.2 := by
    have indices : ((items.zipIdx start).map Prod.snd).Nodup := by
      rw [List.zipIdx_map_snd]
      exact List.nodup_range'
    exact List.pairwise_map.1 indices
  refine apart.imp_of_mem fun {left right} inLeft inRight different row first second => ?_
  have same := (marked left inLeft row first).symm.trans (marked right inRight row second)
  exact different (injective (Option.some.inj same))

namespace Setting

variable {setting : Setting}

/-- The rows that a match alone asks for. -/
def ownRows (setting : Setting) (column place : Nat) (word : WordRow) (found : ResolvedMatch) :
    List Alias :=
  let row := Alias.found column place
  if word.row = row ∨ setting.schema.plays .turn found.layer.id then []
  else if setting.covers found then [row, .anchor row .start, .anchor row .stop]
  else [row]

theorem ownRows_cases {column place : Nat} {word : WordRow} {found : ResolvedMatch} {row : Alias}
    (member : row ∈ setting.ownRows column place word found) :
    word.row ≠ .found column place ∧
      (row = .found column place ∨ ∃ edge, row = .anchor (.found column place) edge) := by
  unfold ownRows at member
  simp only at member
  split at member
  · contradiction
  · rename_i other
    refine ⟨fun same => other (.inl same), ?_⟩
    split at member
    · simp only [List.mem_cons, List.not_mem_nil, or_false] at member
      rcases member with rfl | rfl | rfl
      · exact .inl rfl
      · exact .inr ⟨_, rfl⟩
      · exact .inr ⟨_, rfl⟩
    · exact .inl (List.mem_singleton.1 member)

theorem nodup_ownRows (column place : Nat) (word : WordRow) (found : ResolvedMatch) :
    (setting.ownRows column place word found).Nodup := by
  unfold ownRows
  simp only
  split
  · simp
  · split <;> simp

theorem filter_rows (column place : Nat) (word : WordRow) (found : ResolvedMatch) :
    (setting.rows column place word found).filter (!·.isShared [word.row]) =
      setting.ownRows column place word found := by
  unfold rows ownRows neighbours
  by_cases isWord : word.row = .found column place
  · simp [isWord]
  · have other : Alias.found column place ≠ word.row := fun same => isWord same.symm
    cases setting.schema.plays .turn found.layer.id with
    | true => cases found.wanted.anchoredEnd <;> simp [isWord, Alias.isShared, Alias.isNeighbour]
    | false =>
        cases setting.covers found with
        | false => simp [isWord, Alias.isShared, Alias.isNeighbour]
        | true =>
            by_cases utterance : found.scope = .phrase ∧
                setting.schema.plays .utterance found.layer.id <;>
              cases found.wanted.anchoredStart <;> cases found.wanted.anchoredEnd <;>
              simp [isWord, other, utterance, Alias.isShared, Alias.isNeighbour]

/-- All rows that are asked for once in a column. -/
def ownColumnRows (setting : Setting) (column : Nat) (found : List ResolvedMatch) : List Alias :=
  let word := setting.word column found
  word.row :: found.zipIdx.flatMap fun (item, place) => setting.ownRows column place word item

theorem filter_columnRows (column : Nat) (found : List ResolvedMatch) :
    (setting.columnRows column found).filter
        (!·.isShared [(setting.word column found).row]) =
      setting.ownColumnRows column found := by
  unfold columnRows ownColumnRows
  simp only
  have own :
      (setting.word column found).row.isShared [(setting.word column found).row] = false := by
    rcases setting.word_cases column found with same | ⟨place, _, same, _⟩ <;> rw [same] <;> rfl
  have anchors : ((Source.thresholdAnchors setting.confidence (setting.word column found).row).map
      Source.row).filter (!·.isShared [(setting.word column found).row]) = [] := by
    cases setting.confidence <;> simp [Source.thresholdAnchors, Source.anchor, Alias.isShared]
  rw [List.filter_append, List.filter_cons_of_pos (by simp [own]), anchors, List.filter_flatMap]
  simp only [filter_rows]
  rfl

theorem column?_word (column : Nat) (found : List ResolvedMatch) :
    (setting.word column found).row.column? = some column := by
  rcases setting.word_cases column found with same | ⟨place, _, same, _⟩ <;> rw [same] <;> rfl

theorem column?_of_mem_rows {column place : Nat} {word : WordRow} {found : ResolvedMatch}
    (ofWord : word.row.column? = some column) {row : Alias}
    (member : row ∈ setting.rows column place word found) : row.column? = some column := by
  have all : ∀ row ∈ setting.rows column place word found, row.column? = some column := by
    unfold rows neighbours
    simp only
    split
    · simp
    · split
      · split <;> simp [Alias.column?]
      · split
        · split
          · split <;> split <;> simp [Alias.column?, ofWord]
          · simp [Alias.column?, ofWord]
        · simp [Alias.column?]
  exact all row member

/-- A column brings in rows of its own only. -/
theorem column?_of_mem_columnRows {column : Nat} {found : List ResolvedMatch} {row : Alias}
    (member : row ∈ setting.columnRows column found) : row.column? = some column := by
  have ofWord := setting.column?_word column found
  rcases List.mem_append.1 member with ofWordSources | inMatch
  · rcases List.mem_cons.1 ofWordSources with rfl | isAnchor
    · exact ofWord
    · unfold Source.thresholdAnchors at isAnchor
      split at isAnchor
      · simp only [Source.anchor, List.map_cons, List.map_nil, List.mem_cons, List.not_mem_nil,
          or_false] at isAnchor
        rcases isAnchor with rfl | rfl <;> exact ofWord
      · contradiction
  · obtain ⟨entry, -, inside⟩ := List.mem_flatMap.1 inMatch
    exact column?_of_mem_rows ofWord inside

theorem nodup_flatMap_ownRows (column : Nat) (word : WordRow) (found : List ResolvedMatch) :
    (found.zipIdx.flatMap fun (item, place) => setting.ownRows column place word item).Nodup := by
  refine nodup_flatMap_zipIdx Alias.origin? (column, ·) (fun _ _ same => (Prod.mk.inj same).2)
    (fun entry _ => nodup_ownRows ..) ?_
  intro entry _ row inside
  obtain ⟨-, rfl | ⟨edge, rfl⟩⟩ := ownRows_cases inside <;> rfl

theorem nodup_ownColumnRows (column : Nat) (found : List ResolvedMatch) :
    (setting.ownColumnRows column found).Nodup := by
  refine List.nodup_cons.2 ⟨fun member => ?_, nodup_flatMap_ownRows ..⟩
  obtain ⟨⟨item, place⟩, -, inside⟩ := List.mem_flatMap.1 member
  obtain ⟨other, same | ⟨edge, same⟩⟩ := ownRows_cases inside
  · exact other same
  · rcases setting.word_cases column found with word | ⟨place, _, word, _⟩ <;>
      rw [word] at same <;> contradiction

theorem columnRows_of_mem_own {column : Nat} {found : List ResolvedMatch} {row : Alias}
    (member : row ∈ setting.ownColumnRows column found) :
    row ∈ setting.columnRows column found := by
  rw [← filter_columnRows] at member
  exact (List.mem_filter.1 member).1

theorem nodup_flatMap_ownColumnRows (columns : List ResolvedColumn) (start : Nat) :
    ((columns.zipIdx start).flatMap fun (resolved, index) =>
      setting.ownColumnRows index resolved.found).Nodup :=
  nodup_flatMap_zipIdx Alias.column? id Function.injective_id
    (fun _ _ => nodup_ownColumnRows _ _)
    fun _ _ _ inside => column?_of_mem_columnRows (columnRows_of_mem_own inside)

/-- No row is asked for twice unless it is looked for before it is joined. -/
def AsksOnce (setting : Setting) (columns : List ResolvedColumn) : Prop :=
  let blocks := setting.blocksFrom 0 none columns
  (((blocks.flatMap (Block.sources setting)).map Source.row).filter
    (!·.isShared (blocks.map (·.word.row)))).Nodup

theorem asksOnce (setting : Setting) (columns : List ResolvedColumn) :
    setting.AsksOnce columns := by
  unfold AsksOnce
  intro blocks
  have words : blocks.map Block.word =
      columns.zipIdx.map fun (resolved, index) => setting.word index resolved.found :=
    words_blocksFrom 0 none columns
  have ofColumn : ∀ entry ∈ columns.zipIdx,
      (setting.columnRows entry.2 entry.1.found).filter (!·.isShared (blocks.map (·.word.row))) =
        (setting.ownColumnRows entry.2 entry.1.found).filter
          (!·.isShared (blocks.map (·.word.row))) := by
    rintro ⟨resolved, index⟩ member
    have isWord : setting.word index resolved.found ∈ blocks.map Block.word :=
      words ▸ List.mem_map.2 ⟨_, member, rfl⟩
    obtain ⟨block, inBlocks, same⟩ := List.mem_map.1 isWord
    have within : (setting.word index resolved.found).row ∈ blocks.map (·.word.row) :=
      List.mem_map.2 ⟨block, inBlocks, congrArg WordRow.row same⟩
    rw [← filter_columnRows, List.filter_filter]
    refine List.filter_congr fun row _ => ?_
    cases shared : row.isShared [(setting.word index resolved.found).row] with
    | false => simp
    | true => simp [Alias.isShared_of_mem within shared]
  rw [rows_blocksFrom, List.filter_flatMap, List.flatMap_congr ofColumn, ← List.filter_flatMap]
  exact (nodup_flatMap_ownColumnRows columns 0).filter _

end Setting

/-! ### Annotations around two words -/

namespace AroundWords

def schema : Schema :=
  .ofEntries
    [⟨{ Layer.ofId "turn" with tableId := some 11, alignment := .interval },
        .temporal .phrase 11⟩,
      ⟨{ Layer.ofId "utterance" with
          parentId := some "turn", tableId := some 12, alignment := .interval },
        .temporal .phrase 12⟩,
      ⟨{ Layer.ofId "word" with
          parentId := some "turn", tableId := some 0, alignment := .interval },
        .temporal .word 0⟩,
      ⟨{ Layer.ofId "clause" with
          parentId := some "turn", tableId := some 8, alignment := .interval },
        .temporal .phrase 8⟩,
      ⟨{ Layer.ofId "topic" with tableId := some 30, alignment := .interval },
        .temporal .span 30⟩]
    { turn := some "turn", utterance := some "utterance", word := some "word" }

/-- Topics start and end with words. -/
def linked (layer : String) : Bool :=
  layer == "topic"

/-- Both the turn and the utterance ask for the word after the first one. -/
def matrix : Matrix :=
  ⟨[⟨[{ id := "word", pattern := some "a|the" }, { id := "turn", anchoredEnd := true },
        { id := "utterance", anchoredStart := true, anchoredEnd := true },
        { id := "topic", anchoredStart := true }], 2⟩,
      ⟨[{ id := "topic", max := some (.zero false), negated := true },
        { id := "clause", anchoredEnd := true, target := true }], 1⟩]⟩

def options : Options :=
  { searchId := 9
    minConfidence := some 50
    mainParticipantOnly := true
    transcripts := some [.given "SELECT ag_id FROM transcript WHERE name = ?" [.text "t1"]]
    access := some (.user "u1") }

end AroundWords

end CorpusQuery.Search
