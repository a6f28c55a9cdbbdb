import Mathlib.Data.List.Nodup
import CorpusQuery.Proofs.Search.Names
import CorpusQuery.Proofs.Search.Resolution

namespace CorpusQuery.Search

/-! The turn plan of the columns of a word chain: each column has its match as its
word and nothing besides. -/

open Sql

/-! ### Sources with rows of their own -/

namespace Source

theorem foldl_addOnce (added : List Source) {sources : List Source}
    (distinct : ((added ++ sources).map row).Nodup) :
    sources.foldl addOnce added = added ++ sources := by
  induction sources generalizing added with
  | nil => simp
  | cons source rest ih =>
      have fresh : added.any (·.row == source.row) = false := by
        rw [List.any_eq_false]
        intro earlier member same
        rw [List.map_append, List.map_cons, List.nodup_append] at distinct
        exact distinct.2.2 _ (List.mem_map_of_mem member) _ (List.mem_cons_self ..)
          (by simpa using same)
      rw [List.foldl_cons, addOnce, if_neg (by simp [fresh]), ih _ (by simpa using distinct)]
      simp

theorem once_eq_self {sources : List Source} (distinct : (sources.map row).Nodup) :
    once sources = sources := by
  simpa [once] using foldl_addOnce [] (by simpa using distinct)

theorem row_of_mem_thresholdAnchors {confidence : Option Int64} {row : Alias} {source : Source}
    (member : source ∈ thresholdAnchors confidence row) : ∃ edge, source.row = .anchor row edge := by
  unfold thresholdAnchors at member
  split at member
  · rcases List.mem_cons.1 member with rfl | last
    · exact ⟨.start, rfl⟩
    · obtain rfl := List.mem_singleton.1 last
      exact ⟨.stop, rfl⟩
  · contradiction

end Source

/-! ### Blocks -/

/-- The rows that a word of a chain brings in: its own, and its anchors if there is a
threshold for them. -/
def linkRows (confidence : Option Int64) (column : Nat) : List Alias :=
  .found column 0 :: (Source.thresholdAnchors confidence (.found column 0)).map Source.row

theorem mem_linkRows {confidence : Option Int64} {column : Nat} {row : Alias}
    (member : row ∈ linkRows confidence column) :
    row = .found column 0 ∨ ∃ edge, row = .anchor (.found column 0) edge := by
  rcases List.mem_cons.1 member with rfl | anchor
  · exact .inl rfl
  · obtain ⟨source, within, rfl⟩ := List.mem_map.1 anchor
    exact .inr (Source.row_of_mem_thresholdAnchors within)

theorem nodup_linkRows (confidence : Option Int64) (column : Nat) :
    (linkRows confidence column).Nodup := by
  cases confidence <;> simp [linkRows, Source.thresholdAnchors, Source.anchor]

/-- No row belongs to two columns. -/
theorem nodup_flatMap_linkRows (confidence : Option Int64) {columns : List Nat}
    (distinct : columns.Nodup) : (columns.flatMap (linkRows confidence)).Nodup := by
  rw [List.nodup_flatMap]
  refine ⟨fun column _ => nodup_linkRows confidence column, distinct.imp ?_⟩
  intro left right different row inLeft inRight
  rcases mem_linkRows inLeft with rfl | ⟨edge, rfl⟩ <;>
    rcases mem_linkRows inRight with same | ⟨other, same⟩ <;> simp_all

namespace Setting

variable {setting : Setting}

def linkWord (link : Link) (column : Nat) : WordRow :=
  ⟨.found column 0, link.found.layer⟩

def linkPart (link : Link) (column : Nat) : Part :=
  { row := .found column 0
    found := link.found
    sources := []
    conditions := Condition.ofLabel (.found column 0) link.found.wanted }

theorem word_link {link : Link} (isWord : link.found.scope = .word) (column : Nat) :
    setting.word column link.column.found = linkWord link column := by
  simp [Link.column, word, foundWord?, isWord, linkWord]

theorem partsFrom_link (link : Link) (column : Nat) :
    setting.partsFrom column (linkWord link column) 0 none link.column.found =
      [linkPart link column] := by
  simp [Link.column, partsFrom, part, structuralPart, linkWord, linkPart]

/-- The block of a word, given what ties it to the word before. -/
def linkBlock (ties : List Tie) (link : Link) (column : Nat) : Block :=
  { word := linkWord link column
    adjacency := link.adjacency
    ties
    parts := [linkPart link column] }

theorem blocksFrom_link {link : Link} (isWord : link.found.scope = .word) (column : Nat)
    (earlier : Option Block) (rest : List ResolvedColumn) :
    setting.blocksFrom column earlier (link.column :: rest) =
      let block := linkBlock
        (earlier.toList.map fun before => .adjacent before.adjacency (.found column 0)
          before.word.row) link column
      block :: setting.blocksFrom (column + 1) (some block) rest := by
  rw [blocksFrom, word_link isWord, partsFrom_link]
  rfl

theorem sources_linkBlock (ties : List Tie) (link : Link) (column : Nat) :
    (linkBlock ties link column).sources setting =
      .ofLayer link.found.layer (.found column 0)
          (.equal (Alias.found column 0).turnId Alias.turn.id :: ties) ::
        Source.thresholdAnchors setting.confidence (.found column 0) := by
  simp [Block.sources, linkBlock, linkWord, linkPart, wordSources]

section Links

variable {links : List Link} (words : ∀ link ∈ links, link.found.scope = .word)

include words

theorem words_of_links (column : Nat) (earlier : Option Block) :
    (setting.blocksFrom column earlier (links.map Link.column)).map Block.word =
      (links.zipIdx column).map fun (link, index) => linkWord link index := by
  induction links generalizing column earlier with
  | nil => rfl
  | cons link rest ih =>
      rw [List.map_cons, blocksFrom_link (words link (by simp))]
      simp only [List.map_cons, List.zipIdx_cons]
      rw [ih fun later member => words later (by simp [member])]
      rfl

theorem parts_of_links (column : Nat) (earlier : Option Block) :
    (setting.blocksFrom column earlier (links.map Link.column)).flatMap Block.parts =
      (links.zipIdx column).map fun (link, index) => linkPart link index := by
  induction links generalizing column earlier with
  | nil => rfl
  | cons link rest ih =>
      rw [List.map_cons, blocksFrom_link (words link (by simp))]
      simp only [List.flatMap_cons, List.zipIdx_cons, List.map_cons]
      rw [ih fun later member => words later (by simp [member])]
      rfl

theorem rows_of_links (column : Nat) (earlier : Option Block) :
    ((setting.blocksFrom column earlier (links.map Link.column)).flatMap
        (Block.sources setting)).map Source.row =
      (List.range' column links.length).flatMap (linkRows setting.confidence) := by
  induction links generalizing column earlier with
  | nil => rfl
  | cons link rest ih =>
      rw [List.map_cons, blocksFrom_link (words link (by simp))]
      simp only [List.flatMap_cons, List.length_cons, List.range'_succ, List.map_append]
      rw [ih fun later member => words later (by simp [member]), sources_linkBlock]
      rfl

theorem once_sources_of_links (column : Nat) (earlier : Option Block) :
    Source.once ((setting.blocksFrom column earlier (links.map Link.column)).flatMap
        (Block.sources setting)) =
      (setting.blocksFrom column earlier (links.map Link.column)).flatMap
        (Block.sources setting) := by
  refine Source.once_eq_self ?_
  rw [rows_of_links words]
  exact nodup_flatMap_linkRows _ List.nodup_range'

theorem words_eq_range' {layer : TimedLayer}
    (sameLayer : ∀ link ∈ links, link.found.layer = layer) (column : Nat) (earlier : Option Block) :
    (setting.blocksFrom column earlier (links.map Link.column)).map Block.word =
      (List.range' column links.length).map fun index => ⟨.found index 0, layer⟩ := by
  rw [words_of_links words]
  clear words
  induction links generalizing column with
  | nil => rfl
  | cons link rest ih =>
      simp only [List.zipIdx_cons, List.map_cons, List.length_cons, List.range'_succ, linkWord,
        sameLayer link (by simp)]
      rw [← ih fun later member => sameLayer later (by simp [member])]
      rfl

end Links

/-- The first part that is marked is that of the first link that is. -/
theorem row_marked?_links (links : List Link) (column : Nat) :
    (Part.marked? ((links.zipIdx column).map fun (link, index) => linkPart link index)).map
        Part.row =
      (links.findIdx? (·.found.wanted.target)).map fun index => .found (index + column) 0 := by
  induction links generalizing column with
  | nil => rfl
  | cons link rest ih =>
      simp only [List.zipIdx_cons, List.map_cons, Part.marked?, List.find?_cons,
        List.findIdx?_cons]
      cases marked : link.found.wanted.target with
      | true => simp [linkPart, marked]
      | false =>
          have tail := ih (column + 1)
          simp only [Part.marked?] at tail
          simp only [linkPart, marked, Bool.false_eq_true, if_false, Option.map_map] at tail ⊢
          rw [tail]
          congr 1
          funext index
          simp only [Function.comp_apply]
          rw [Nat.add_right_comm, Nat.add_assoc]

/-! ### The plan of a chain -/

variable {chain : WordChain} (words : ∀ link ∈ chain.links, link.found.scope = .word)

section Parts

include words

theorem joins_plan_links :
    (setting.plan (chain.links.map Link.column)).joins =
      .ofLayer chain.layer WordChain.firstRow [.equal WordChain.firstRow.turnId Alias.turn.id] ::
        Source.thresholdAnchors setting.confidence WordChain.firstRow ++
        (setting.blocksFrom 1 (some (linkBlock [] chain.first 0))
          (chain.rest.map Link.column)).flatMap (Block.sources setting) := by
  have isWord : chain.first.found.scope = .word := words _ (List.mem_cons_self ..)
  change Source.once (List.flatMap _ (setting.blocksFrom 0 none _)) = _
  rw [once_sources_of_links words, WordChain.links, List.map_cons, blocksFrom_link isWord]
  simp only [List.flatMap_cons, sources_linkBlock]
  rfl

theorem conditions_plan_links :
    (setting.plan (chain.links.map Link.column)).conditions = chain.conditions := by
  change List.flatMap _ (List.flatMap _ (setting.blocksFrom 0 none _)) = _
  rw [parts_of_links words, List.flatMap_map]
  rfl

end Parts

variable (sameLayer : ∀ link ∈ chain.links, link.found.layer = chain.layer)

include sameLayer

theorem layer_of_mem_parts {part : Part}
    (member : part ∈ chain.links.zipIdx.map fun (link, index) => linkPart link index) :
    part.found.layer = chain.layer := by
  obtain ⟨⟨link, index⟩, within, rfl⟩ := List.mem_map.1 member
  exact sameLayer link (List.fst_mem_of_mem_zipIdx within)

include words

theorem wordRows_plan_links :
    (setting.blocksFrom 0 none (chain.links.map Link.column)).map Block.word =
      (List.range chain.links.length).map fun index => ⟨.found index 0, chain.layer⟩ := by
  rw [words_eq_range' words sameLayer, List.range_eq_range']

omit sameLayer in
theorem isWord_of_mem_parts {part : Part}
    (member : part ∈ chain.links.zipIdx.map fun (link, index) => linkPart link index) :
    part.isWord := by
  obtain ⟨⟨link, index⟩, within, rfl⟩ := List.mem_map.1 member
  simpa [Part.isWord, linkPart] using words link (List.fst_mem_of_mem_zipIdx within)

omit sameLayer in
theorem find?_isSegment_links :
    (chain.links.zipIdx.map fun (link, index) => linkPart link index).find? Part.isSegment =
      none := by
  rw [List.find?_eq_none]
  intro part member segment
  have word := isWord_of_mem_parts words member
  simp only [Part.isSegment, Part.isWord, beq_iff_eq] at segment word
  rw [word] at segment
  contradiction

/-- The last word defines the match. -/
theorem defining?_links {parts : List Part}
    (listed : parts = chain.links.zipIdx.map fun (link, index) => linkPart link index) :
    (Part.defining? parts).map (fun part => (⟨part.row, part.found.layer⟩ : WordRow)) =
      some ⟨chain.lastRow, chain.layer⟩ := by
  have noSegment : parts.find? Part.isSegment = none := listed ▸ find?_isSegment_links words
  have last : parts.reverse.find? Part.isWord = parts.getLast? := by
    rw [← List.head?_reverse]
    cases turned : parts.reverse with
    | nil => rfl
    | cons part rest =>
        have member : part ∈ parts := List.mem_reverse.1 (by simp [turned])
        rw [List.find?_cons_of_pos (isWord_of_mem_parts words (listed ▸ member)), List.head?_cons]
  have lastLink : ∃ link ∈ chain.links, parts.getLast? = some (linkPart link chain.rest.length) := by
    have some : chain.links ≠ [] := List.cons_ne_nil _ _
    rw [listed, List.getLast?_map, List.getLast?_zipIdx, List.getLast?_eq_some_getLast some]
    exact ⟨_, List.getLast_mem some, by simp [WordChain.links]⟩
  obtain ⟨link, member, isLast⟩ := lastLink
  rw [Part.defining?, noSegment, last, isLast]
  simp [linkPart, sameLayer link member, WordChain.lastRow]

omit words in
theorem marked?_links {parts : List Part}
    (listed : parts = chain.links.zipIdx.map fun (link, index) => linkPart link index) :
    ((Part.marked? parts).map fun part => (⟨part.row, part.found.layer⟩ : WordRow)).getD
        ⟨chain.lastRow, chain.layer⟩ =
      ⟨chain.targetRow, chain.layer⟩ := by
  have rows := row_marked?_links chain.links 0
  rw [← listed] at rows
  unfold WordChain.targetRow
  cases marked : Part.marked? parts with
  | none =>
      have absent : chain.links.findIdx? (·.found.wanted.target) = none := by
        simpa [marked] using rows.symm
      rw [absent]
      rfl
  | some part =>
      have layer := layer_of_mem_parts sameLayer (listed ▸ List.mem_of_find?_eq_some marked)
      obtain ⟨index, found, row⟩ := Option.map_eq_some_iff.1 (rows.symm.trans (by rw [marked]; rfl))
      rw [found]
      simp [layer, ← row]

/-- The last word defines the match, and is its target if none is marked. -/
theorem result_plan_links :
    (setting.plan (chain.links.map Link.column)).result =
      { chain.result setting.schema with
        graph := Alias.turn.graph
        placing := some
          { turn := Alias.turn.id
            firstWord := WordChain.firstRow.wordOf setting.schema chain.layer
            lastWord := chain.lastRow.wordOf setting.schema chain.layer } } := by
  change setting.result _ _ _ = _
  rw [wordRows_plan_links words sameLayer, parts_of_links words]
  have head : ((List.range chain.links.length).map fun index =>
      (⟨.found index 0, chain.layer⟩ : WordRow)).head? = some ⟨WordChain.firstRow, chain.layer⟩ := by
    simp [WordChain.links, List.range_succ_eq_map, WordChain.firstRow]
  have last : ((List.range chain.links.length).map fun index =>
      (⟨.found index 0, chain.layer⟩ : WordRow)).getLast? = some ⟨chain.lastRow, chain.layer⟩ := by
    simp [WordChain.links, List.range_succ, WordChain.lastRow]
  simp only [head, last, Option.getD_some, Setting.result]
  rw [defining?_links words sameLayer rfl]
  simp only [Option.getD_some]
  rw [marked?_links sameLayer rfl, find?_isSegment_links words]
  rfl

theorem order_plan_links :
    (setting.plan (chain.links.map Link.column)).order =
      Alias.turn.graph :: Alias.turn.id ::
        (List.range chain.links.length).map fun column => Alias.ordinalInTurn (.found column 0) := by
  have target : chain.targetRow ∈
      ((List.range chain.links.length).map fun index =>
        (⟨.found index 0, chain.layer⟩ : WordRow)).map WordRow.row := by
    rw [List.map_map]
    refine List.mem_map.2 ⟨_, List.mem_range.2 ?_, rfl⟩
    cases found : chain.links.findIdx? (·.found.wanted.target) with
    | none => simp [WordChain.links]
    | some index => exact (List.findIdx?_eq_some_iff_getElem.1 found).1
  change Setting.order _ (setting.plan _).result.target = _
  rw [result_plan_links words sameLayer, wordRows_plan_links words sameLayer, order,
    if_pos (.inr target), List.map_map]
  simp

end Setting

end CorpusQuery.Search
