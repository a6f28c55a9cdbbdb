import CorpusQuery.Search.Plan

namespace CorpusQuery.Search

/-! Searches of any form, each match within one turn.

Every column has one word of the turn: the row of its first match on a layer of
words, or a row of the word layer if it has none.  The word follows that of the
column before, and the other matches of the column are tied to it: words and
segments by the number of the word, phrases and spans by covering the word's start.
-/

/-- The row that stands for the word of a column. -/
structure WordRow where
  row : Alias
  layer : TimedLayer
deriving DecidableEq, Repr

/-- What one match adds to a plan. -/
structure Part where
  row : Alias
  found : ResolvedMatch
  sources : List Source
  conditions : List Condition
deriving DecidableEq

/-- What all matches of a plan have in common. -/
structure Setting where
  schema : Schema
  turns : TimedLayer
  words : TimedLayer
  /-- Whether the annotations of a layer have their anchors in common with words. -/
  linked : String → Bool
  confidence : Option Int64

namespace Setting

/-! ### Words -/

/-- The row of the first match on a layer of words, from a place on. -/
def foundWord? (column : Nat) : Nat → List ResolvedMatch → Option WordRow
  | _, [] => none
  | place, found :: rest =>
      if found.scope = .word then some ⟨.found column place, found.layer⟩
      else foundWord? column (place + 1) rest

def word (setting : Setting) (column : Nat) (found : List ResolvedMatch) : WordRow :=
  (foundWord? column 0 found).getD ⟨.word column, setting.words⟩

/-- The number of the word that a row stands for. -/
def wordNumber (setting : Setting) (word : WordRow) : Cell :=
  word.row.wordOf setting.schema word.layer

/-- The word of a column, tied to its turn and to the word of the column before. -/
def wordSources (setting : Setting) (word : WordRow) (ties : List Tie) : List Source :=
  .ofLayer word.layer word.row (.equal word.row.turnId Alias.turn.id :: ties) ::
    Source.thresholdAnchors setting.confidence word.row

/-! ### Neighbours of a word -/

/-- The word after that of a column, if the turn has one. -/
def nextWord (setting : Setting) (column : Nat) (word : WordRow) : Source :=
  { kind := .left
    table := .layer setting.words.table
    row := .next column
    ties :=
      [.equal (Alias.next column).turnId Alias.turn.id,
        .following (Alias.next column).ordinalInTurn word.row.ordinalInTurn] }

/-- The word before that of a column, if the turn has one. -/
def previousWord (setting : Setting) (column : Nat) (word : WordRow) : Source :=
  { kind := .left
    table := .layer setting.words.table
    row := .previous column
    ties :=
      [.equal (Alias.previous column).turnId Alias.turn.id,
        .preceding (Alias.previous column).ordinalInTurn word.row.ordinalInTurn] }

/-- The anchor at the start of a row that may not be there. -/
def startIfAny (row : Alias) : Source :=
  { kind := .left
    table := .anchors
    row := row.anchor .start
    ties := [.equal ⟨row.anchor .start, "anchor_id"⟩ (row.anchorId .start)] }

/-! ### Matches -/

/-- The turn is in the plan already; its ends are the first and the last word. -/
def turnPart (setting : Setting) (column : Nat) (word : WordRow) (found : ResolvedMatch) : Part :=
  { row := .turn
    found
    sources := if found.wanted.anchoredEnd then [setting.nextWord column word] else []
    conditions :=
      (if found.wanted.anchoredStart then [.first word.row] else []) ++
      (if found.wanted.anchoredEnd then [.absent (.next column)] else []) }

/-- A row of an annotation that the word starts in. -/
def covering (setting : Setting) (word : WordRow) (found : ResolvedMatch) (row : Alias)
    (tie : Tie) : List Source :=
  [.anchor setting.confidence word.row .start [],
    .ofLayer found.layer row [tie],
    .anchor setting.confidence row .start
      [.compare .notAfter (row.offset .start) (word.row.offset .start)],
    .anchor setting.confidence row .stop
      [.compare .before (word.row.offset .start) (row.offset .stop)]]

/-- A row of a layer whose annotations have their anchors in common with words. -/
def sharing (word : WordRow) (found : ResolvedMatch) (row : Alias) (tie : Tie) : Source :=
  .ofLayer found.layer row <|
    tie ::
      (if found.wanted.anchoredStart then
        [.equal (row.anchorId .start) (word.row.anchorId .start)]
      else []) ++
      (if found.wanted.anchoredEnd then
        [.equal (row.anchorId .stop) (word.row.anchorId .stop)]
      else [])

/-- A phrase or span, where `tie` is what it has in common with the turn and
`otherTie` what other words have. -/
def intervalPart (setting : Setting) (word : WordRow) (found : ResolvedMatch) (row : Alias)
    (tie otherTie : Tie) : Part :=
  if found.wanted.isAnchored && setting.linked found.layer.id then
    { row, found, sources := [sharing word found row tie], conditions := [] }
  else
    let other : Cell := ⟨.otherStart, "offset"⟩
    { row
      found
      sources := setting.covering word found row tie
      conditions :=
        (if found.wanted.anchoredStart then
          [.noOtherWord setting.words
            [otherTie, .compare .notBefore other (row.offset .start),
              .compare .before other (word.row.offset .start)]]
        else []) ++
        (if found.wanted.anchoredEnd then
          [.noOtherWord setting.words
            [otherTie, .compare .after other (word.row.offset .start),
              .compare .before other (row.offset .stop)]]
        else []) }

/-- An utterance, whose first word is the one after a word that starts before it,
and whose last word is the one before a word that starts after it. -/
def utterancePart (setting : Setting) (column : Nat) (word : WordRow) (found : ResolvedMatch)
    (row : Alias) (tie : Tie) : Part :=
  { row
    found
    sources :=
      setting.covering word found row tie ++
      (if found.wanted.anchoredStart then
        [setting.previousWord column word, startIfAny (.previous column)]
      else []) ++
      (if found.wanted.anchoredEnd then
        [setting.nextWord column word, startIfAny (.next column)]
      else [])
    conditions :=
      (if found.wanted.anchoredStart then
        [.absentOr (.previous column)
          (.compare .before (Alias.offset (.previous column) .start) (row.offset .start))]
      else []) ++
      (if found.wanted.anchoredEnd then
        [.absentOr (.next column)
          (.compare .notBefore (Alias.offset (.next column) .start) (row.offset .stop))]
      else []) }

/-- A row that is tied to the word by the word's number.  A segment also follows the
segment of the column before it. -/
def withinWordPart (setting : Setting) (word : WordRow) (found : ResolvedMatch) (row : Alias)
    (number : Cell) (earlier : Option Alias) : Part :=
  { row
    found
    sources :=
      [.ofLayer found.layer row
        (.equal number (setting.wordNumber word) ::
          earlier.toList.map fun segment =>
            .following row.ordinalInWord segment.ordinalInWord)]
    conditions := [] }

/-- What a match adds before its label is looked at, where `earlier` is the segment
before it in its column. -/
def structuralPart (setting : Setting) (column place : Nat) (word : WordRow)
    (earlier : Option Alias) (found : ResolvedMatch) : Part :=
  let row := Alias.found column place
  if word.row = row then { row, found, sources := [], conditions := [] }
  else if setting.schema.plays .turn found.layer.id then setting.turnPart column word found
  else
    match found.scope with
    | .word =>
        setting.withinWordPart word found row (row.wordOf setting.schema found.layer) none
    | .segment => setting.withinWordPart word found row row.wordId earlier
    | .phrase =>
        if setting.schema.plays .utterance found.layer.id then
          setting.utterancePart column word found row (.equal row.turnId Alias.turn.id)
        else
          setting.intervalPart word found row (.equal row.turnId Alias.turn.id)
            (.equal Alias.otherWord.turnId Alias.turn.id)
    | .span =>
        setting.intervalPart word found row (.equal row.graph Alias.turn.graph)
          (.equal Alias.otherWord.graph Alias.turn.graph)

def part (setting : Setting) (column place : Nat) (word : WordRow) (earlier : Option Alias)
    (found : ResolvedMatch) : Part :=
  let structural := setting.structuralPart column place word earlier found
  { structural with
    conditions := structural.conditions ++ Condition.ofLabel structural.row found.wanted }

/-- The segment that the next one of the column follows. -/
def segmentAfter (setting : Setting) (column place : Nat) (earlier : Option Alias)
    (found : ResolvedMatch) : Option Alias :=
  if found.scope = .segment && !setting.schema.plays .turn found.layer.id then
    some (.found column place)
  else earlier

/-- The parts of a column from a place on. -/
def partsFrom (setting : Setting) (column : Nat) (word : WordRow) :
    Nat → Option Alias → List ResolvedMatch → List Part
  | _, _, [] => []
  | place, earlier, found :: rest =>
      setting.part column place word earlier found ::
        partsFrom setting column word (place + 1) (setting.segmentAfter column place earlier found)
          rest

/-! ### Columns -/

/-- The word of a column, and what its matches add. -/
structure Block where
  word : WordRow
  adjacency : Nat
  ties : List Tie
  parts : List Part
deriving DecidableEq

/-- The blocks of the columns from an index on, where `earlier` is the block
before. -/
def blocksFrom (setting : Setting) : Nat → Option Block → List ResolvedColumn → List Block
  | _, _, [] => []
  | column, earlier, resolved :: rest =>
      let word := setting.word column resolved.found
      let block : Block :=
        { word
          adjacency := resolved.adjacency
          ties := earlier.toList.map fun before =>
            .adjacent before.adjacency word.row before.word.row
          parts := setting.partsFrom column word 0 none resolved.found }
      block :: blocksFrom setting (column + 1) (some block) rest

def Block.sources (setting : Setting) (block : Block) : List Source :=
  setting.wordSources block.word block.ties ++ block.parts.flatMap Part.sources

end Setting

/-! ### Results -/

namespace Part

def isSegment (part : Part) : Bool :=
  part.found.scope == .segment

def isWord (part : Part) : Bool :=
  part.found.scope == .word

/-- A phrase or span that is not the turn itself. -/
def isInterval (part : Part) : Bool :=
  (part.found.scope == .phrase || part.found.scope == .span) && part.row != .turn

/-- The part that defines the match: the first segment, or else the last word, or
else the last phrase or span. -/
def defining? (parts : List Part) : Option Part :=
  (parts.find? isSegment).or ((parts.reverse.find? isWord).or (parts.reverse.find? isInterval))

def marked? (parts : List Part) : Option Part :=
  parts.find? (·.found.wanted.target)

end Part

namespace Setting

/-- The words between which the match lies, and what was found there. -/
def result (setting : Setting) (first last : WordRow) (parts : List Part) : Result :=
  let reported (part : Part) : WordRow := ⟨part.row, part.found.layer⟩
  let defining := ((Part.defining? parts).map reported).getD last
  let target := ((Part.marked? parts).map reported).getD defining
  { graph := Alias.turn.graph
    start := first.row.anchorId .start
    stop := last.row.anchorId .stop
    defining := defining.row
    segment := (parts.find? Part.isSegment).map Part.row
    target := target.row
    targetLayer := target.layer
    placing := some
      { turn := Alias.turn.id
        firstWord := setting.wordNumber first
        lastWord := setting.wordNumber last } }

/-- By turn, by the places of the words, and by the target if it is none of
these. -/
def order (words : List WordRow) (target : Alias) : List Cell :=
  Alias.turn.graph :: Alias.turn.id :: words.map (·.row.ordinalInTurn) ++
    (if target = .turn ∨ target ∈ words.map WordRow.row then [] else [target.id])

/-- A turn and what hangs off it. -/
def plan (setting : Setting) (columns : List ResolvedColumn) : Plan :=
  let blocks := setting.blocksFrom 0 none columns
  let words := blocks.map Block.word
  let parts := blocks.flatMap Block.parts
  let bare : WordRow := ⟨.word 0, setting.words⟩
  let result := setting.result (words.head?.getD bare) (words.getLast?.getD bare) parts
  { layer := setting.turns
    row := .turn
    joins := Source.once (blocks.flatMap (Block.sources setting))
    conditions := parts.flatMap Part.conditions
    result
    order := order words result.target }

end Setting

end CorpusQuery.Search
