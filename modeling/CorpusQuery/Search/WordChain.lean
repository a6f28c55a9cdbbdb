import CorpusQuery.Search.Plan

namespace CorpusQuery.Search

/-! Searches for words of one layer, one after the other: a row of the layer for
each word, and the turn that they share. -/

/-- A word of a chain, and how far from it the next one may be. -/
structure Link where
  found : ResolvedMatch
  adjacency : Nat
deriving DecidableEq

structure WordChain where
  first : Link
  rest : List Link
deriving DecidableEq

namespace WordChain

def links (chain : WordChain) : List Link :=
  chain.first :: chain.rest

/-- The layer of all the words. -/
def layer (chain : WordChain) : TimedLayer :=
  chain.first.found.layer

def firstRow : Alias :=
  .found 0 0

def lastRow (chain : WordChain) : Alias :=
  .found chain.rest.length 0

/-- The word that is marked as the target, or else the last one. -/
def targetRow (chain : WordChain) : Alias :=
  .found ((chain.links.findIdx? (·.found.wanted.target)).getD chain.rest.length) 0

/-- The rows of the words after that of a column, each tied to the turn and to the
word before it. -/
def sourcesAfter (layer : TimedLayer) (confidence : Option Int64) :
    Nat → Link → List Link → List Source
  | _, _, [] => []
  | column, earlier, link :: rest =>
      let row := Alias.found (column + 1) 0
      .ofLayer layer row
          [.equal row.turnId firstRow.turnId,
            .adjacent earlier.adjacency row (.found column 0)] ::
        Source.thresholdAnchors confidence row ++
        sourcesAfter layer confidence (column + 1) link rest

def conditions (chain : WordChain) : List Condition :=
  chain.links.zipIdx.flatMap fun (link, column) =>
    Condition.ofLabel (.found column 0) link.found.wanted

def result (schema : Schema) (chain : WordChain) : Result :=
  { graph := firstRow.graph
    start := firstRow.anchorId .start
    stop := chain.lastRow.anchorId .stop
    defining := chain.lastRow
    segment := none
    target := chain.targetRow
    targetLayer := chain.layer
    placing := some
      { turn := firstRow.turnId
        firstWord := firstRow.wordOf schema chain.layer
        lastWord := chain.lastRow.wordOf schema chain.layer } }

/-- Matches come by graph, by turn, and by the places of their words. -/
def plan (schema : Schema) (turns : TimedLayer) (confidence : Option Int64)
    (chain : WordChain) : Plan :=
  { layer := chain.layer
    row := firstRow
    joins :=
      .ofLayer turns .turn [.equal Alias.turn.id firstRow.turnId] ::
        Source.thresholdAnchors confidence firstRow ++
        sourcesAfter chain.layer confidence 0 chain.first chain.rest
    conditions := chain.conditions
    result := chain.result schema
    order :=
      firstRow.graph :: firstRow.turnId ::
        (List.range chain.links.length).map fun column =>
          Alias.ordinalInTurn (.found column 0) }

end WordChain

end CorpusQuery.Search
