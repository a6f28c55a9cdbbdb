import CorpusQuery.Search.Plan

namespace CorpusQuery.Search

/-! Searches for annotations of one layer that lie free in time: the rows of the
layer, in the order in which they start. -/

namespace SpanScan

def row : Alias :=
  .found 0 0

def plan (confidence : Option Int64) (found : ResolvedMatch) : Plan :=
  { layer := found.layer
    row
    joins := [.anchor confidence row .start []]
    conditions := Condition.ofLabel row found.wanted
    result :=
      { graph := row.graph
        start := row.anchorId .start
        stop := row.anchorId .stop
        defining := row
        segment := none
        target := row
        targetLayer := found.layer
        placing := none }
    order := [row.graph, row.offset .start, row.id] }

end SpanScan

end CorpusQuery.Search
