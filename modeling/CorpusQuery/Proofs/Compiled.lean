import CorpusQuery.Proofs.Search.Placeholders
import CorpusQuery.Proofs.Search.Quotation

namespace CorpusQuery

/-! Statements that expressions and matrices are compiled to. -/

open Sql

/-- What is compiled, with all that the compilation depends on. -/
inductive Compilation where
  | filter (schema : Schema) (subject : Filter.Subject) (options : Filter.Target.Options)
      (expression : Expression)
  | search (schema : Schema) (linked : String → Bool) (options : Search.Options)
      (matrix : Search.Matrix)

namespace Compilation

def select : Compilation → Except QueryError Select
  | filter schema subject options expression => Filter.select schema subject options expression
  | search schema linked options matrix => matrix.select schema linked options

/-- All fragments of the caller's end the literals that they begin, and have a
placeholder for each of their values. -/
def GivenAligned : Compilation → Prop
  | filter _ _ options _ => options.IsAligned
  | search _ _ options _ => options.IsAligned

theorem isAligned_select {compilation : Compilation} {statement : Select}
    (compiled : compilation.select = .ok statement) (given : compilation.GivenAligned) :
    statement.IsAligned := by
  cases compilation with
  | filter schema subject options expression => exact Filter.isAligned_select compiled given
  | search schema linked options matrix => exact Search.Matrix.isAligned_select compiled given

/-- A statement has a placeholder for each of its values, and putting the values into
its text is putting each into the piece that binds it. -/
theorem placeholders_aligned {compilation : Compilation} {statement : Select}
    (compiled : compilation.select = .ok statement) (given : compilation.GivenAligned) :
    ∀ text ∈ [statement.statement, statement.subquery],
      placeholders text.sql = text.params.length ∧
        ∀ render, Sql.inlined render text.sql text.params = text.inlined render := by
  have aligned := isAligned_select compiled given
  have each {text : Fragment} (whole : text.IsAligned) :
      placeholders text.sql = text.params.length ∧
        ∀ render, Sql.inlined render text.sql text.params = text.inlined render :=
    ⟨whole.whole.1.count, whole.whole.2⟩
  intro text member
  simp only [List.mem_cons, List.not_mem_nil, or_false] at member
  rcases member with rfl | rfl
  · exact each aligned.statement
  · exact each aligned.subquery

/-! ### Values on both sides of a list, and placeholders that are none -/

namespace Asked

def schema : Schema :=
  .ofEntries [⟨{ Layer.ofId "who's ?" with tableId := some 3 }, .temporal .span 3⟩] {}

def filter : Compilation :=
  .filter schema (.layer "who's ?")
    { extra := some [.given "annotation.label <> 'a?''b' AND annotation.ordinal > ?" [.integer 5]]
      order := .after [[.given "annotation.ordinal DESC" []]]
      limit := some [.given "10" []] }
    (.includes (.list [.text "b", .own .layerId, .integer 7]) (.text "a"))

def search : Compilation :=
  .search schema (fun _ => false)
    { minConfidence := some 50
      transcripts := some [.given "SELECT ag_id FROM transcript WHERE name = ?" [.text "?"]] }
    ⟨[⟨[{ id := "who's ?", pattern := some "what?" }], 1⟩]⟩

theorem filter_given : filter.GivenAligned where
  select := by simp
  access := by simp
  extra := by decide +kernel
  order terms same := by
    cases same
    decide
  limit := by decide

theorem search_given : search.GivenAligned where
  transcripts := by decide +kernel
  participants := by simp
  access := by simp

end Asked

theorem asked_aligned :
    (∃ statement, Asked.filter.select = .ok statement ∧
      statement.statement.params = [.text "a", .text "b", .integer 7, .integer 5] ∧
      placeholders statement.statement.sql = 4) ∧
    ∃ statement, Asked.search.select = .ok statement ∧
      statement.statement.params =
        [.integer 0, .integer 50, .text "^(what?)$", .text "?"] ∧
      placeholders statement.statement.sql = 4 := by
  have filtered : ∃ statement, Asked.filter.select = .ok statement ∧
      statement.statement.params = [.text "a", .text "b", .integer 7, .integer 5] :=
    ⟨_, rfl, by decide +kernel⟩
  have searched : ∃ statement, Asked.search.select = .ok statement ∧
      statement.statement.params = [.integer 0, .integer 50, .text "^(what?)$", .text "?"] :=
    ⟨_, rfl, by decide +kernel⟩
  obtain ⟨filter, selected, filterParams⟩ := filtered
  obtain ⟨search, found, searchParams⟩ := searched
  have filterCount := (placeholders_aligned selected Asked.filter_given _ (List.mem_cons_self ..)).1
  have searchCount := (placeholders_aligned found Asked.search_given _ (List.mem_cons_self ..)).1
  rw [filterParams] at filterCount
  rw [searchParams] at searchCount
  exact ⟨⟨filter, selected, filterParams, filterCount⟩, search, found, searchParams, searchCount⟩

/-! ### Literals -/

/-- All literals in the caller's fragments end before what follows them there. -/
def GivenSetOff : Compilation → Prop
  | filter _ _ options _ => options.IsSetOff
  | search _ _ options _ => options.IsSetOff

theorem isSetOff_select {compilation : Compilation} {statement : Select}
    (compiled : compilation.select = .ok statement) (given : compilation.GivenSetOff) :
    statement.IsSetOff := by
  cases compilation with
  | filter schema subject options expression => exact Filter.isSetOff_select compiled given
  | search schema linked options matrix => exact Search.Matrix.isSetOff_select compiled given

/-- A literal is read as the text that it is of, and nothing of what is behind it is read with it,
unless that begins with another quote.  Nothing behind a literal in a statement does: whatever the
ids of layers, the names of attributes and the stems of uids are, a reader comes upon the literals
of them outside any other, reads them back, and goes on with the statement. -/
theorem literals_read_back :
    (∀ (text : String) (behind : List Char), behind.head? ≠ some '\'' →
      readLiteral? ((literal text).toList ++ behind) = some (text.toList, behind)) ∧
    ∀ (compilation : Compilation) (statement : Select), compilation.select = .ok statement →
      compilation.GivenAligned → compilation.GivenSetOff →
      ∀ whole ∈ [statement.statement, statement.subquery],
      ∀ (before : Fragment) (text : String) (after : Fragment),
        whole = before ++ .marker text :: after →
          whole.sql.toList = before.sql.toList ++ ((literal text).toList ++ after.sql.toList) ∧
          Mode.plain.after before.sql.toList = .plain ∧
          readLiteral? ((literal text).toList ++ after.sql.toList) =
            some (text.toList, after.sql.toList) := by
  refine ⟨fun text behind ends => readLiteral?_literal text ends, ?_⟩
  intro compilation statement compiled aligned given whole member before text after inlined
  have setOff := isSetOff_select compiled given
  have aligned := isAligned_select compiled aligned
  have each : whole.IsAligned ∧ whole.IsSetOff := by
    simp only [List.mem_cons, List.not_mem_nil, or_false] at member
    rcases member with rfl | rfl
    · exact ⟨aligned.statement, setOff.render (by decide)⟩
    · exact ⟨aligned.subquery, setOff.render (by decide)⟩
  subst inlined
  have outside := (Fragment.isAligned_append.1 each.1).1.whole.1.closed
  exact ⟨by simp [Piece.sql], outside, each.2.readLiteral?_of_marker⟩

namespace Asked

theorem filter_setOff : filter.GivenSetOff where
  select := by simp
  access := by simp
  extra := by decide
  order terms same := by
    cases same
    decide
  limit := by decide

theorem search_setOff : search.GivenSetOff where
  transcripts := by decide
  participants := by simp
  access := by simp

end Asked

theorem asked_read_back :
    readLiteral? ((literal "\\''\\").toList ++ " = 1".toList) =
      some ("\\''\\".toList, " = 1".toList) ∧
    (∃ (statement : Select) (before after : Fragment), Asked.filter.select = .ok statement ∧
      statement.statement = before ++ .marker "who's ?" :: after ∧
      readLiteral? ((literal "who's ?").toList ++ after.sql.toList) =
        some ("who's ?".toList, after.sql.toList)) ∧
    ∃ (statement : Select) (before after : Fragment), Asked.search.select = .ok statement ∧
      statement.statement = before ++ .marker "e_3_" :: after ∧
      readLiteral? ((literal "e_3_").toList ++ after.sql.toList) =
        some ("e_3_".toList, after.sql.toList) := by
  obtain ⟨alone, inStatements⟩ := literals_read_back
  have filtered : ∃ statement, Asked.filter.select = .ok statement ∧
      .marker "who's ?" ∈ statement.statement := ⟨_, rfl, by decide +kernel⟩
  have searched : ∃ statement, Asked.search.select = .ok statement ∧
      .marker "e_3_" ∈ statement.statement := ⟨_, rfl, by decide +kernel⟩
  obtain ⟨filter, selected, labelled⟩ := filtered
  obtain ⟨search, found, named⟩ := searched
  obtain ⟨before, after, label⟩ := List.append_of_mem labelled
  obtain ⟨start, rest, uid⟩ := List.append_of_mem named
  have filterRead := inStatements Asked.filter _ selected Asked.filter_given
    Asked.filter_setOff _ (List.mem_cons_self ..) _ _ _ label
  have searchRead := inStatements Asked.search _ found Asked.search_given
    Asked.search_setOff _ (List.mem_cons_self ..) _ _ _ uid
  exact ⟨alone _ _ (by decide), ⟨_, _, _, selected, label, filterRead.2.2⟩,
    _, _, _, found, uid, searchRead.2.2⟩

end Compilation

end CorpusQuery
