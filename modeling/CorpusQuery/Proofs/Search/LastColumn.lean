import CorpusQuery.Proofs.Search.Validity

namespace CorpusQuery.Search

/-! Nothing comes behind the last column of a matrix, and how far off it may be is never
asked. -/

open Sql

/-! ### Turn plans -/

namespace Setting

variable (setting : Setting) (found : List ResolvedMatch) (before after : Nat)

theorem blocksFrom_last (start : Nat) (earlier : Option Block) (columns : List ResolvedColumn) :
    let blocks := setting.blocksFrom start earlier (columns ++ [⟨found, before⟩])
    let others := setting.blocksFrom start earlier (columns ++ [⟨found, after⟩])
    blocks.map Block.word = others.map Block.word ∧
      blocks.flatMap (Block.sources setting) = others.flatMap (Block.sources setting) ∧
      blocks.flatMap Block.parts = others.flatMap Block.parts := by
  induction columns generalizing start earlier with
  | nil => exact ⟨rfl, rfl, rfl⟩
  | cons resolved rest ih =>
      obtain ⟨words, sources, parts⟩ := ih (start + 1) (some _)
      simp only [List.cons_append, blocksFrom, List.map_cons, List.flatMap_cons]
      exact ⟨congrArg _ words, congrArg _ sources, congrArg _ parts⟩

theorem plan_last (columns : List ResolvedColumn) :
    setting.plan (columns ++ [⟨found, before⟩]) = setting.plan (columns ++ [⟨found, after⟩]) := by
  obtain ⟨words, sources, parts⟩ := setting.blocksFrom_last found before after 0 none columns
  simp only [plan, words, sources, parts]

end Setting

/-! ### Chains -/

namespace WordChain

variable (schema : Schema) (turns layer : TimedLayer) (confidence : Option Int64)
  (found : ResolvedMatch) (before after : Nat)

theorem sourcesAfter_last (column : Nat) (earlier : Link) (rest : List Link) :
    sourcesAfter layer confidence column earlier (rest ++ [⟨found, before⟩]) =
      sourcesAfter layer confidence column earlier (rest ++ [⟨found, after⟩]) := by
  induction rest generalizing column earlier with
  | nil => rfl
  | cons link rest ih => simp only [List.cons_append, sourcesAfter, ih]

theorem plan_last (first : Link) (rest : List Link) :
    plan schema turns confidence ⟨first, rest ++ [⟨found, before⟩]⟩ =
      plan schema turns confidence ⟨first, rest ++ [⟨found, after⟩]⟩ := by
  have conditions : conditions ⟨first, rest ++ [⟨found, before⟩]⟩ =
      WordChain.conditions ⟨first, rest ++ [⟨found, after⟩]⟩ := by
    simp only [WordChain.conditions, links, ← List.cons_append, List.zipIdx_append,
      List.flatMap_append]
    rfl
  have target : targetRow ⟨first, rest ++ [⟨found, before⟩]⟩ =
      targetRow ⟨first, rest ++ [⟨found, after⟩]⟩ := by
    simp only [targetRow, links, ← List.cons_append, List.findIdx?_append, List.length_append]
    rfl
  simp [plan, result, lastRow, layer, links, conditions, target,
    sourcesAfter_last _ _ found before after]

end WordChain

/-! ### Strategies -/

namespace ResolvedColumn

variable (schema : Schema) (found : List ResolvedMatch) (before after : Nat)

theorem link?_last : (∃ only, ∀ adjacency, link? ⟨found, adjacency⟩ = some ⟨only, adjacency⟩) ∨
    ∀ adjacency, link? ⟨found, adjacency⟩ = none := by
  match found with
  | [] | _ :: _ :: _ => exact .inr fun _ => rfl
  | [only] =>
      cases anchored : only.wanted.isAnchored with
      | true => exact .inr fun _ => by simp [link?, anchored]
      | false => exact .inl ⟨only, fun _ => by simp [link?, anchored]⟩

theorem mapM_link?_append (columns : List ResolvedColumn) (last : ResolvedColumn) :
    (columns ++ [last]).mapM link? =
      (columns.mapM link?).bind fun links => last.link?.map fun link => links ++ [link] := by
  rw [List.mapM_append]
  cases columns.mapM link? <;> cases known : last.link? <;> simp [known]

/-- Both are chains or neither is, with the same plans. -/
theorem chain?_last (columns : List ResolvedColumn) :
    (chain? schema (columns ++ [⟨found, before⟩])).map
        (fun chain turns confidence => WordChain.plan schema turns confidence chain) =
      (chain? schema (columns ++ [⟨found, after⟩])).map
        (fun chain turns confidence => WordChain.plan schema turns confidence chain) := by
  unfold chain?
  rw [mapM_link?_append, mapM_link?_append]
  rcases link?_last found with ⟨only, known⟩ | none
  · rw [known, known]
    cases columns.mapM link? with
    | none => rfl
    | some links =>
        cases links with
        | nil =>
            simp only [Option.bind_some, Option.map_some, List.nil_append]
            split
            · rfl
            · rfl
        | cons first rest =>
            simp only [Option.bind_some, Option.map_some, List.cons_append, List.all_append,
              List.all_cons, List.all_nil]
            split
            · exact congrArg some (funext fun turns => funext fun confidence =>
                WordChain.plan_last ..)
            · rfl
  · simp [none]

theorem span?_last (linked : String → Bool) (columns : List ResolvedColumn) :
    span? linked (columns ++ [⟨found, before⟩]) = span? linked (columns ++ [⟨found, after⟩]) := by
  cases columns with
  | nil => rcases found with _ | ⟨only, _ | ⟨second, rest⟩⟩ <;> rfl
  | cons first rest => simp [span?]

end ResolvedColumn

theorem planOf_last (schema : Schema) (linked : String → Bool) (confidence : Option Int64)
    (found : List ResolvedMatch) (before after : Nat) (columns : List ResolvedColumn) :
    let first := columns ++ [⟨found, before⟩]
    let second := columns ++ [⟨found, after⟩]
    planOf schema linked confidence first (ResolvedColumn.strategy schema linked first) =
      planOf schema linked confidence second (ResolvedColumn.strategy schema linked second) := by
  have chains := ResolvedColumn.chain?_last schema found before after columns
  simp only [ResolvedColumn.strategy]
  cases known : ResolvedColumn.chain? schema (columns ++ [⟨found, before⟩]) with
  | some chain =>
      rw [known] at chains
      obtain ⟨other, alsoKnown, same⟩ := Option.map_eq_some_iff.1 chains.symm
      have plans (turns : TimedLayer) : chain.plan schema turns confidence =
          other.plan schema turns confidence :=
        congrFun (congrFun same.symm turns) confidence
      rw [alsoKnown]
      simp only [planOf, plans]
  | none =>
      rw [known] at chains
      rw [Option.map_eq_none_iff.1 chains.symm, ResolvedColumn.span?_last found before after]
      cases ResolvedColumn.span? linked (columns ++ [⟨found, after⟩]) with
      | some only => rfl
      | none => simp only [planOf, Setting.plan_last _ found before after]

/-! ### Matrices -/

theorem Column.problemsFrom_last {schema : Schema} {last : Column} (apart : 1 ≤ last.adjacency)
    {adjacency : Nat} (also : 1 ≤ adjacency) (index : Nat) (targeted : Bool)
    (columns : List Column) :
    problemsFrom schema index targeted (columns ++ [{ last with adjacency }]) =
      problemsFrom schema index targeted (columns ++ [last]) := by
  induction columns generalizing index targeted with
  | nil =>
      have own : ownProblems index { last with adjacency } = ownProblems index last := by
        have first : last.adjacency ≠ 0 := by omega
        have second : adjacency ≠ 0 := by omega
        simp only [ownProblems, if_neg first, if_neg second]
      simp only [List.nil_append, problemsFrom, own]
  | cons column rest ih => simp only [List.cons_append, problemsFrom, ih]

/-- How far off a column behind the last one might be makes no difference. -/
theorem Matrix.select_last {schema : Schema} {linked : String → Bool} {options : Options}
    {columns : List Column} {last : Column} {statement : Select}
    (selected : (⟨columns ++ [last]⟩ : Matrix).select schema linked options = .ok statement)
    {adjacency : Nat} (apart : 1 ≤ adjacency) :
    (⟨columns ++ [{ last with adjacency }]⟩ : Matrix).select schema linked options =
      .ok statement := by
  obtain ⟨resolvedColumns, plan, resolved, planned, rfl⟩ := plan_of_select selected
  have valid := isValid_of_resolve resolved
  have faultless := isValid_iff_problems.1 valid
  have again : (⟨columns ++ [{ last with adjacency }]⟩ : Matrix).resolve schema =
      .ok ((columns ++ [{ last with adjacency }]).map (Column.resolve schema)) := by
    rw [resolve_eq (by simp), acceptWithout_eq_ok]
    refine ⟨?_, rfl⟩
    rw [problems, Column.problemsFrom_last (valid.apart last (by simp)) apart]
    exact faultless
  refine select_of_plan again ?_
  rw [columns_of_resolve resolved, List.map_append] at planned
  rw [List.map_append, ← planned]
  exact planOf_last ..

end CorpusQuery.Search
