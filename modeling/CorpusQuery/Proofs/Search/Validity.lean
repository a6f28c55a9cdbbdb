import CorpusQuery.Proofs.Problem
import CorpusQuery.Proofs.Search.Tables

namespace CorpusQuery.Search

/-! Which matrices can be searched for, and what is reported of the others.

The matches of a matrix are examined in one go, with one look back: whether a target
has been met.  What comes of it is put down here match by match, by the places that
they have in the matrix. -/

open Sql

/-! ### Validity -/

namespace LayerMatch

/-- The match asks for a pattern, and for a number too. -/
def IsBoth (wanted : LayerMatch) : Prop :=
  (∃ pattern, wanted.pattern = some pattern ∧ pattern ≠ "") ∧
    (wanted.min ≠ none ∨ wanted.max ≠ none)

theorem isBoth_iff {wanted : LayerMatch} :
    wanted.IsBoth ↔ (wanted.labelRegex.isSome && wanted.hasRange) = true := by
  have asked : wanted.labelRegex.isSome = true ↔
      ∃ pattern, wanted.pattern = some pattern ∧ pattern ≠ "" := by
    rw [labelRegex, pattern?, Option.isSome_map, Option.isSome_filter, Option.any_eq_true]
    simp
  rw [Bool.and_eq_true, asked, hasRange, Bool.or_eq_true, Option.isSome_iff_ne_none,
    Option.isSome_iff_ne_none, IsBoth]

end LayerMatch

namespace Matrix

/-- The match at a place of a column. -/
def match? (matrix : Matrix) (column place : Nat) : Option LayerMatch :=
  matrix.columns[column]?.bind (·.layers[place]?)

/-- What the search is after is at this place. -/
def IsTargetAt (matrix : Matrix) (column place : Nat) : Prop :=
  ∃ wanted, matrix.match? column place = some wanted ∧ wanted.target

/-- Some match before this place is the target. -/
def TargetBefore (matrix : Matrix) (column place : Nat) : Prop :=
  ∃ earlierColumn earlierPlace, matrix.IsTargetAt earlierColumn earlierPlace ∧
    (earlierColumn < column ∨ earlierColumn = column ∧ earlierPlace < place)

/-- The matrix can be searched for. -/
structure IsValid (schema : Schema) (matrix : Matrix) : Prop where
  asked : ∀ column ∈ matrix.columns, column.layers ≠ []
  apart : ∀ column ∈ matrix.columns, 1 ≤ column.adjacency
  inTime : ∀ column ∈ matrix.columns, ∀ wanted ∈ column.layers,
    ∃ entry, schema.entry? wanted.id = some entry ∧ entry.storage.isTemporal
  single : ∀ column ∈ matrix.columns, ∀ wanted ∈ column.layers, ¬wanted.IsBoth
  oneTarget : ∀ column place otherColumn otherPlace, matrix.IsTargetAt column place →
    matrix.IsTargetAt otherColumn otherPlace → column = otherColumn ∧ place = otherPlace

/-- What is wrong with a matrix. -/
inductive Faulty (schema : Schema) (matrix : Matrix) : Problem → Prop
  | bare {index : Nat} {column : Column} (known : matrix.columns[index]? = some column)
      (none : column.layers = []) :
      Faulty schema matrix (.invalidMatch index "no layers to match")
  | still {index : Nat} {column : Column} (known : matrix.columns[index]? = some column)
      (zero : column.adjacency = 0) :
      Faulty schema matrix (.invalidMatch index "adjacency must be at least 1")
  | both {index place : Nat} {wanted : LayerMatch}
      (known : matrix.match? index place = some wanted) (both : wanted.IsBoth) :
      Faulty schema matrix
        (.invalidMatch index ("layer " ++ wanted.id ++ " has both a pattern and a range"))
  | secondTarget {index place : Nat} (target : matrix.IsTargetAt index place)
      (before : matrix.TargetBefore index place) :
      Faulty schema matrix (.invalidMatch index "only one layer can be the target")
  | unknown {index place : Nat} {wanted : LayerMatch}
      (known : matrix.match? index place = some wanted) (none : schema.entry? wanted.id = none) :
      Faulty schema matrix (.unknownLayer wanted.id)
  | timeless {index place : Nat} {wanted : LayerMatch} {entry : Entry}
      (known : matrix.match? index place = some wanted)
      (named : schema.entry? wanted.id = some entry) (other : ¬entry.storage.isTemporal) :
      Faulty schema matrix
        (.invalidMatch index ("layer " ++ wanted.id ++ " is not a temporal layer"))

end Matrix

/-! ### Problems by their places -/

namespace LayerMatch

theorem mem_problems {schema : Schema} {index : Nat} {targeted : Bool} {wanted : LayerMatch}
    {problem : Problem} :
    problem ∈ wanted.problems schema index targeted ↔
      wanted.IsBoth ∧
          problem = .invalidMatch index
            ("layer " ++ wanted.id ++ " has both a pattern and a range") ∨
        wanted.target ∧ targeted ∧
          problem = .invalidMatch index "only one layer can be the target" ∨
        schema.entry? wanted.id = none ∧ problem = .unknownLayer wanted.id ∨
        ∃ entry, schema.entry? wanted.id = some entry ∧ ¬entry.storage.isTemporal ∧
          problem = .invalidMatch index
            ("layer " ++ wanted.id ++ " is not a temporal layer") := by
  rw [problems, List.mem_append, List.mem_append, isBoth_iff, or_assoc]
  refine or_congr ?_ (or_congr ?_ ?_)
  · rw [List.mem_ite_nil_right, List.mem_singleton]
  · rw [List.mem_ite_nil_right, List.mem_singleton, Bool.and_eq_true, and_assoc]
  · cases known : schema.entry? wanted.id with
    | none => simp
    | some entry => by_cases timed : entry.storage.isTemporal <;> simp [timed]

theorem mem_problemsOf {schema : Schema} {index : Nat} {targeted : Bool}
    {layers : List LayerMatch} {problem : Problem} :
    problem ∈ problemsOf schema index targeted layers ↔
      ∃ (place : Nat) (wanted : LayerMatch), layers[place]? = some wanted ∧
        problem ∈ wanted.problems schema index
          (targeted || (layers.take place).any LayerMatch.target) := by
  induction layers generalizing targeted with
  | nil => simp [problemsOf]
  | cons first rest ih =>
      rw [problemsOf, List.mem_append, ih]
      constructor
      · rintro (here | ⟨place, wanted, known, later⟩)
        · exact ⟨0, first, rfl, by simpa using here⟩
        · exact ⟨place + 1, wanted, known, by simpa [Bool.or_assoc] using later⟩
      · rintro ⟨place, wanted, known, member⟩
        cases place with
        | zero =>
            obtain rfl : first = wanted := by simpa using known
            exact .inl (by simpa using member)
        | succ place => exact .inr ⟨place, wanted, known, by simpa [Bool.or_assoc] using member⟩

end LayerMatch

theorem Column.mem_ownProblems {index : Nat} {column : Column} {problem : Problem} :
    problem ∈ column.ownProblems index ↔
      column.layers = [] ∧ problem = .invalidMatch index "no layers to match" ∨
        column.adjacency = 0 ∧ problem = .invalidMatch index "adjacency must be at least 1" := by
  rw [ownProblems, List.mem_append, List.mem_ite_nil_right, List.mem_ite_nil_right,
    List.mem_singleton, List.mem_singleton, List.isEmpty_iff]

theorem Column.mem_problemsFrom {schema : Schema} {start : Nat} {targeted : Bool}
    {columns : List Column} {problem : Problem} :
    problem ∈ problemsFrom schema start targeted columns ↔
      ∃ (index : Nat) (column : Column), columns[index]? = some column ∧
        (problem ∈ column.ownProblems (start + index) ∨
          problem ∈ LayerMatch.problemsOf schema (start + index)
            (targeted || (columns.take index).any Column.hasTarget) column.layers) := by
  induction columns generalizing start targeted with
  | nil => simp [problemsFrom]
  | cons first rest ih =>
      rw [problemsFrom, List.mem_append, List.mem_append, ih]
      constructor
      · rintro (here | ⟨index, column, known, later⟩)
        · exact ⟨0, first, rfl, by simpa using here⟩
        · exact ⟨index + 1, column, known,
            by simpa [Bool.or_assoc, Nat.add_assoc, Nat.add_comm 1] using later⟩
      · rintro ⟨index, column, known, member⟩
        cases index with
        | zero =>
            obtain rfl : first = column := by simpa using known
            exact .inl (by simpa using member)
        | succ index =>
            exact .inr ⟨index, column, known,
              by simpa [Bool.or_assoc, Nat.add_assoc, Nat.add_comm 1] using member⟩

namespace Matrix

variable {schema : Schema} {matrix : Matrix}

theorem match?_of_column {index place : Nat} {column : Column}
    (known : matrix.columns[index]? = some column) :
    matrix.match? index place = column.layers[place]? := by
  rw [match?, known, Option.bind_some]

/-- The flag that goes from match to match says whether there is a target before the place. -/
theorem targeted_iff {index place : Nat} {column : Column}
    (known : matrix.columns[index]? = some column) :
    ((matrix.columns.take index).any Column.hasTarget ||
        (column.layers.take place).any LayerMatch.target) = true ↔
      matrix.TargetBefore index place := by
  have isTarget {index place : Nat} {column : Column} {wanted : LayerMatch}
      (known : matrix.columns[index]? = some column) (at_ : column.layers[place]? = some wanted)
      (target : wanted.target) : matrix.IsTargetAt index place :=
    ⟨wanted, (match?_of_column known).trans at_, target⟩
  rw [Bool.or_eq_true, List.any_eq_true, List.any_eq_true]
  constructor
  · rintro (⟨earlier, member, has⟩ | ⟨wanted, member, target⟩)
    · obtain ⟨wanted, listed, target⟩ := List.any_eq_true.1 has
      obtain ⟨earlierIndex, before, same⟩ := List.mem_take_iff_getElem.1 member
      obtain ⟨earlierPlace, at_⟩ := List.getElem?_of_mem listed
      have inColumns : matrix.columns[earlierIndex]? = some earlier :=
        List.getElem?_eq_some_iff.2 ⟨_, same⟩
      exact ⟨earlierIndex, earlierPlace, isTarget inColumns at_ target, .inl (by omega)⟩
    · obtain ⟨earlierPlace, before, same⟩ := List.mem_take_iff_getElem.1 member
      have at_ : column.layers[earlierPlace]? = some wanted :=
        List.getElem?_eq_some_iff.2 ⟨_, same⟩
      exact ⟨index, earlierPlace, isTarget known at_ target, .inr ⟨rfl, by omega⟩⟩
  · rintro ⟨earlierIndex, earlierPlace, ⟨wanted, found, target⟩, before | ⟨rfl, before⟩⟩
    · obtain ⟨earlier, inColumns, at_⟩ := Option.bind_eq_some_iff.1 found
      have has : earlier.hasTarget :=
        List.any_eq_true.2 ⟨wanted, List.mem_of_getElem? at_, target⟩
      refine .inl ⟨earlier, List.mem_of_getElem? (i := earlierIndex) ?_, has⟩
      rwa [List.getElem?_take_of_lt before]
    · refine .inr ⟨wanted, List.mem_of_getElem? (i := earlierPlace) ?_, target⟩
      rw [List.getElem?_take_of_lt before, ← match?_of_column known, found]

theorem mem_problems_places {problem : Problem} :
    problem ∈ matrix.problems schema ↔
      (∃ (index : Nat) (column : Column), matrix.columns[index]? = some column ∧
        problem ∈ column.ownProblems index) ∨
      ∃ (index place : Nat) (wanted : LayerMatch) (targeted : Bool),
        matrix.match? index place = some wanted ∧
          (targeted = true ↔ matrix.TargetBefore index place) ∧
          problem ∈ wanted.problems schema index targeted := by
  rw [problems, Column.mem_problemsFrom]
  simp only [Nat.zero_add, Bool.false_or, LayerMatch.mem_problemsOf]
  constructor
  · rintro ⟨index, column, known, own | ⟨place, wanted, at_, member⟩⟩
    · exact .inl ⟨index, column, known, own⟩
    · exact .inr ⟨index, place, wanted, _, (match?_of_column known).trans at_,
        targeted_iff known, member⟩
  · rintro (⟨index, column, known, own⟩ | ⟨index, place, wanted, targeted, found, same, member⟩)
    · exact ⟨index, column, known, .inl own⟩
    · obtain ⟨column, known, at_⟩ := Option.bind_eq_some_iff.1 found
      obtain rfl := Bool.eq_iff_iff.2 (same.trans (targeted_iff known).symm)
      exact ⟨index, column, known, .inr ⟨place, wanted, at_, member⟩⟩

/-- What is reported of a matrix is what is wrong with it. -/
theorem mem_problems_iff {problem : Problem} :
    problem ∈ matrix.problems schema ↔ matrix.Faulty schema problem := by
  rw [mem_problems_places]
  constructor
  · rintro (⟨index, column, known, own⟩ | ⟨index, place, wanted, targeted, found, same, member⟩)
    · rcases Column.mem_ownProblems.1 own with ⟨none, rfl⟩ | ⟨zero, rfl⟩
      · exact .bare known none
      · exact .still known zero
    · rcases LayerMatch.mem_problems.1 member with
        ⟨both, rfl⟩ | ⟨target, earlier, rfl⟩ | ⟨none, rfl⟩ | ⟨entry, named, other, rfl⟩
      · exact .both found both
      · exact .secondTarget ⟨wanted, found, target⟩ (same.1 earlier)
      · exact .unknown found none
      · exact .timeless found named other
  · intro faulty
    classical
    -- The walk has a flag for targets before a place, which faults do not mention.
    have flag (index place : Nat) : ∃ targeted : Bool,
        targeted = true ↔ matrix.TargetBefore index place :=
      ⟨decide _, decide_eq_true_iff⟩
    cases faulty with
    | bare known none => exact .inl ⟨_, _, known, Column.mem_ownProblems.2 (.inl ⟨none, rfl⟩)⟩
    | still known zero => exact .inl ⟨_, _, known, Column.mem_ownProblems.2 (.inr ⟨zero, rfl⟩)⟩
    | both found both =>
        obtain ⟨targeted, same⟩ := flag _ _
        exact .inr ⟨_, _, _, targeted, found, same, LayerMatch.mem_problems.2 (.inl ⟨both, rfl⟩)⟩
    | secondTarget target before =>
        obtain ⟨wanted, found, isTarget⟩ := target
        exact .inr ⟨_, _, wanted, true, found, iff_of_true rfl before,
          LayerMatch.mem_problems.2 (.inr (.inl ⟨isTarget, rfl, rfl⟩))⟩
    | unknown found none =>
        obtain ⟨targeted, same⟩ := flag _ _
        exact .inr ⟨_, _, _, targeted, found, same,
          LayerMatch.mem_problems.2 (.inr (.inr (.inl ⟨none, rfl⟩)))⟩
    | timeless found named other =>
        obtain ⟨targeted, same⟩ := flag _ _
        exact .inr ⟨_, _, _, targeted, found, same,
          LayerMatch.mem_problems.2 (.inr (.inr (.inr ⟨_, named, other, rfl⟩)))⟩

theorem match?_mem {index place : Nat} {wanted : LayerMatch}
    (found : matrix.match? index place = some wanted) :
    ∃ column ∈ matrix.columns, wanted ∈ column.layers := by
  obtain ⟨column, known, at_⟩ := Option.bind_eq_some_iff.1 found
  exact ⟨column, List.mem_of_getElem? known, List.mem_of_getElem? at_⟩

theorem exists_match? {column : Column} (member : column ∈ matrix.columns)
    {wanted : LayerMatch} (listed : wanted ∈ column.layers) :
    ∃ index place, matrix.match? index place = some wanted := by
  obtain ⟨index, known⟩ := List.getElem?_of_mem member
  obtain ⟨place, at_⟩ := List.getElem?_of_mem listed
  exact ⟨index, place, (match?_of_column known).trans at_⟩

theorem IsValid.not_faulty (valid : matrix.IsValid schema) (problem : Problem) :
    ¬matrix.Faulty schema problem := by
  intro faulty
  cases faulty with
  | bare known none => exact valid.asked _ (List.mem_of_getElem? known) none
  | still known zero =>
      have apart := valid.apart _ (List.mem_of_getElem? known)
      omega
  | both found both =>
      obtain ⟨column, member, listed⟩ := match?_mem found
      exact valid.single column member _ listed both
  | secondTarget target before =>
      obtain ⟨earlierIndex, earlierPlace, earlier, before⟩ := before
      have same := valid.oneTarget _ _ _ _ earlier target
      omega
  | unknown found none =>
      obtain ⟨column, member, listed⟩ := match?_mem found
      obtain ⟨entry, named, -⟩ := valid.inTime column member _ listed
      rw [none] at named
      contradiction
  | timeless found named other =>
      obtain ⟨column, member, listed⟩ := match?_mem found
      obtain ⟨_, sameEntry, isTemporal⟩ := valid.inTime column member _ listed
      obtain rfl := Option.some.inj (named.symm.trans sameEntry)
      exact other isTemporal

/-- Of two targets at different places, one is behind the other. -/
theorem eq_of_isTargetAt (none : ∀ index place, matrix.IsTargetAt index place →
      ¬matrix.TargetBefore index place)
    {column place otherColumn otherPlace : Nat} (target : matrix.IsTargetAt column place)
    (other : matrix.IsTargetAt otherColumn otherPlace) :
    column = otherColumn ∧ place = otherPlace := by
  have notBefore : ¬(otherColumn < column ∨ otherColumn = column ∧ otherPlace < place) :=
    fun before => none _ _ target ⟨_, _, other, before⟩
  have notBehind : ¬(column < otherColumn ∨ column = otherColumn ∧ place < otherPlace) :=
    fun before => none _ _ other ⟨_, _, target, before⟩
  omega

theorem isValid_of_faultless (faultless : ∀ problem, ¬matrix.Faulty schema problem) :
    matrix.IsValid schema where
  asked column member none := by
    obtain ⟨index, known⟩ := List.getElem?_of_mem member
    exact faultless _ (.bare known none)
  apart column member := by
    obtain ⟨index, known⟩ := List.getElem?_of_mem member
    exact Nat.pos_of_ne_zero fun zero => faultless _ (.still known zero)
  inTime column member wanted listed := by
    obtain ⟨index, place, found⟩ := exists_match? member listed
    cases named : schema.entry? wanted.id with
    | none => exact absurd (.unknown found named) (faultless _)
    | some entry =>
        refine ⟨entry, rfl, ?_⟩
        by_contra other
        exact faultless _ (.timeless found named other)
  single column member wanted listed both := by
    obtain ⟨index, place, found⟩ := exists_match? member listed
    exact faultless _ (.both found both)
  oneTarget _ _ _ _ target other :=
    eq_of_isTargetAt (fun _ _ target before => faultless _ (.secondTarget target before))
      target other

theorem isValid_iff_problems : matrix.IsValid schema ↔ matrix.problems schema = [] := by
  rw [List.eq_nil_iff_forall_not_mem]
  simp only [mem_problems_iff]
  exact ⟨IsValid.not_faulty, isValid_of_faultless⟩

theorem resolve_eq (some : matrix.columns ≠ []) :
    matrix.resolve schema =
      acceptWithout (matrix.problems schema) (matrix.columns.map (Column.resolve schema)) := by
  rw [resolve, if_neg (by simpa using some)]

theorem isValid_of_resolve {columns : List ResolvedColumn}
    (resolved : matrix.resolve schema = .ok columns) : matrix.IsValid schema := by
  unfold resolve at resolved
  split at resolved
  · contradiction
  · exact isValid_iff_problems.2 (acceptWithout_eq_ok.1 resolved).1

end Matrix

/-! ### Layers that are not known -/

/-- Which of these layers the schema does not have. -/
def missing (schema : Schema) (ids : List String) : List String :=
  ids.filter fun id => (schema.entry? id).isNone

theorem LayerMatch.unknownLayers_problems (schema : Schema) (index : Nat) (targeted : Bool)
    (wanted : LayerMatch) :
    Problem.unknownLayers (wanted.problems schema index targeted) =
      missing schema [wanted.id] := by
  have both : Problem.unknownLayers (if wanted.labelRegex.isSome && wanted.hasRange then
      [.invalidMatch index ("layer " ++ wanted.id ++ " has both a pattern and a range")]
      else []) = [] := by
    split <;> rfl
  have second : Problem.unknownLayers (if wanted.target && targeted then
      [.invalidMatch index "only one layer can be the target"] else []) = [] := by
    split <;> rfl
  rw [problems, Problem.unknownLayers_append, Problem.unknownLayers_append, both, second]
  cases known : schema.entry? wanted.id with
  | none => simp [missing, known, Problem.unknownLayers, Problem.unknownLayer?]
  | some entry =>
      have timeless : Problem.unknownLayers (if entry.storage.isTemporal then []
          else [.invalidMatch index ("layer " ++ wanted.id ++ " is not a temporal layer")]) =
          [] := by
        split <;> rfl
      simp [missing, known, timeless]

theorem LayerMatch.unknownLayers_problemsOf (schema : Schema) (index : Nat) (targeted : Bool)
    (layers : List LayerMatch) :
    Problem.unknownLayers (problemsOf schema index targeted layers) =
      missing schema (layers.map LayerMatch.id) := by
  induction layers generalizing targeted with
  | nil => rfl
  | cons wanted rest ih =>
      rw [problemsOf, Problem.unknownLayers_append, unknownLayers_problems, ih, missing, missing,
        ← List.filter_append, List.singleton_append, missing, List.map_cons]

theorem Column.unknownLayers_problemsFrom (schema : Schema) (index : Nat) (targeted : Bool)
    (columns : List Column) :
    Problem.unknownLayers (problemsFrom schema index targeted columns) =
      missing schema (columns.flatMap fun column => column.layers.map LayerMatch.id) := by
  induction columns generalizing index targeted with
  | nil => rfl
  | cons column rest ih =>
      have own : Problem.unknownLayers (column.ownProblems index) = [] := by
        unfold ownProblems
        split <;> split <;> rfl
      rw [problemsFrom, Problem.unknownLayers_append, Problem.unknownLayers_append, own,
        LayerMatch.unknownLayers_problemsOf, ih, List.nil_append, missing, missing,
        ← List.filter_append, missing, List.flatMap_cons]

/-! ### Resolved columns -/

/-- The column has the matches that are wanted, each on the schema's layer of its id. -/
structure ResolvedColumn.Mirrors (schema : Schema) (column : Column)
    (resolved : ResolvedColumn) : Prop where
  adjacency : resolved.adjacency = column.adjacency
  found : List.Forall₂
    (fun wanted found => found.wanted = wanted ∧ found.layer.id = wanted.id ∧
      found.layer.InSchema schema)
    column.layers resolved.found

theorem LayerMatch.resolve?_of_entry? {schema : Schema} {wanted : LayerMatch} {entry : Entry}
    (named : schema.entry? wanted.id = some entry) (isTemporal : entry.storage.isTemporal) :
    ∃ found, wanted.resolve? schema = some found ∧ found.wanted = wanted ∧
      found.layer.id = wanted.id ∧ found.layer.InSchema schema := by
  have sameId : entry.layer.id = wanted.id := by
    simpa using List.find?_some named
  obtain ⟨layer, storage⟩ := entry
  cases storage with
  | temporal scope table =>
      have resolved : wanted.resolve? schema = some ⟨wanted, layer, scope, table⟩ := by
        simp [resolve?, named, TimedLayer.ofEntry?]
      exact ⟨_, resolved, rfl, sameId, inSchema_of_resolve? resolved⟩
  | attributed | entity => contradiction

theorem Column.mirrors_resolve {schema : Schema} {column : Column}
    (inTime : ∀ wanted ∈ column.layers,
      ∃ entry, schema.entry? wanted.id = some entry ∧ entry.storage.isTemporal) :
    ResolvedColumn.Mirrors schema column (column.resolve schema) where
  adjacency := rfl
  found := by
    have each (layers : List LayerMatch) (inTime : ∀ wanted ∈ layers,
        ∃ entry, schema.entry? wanted.id = some entry ∧ entry.storage.isTemporal) :
        List.Forall₂ (fun wanted (found : ResolvedMatch) => found.wanted = wanted ∧
            found.layer.id = wanted.id ∧ found.layer.InSchema schema)
          layers (layers.filterMap (LayerMatch.resolve? schema)) := by
      induction layers with
      | nil => exact .nil
      | cons wanted rest ih =>
          obtain ⟨⟨entry, named, isTemporal⟩, others⟩ := List.forall_mem_cons.1 inTime
          obtain ⟨found, resolved, known⟩ := LayerMatch.resolve?_of_entry? named isTemporal
          rw [List.filterMap_cons_some resolved]
          exact .cons known (ih others)
    exact each column.layers inTime

theorem Matrix.mirrors_of_isValid {schema : Schema} {matrix : Matrix}
    (valid : matrix.IsValid schema) :
    List.Forall₂ (ResolvedColumn.Mirrors schema) matrix.columns
      (matrix.columns.map (Column.resolve schema)) :=
  List.forall₂_map_right_iff.2 (List.forall₂_same.2 fun column member =>
    Column.mirrors_resolve (valid.inTime column member))

/-! ### Statements -/

/-- All tables that the statement reads are there, those where it seeks other words among
them, and so is the uid that it records. -/
structure ReadsTables (schema : Schema) (columns : List ResolvedColumn) (statement : Select) :
    Prop where
  sources : ∀ source ∈ statement.sources, source.2 = "main_participant" ∨
    ∃ (row : Alias) (table : Table), row.table? schema columns = some table ∧
      source = (table.name, row.name)
  others : ∀ (layer : TimedLayer) ties,
    (Condition.noOtherWord layer ties).fragment ∈ statement.conditions →
      ∃ words, timed? schema .word = some words ∧ layer.table = words.table
  uid : ∃ (row : Alias) (layer : TimedLayer), row.layer? schema columns = some layer ∧
    statement.columns[12]? =
      some (uidFrom (Storage.temporalStem layer.scope layer.table) [row.id.piece])

theorem Plan.readsTables_restricted {schema : Schema} {columns : List ResolvedColumn} {plan : Plan}
    (backed : plan.IsBacked schema columns) (options : Options) :
    ReadsTables schema columns (plan.restricted options) where
  sources _ member := Plan.table?_of_mem_sources backed options member
  others _ _ member := Plan.timed?_of_mem_conditions backed options member
  uid := ⟨_, _, backed.target, rfl⟩

theorem planOf_eq_error {schema : Schema} {linked : String → Bool} {confidence : Option Int64}
    {columns : List ResolvedColumn} {strategy : Strategy} {problem : QueryError}
    (failed : planOf schema linked confidence columns strategy = .error problem) :
    (timed? schema .turn = none ∨ timed? schema .word = none) ∧
      problem = .invalid [.notApplicable "word searches"
        "a schema without temporal turn and word layers"] := by
  have both : turnsAndWords schema = .error problem := by
    cases both : turnsAndWords schema with
    | error other => cases strategy <;> simp_all [planOf, bind, Except.bind]
    | ok pair => cases strategy <;> simp_all [planOf, bind, Except.bind, pure, Except.pure]
  unfold turnsAndWords at both
  split at both
  · contradiction
  · rename_i absent
    refine ⟨?_, (Except.error.inj both).symm⟩
    by_contra present
    simp only [not_or, ← ne_eq, Option.ne_none_iff_exists'] at present
    obtain ⟨⟨turns, inTime⟩, words, others⟩ := present
    exact absent turns words inTime others

namespace Matrix

variable {schema : Schema} {matrix : Matrix}

/-- With all its columns resolved, a matrix fails only for a schema without turns or words in
time. -/
theorem select_of_resolve {columns : List ResolvedColumn}
    (resolved : matrix.resolve schema = .ok columns) (linked : String → Bool)
    (options : Options) :
    (∃ statement, matrix.select schema linked options = .ok statement ∧
      ReadsTables schema columns statement) ∨
    (timed? schema .turn = none ∨ timed? schema .word = none) ∧
      matrix.select schema linked options =
        .error (.invalid [.notApplicable "word searches"
          "a schema without temporal turn and word layers"]) := by
  cases planned : planOf schema linked options.minConfidence columns
      (ResolvedColumn.strategy schema linked columns) with
  | ok plan =>
      exact .inl ⟨_, select_of_plan resolved planned,
        Plan.readsTables_restricted (isBacked_planOf resolved planned) options⟩
  | error problem =>
      obtain ⟨absent, rfl⟩ := planOf_eq_error planned
      refine .inr ⟨absent, ?_⟩
      simp only [select, resolved, bind, Except.bind]
      rw [planned]

/-- A matrix with some columns is accepted exactly if it can be searched for.  Its columns are
then there as they are wanted, and every statement that comes of them reads tables that there
are.  If it cannot, all that is wrong with it is reported, each fault once. -/
theorem resolve_iff_valid (asked : matrix.columns ≠ []) :
    ((∃ columns, matrix.resolve schema = .ok columns) ↔ matrix.IsValid schema) ∧
    (∀ columns, matrix.resolve schema = .ok columns →
      List.Forall₂ (ResolvedColumn.Mirrors schema) matrix.columns columns ∧
      (∀ (row : Alias) layer, row.layer? schema columns = some layer → layer.InSchema schema) ∧
      ∀ linked options,
        (∃ statement, matrix.select schema linked options = .ok statement ∧
          ReadsTables schema columns statement) ∨
        (timed? schema .turn = none ∨ timed? schema .word = none) ∧
          matrix.select schema linked options =
            .error (.invalid [.notApplicable "word searches"
              "a schema without temporal turn and word layers"])) ∧
    (¬matrix.IsValid schema → ∃ problems, matrix.resolve schema = .error (.invalid problems) ∧
      problems ≠ [] ∧ problems.Nodup ∧
      (∀ problem, problem ∈ problems ↔ matrix.Faulty schema problem) ∧
      Problem.unknownLayers problems =
        (missing schema (matrix.columns.flatMap fun column =>
          column.layers.map LayerMatch.id)).eraseDups) := by
  rw [resolve_eq asked, isValid_iff_problems]
  refine ⟨?_, fun columns resolved => ?_, fun faulty => ?_⟩
  · constructor
    · rintro ⟨columns, accepted⟩
      exact (acceptWithout_eq_ok.1 accepted).1
    · exact fun faultless => ⟨_, acceptWithout_eq_ok.2 ⟨faultless, rfl⟩⟩
  · obtain ⟨faultless, rfl⟩ := acceptWithout_eq_ok.1 resolved
    rw [← resolve_eq asked] at resolved
    exact ⟨mirrors_of_isValid (isValid_iff_problems.2 faultless),
      fun _ _ => inSchema_of_layer? resolved, select_of_resolve resolved⟩
  · refine ⟨_, acceptWithout_eq_error faulty, ?_, nodup_eraseDups _, fun problem => ?_, ?_⟩
    · intro none
      obtain ⟨problem, member⟩ := List.exists_mem_of_ne_nil _ faulty
      have kept := List.mem_eraseDups.2 member
      rw [none] at kept
      contradiction
    · rw [List.mem_eraseDups, mem_problems_iff]
    · rw [Problem.unknownLayers_eraseDups, problems, Column.unknownLayers_problemsFrom]

end Matrix

/-! ### Faults of all kinds -/

namespace Faults

/-- The language of a transcript is no annotation in time. -/
def schema : Schema :=
  .ofEntries
    [⟨{ Layer.ofId "word" with tableId := some 0 }, .temporal .word 0⟩,
      ⟨{ Layer.ofId "language" with attributeKey := some ⟨.transcript, "language"⟩ },
        .attributed .transcript "language"⟩]
    { word := some "word" }

def matrix : Matrix :=
  ⟨[⟨[], 0⟩,
      ⟨[{ id := "tone", pattern := some "a", min := some (.zero false), target := true },
          { id := "word", target := true }, { id := "language" }, { id := "tone" }], 1⟩]⟩

end Faults

theorem faults_reported :
    (∃ statement, AroundWords.matrix.select AroundWords.schema AroundWords.linked
        AroundWords.options = .ok statement ∧
      ∃ columns, ReadsTables AroundWords.schema columns statement) ∧
    ¬Faults.matrix.IsValid Faults.schema ∧
      ∃ problems, Faults.matrix.resolve Faults.schema = .error (.invalid problems) ∧
        .invalidMatch 1 "only one layer can be the target" ∈ problems ∧
        Problem.unknownLayers problems = ["tone"] := by
  constructor
  · obtain ⟨-, accepted, -⟩ :=
      @Matrix.resolve_iff_valid AroundWords.schema AroundWords.matrix (by decide)
    obtain ⟨-, -, selects⟩ := accepted _ rfl
    rcases selects AroundWords.linked AroundWords.options with
      ⟨statement, selected, reads⟩ | ⟨absent, -⟩
    · exact ⟨statement, selected, _, reads⟩
    · exact absurd absent (by decide)
  · obtain ⟨iff, -, rejected⟩ := @Matrix.resolve_iff_valid Faults.schema Faults.matrix (by decide)
    have second : Faults.matrix.Faulty Faults.schema
        (.invalidMatch 1 "only one layer can be the target") :=
      @Matrix.Faulty.secondTarget _ _ 1 1 ⟨_, rfl, rfl⟩
        ⟨1, 0, ⟨_, rfl, rfl⟩, .inr ⟨rfl, Nat.zero_lt_one⟩⟩
    have faulty : ¬Faults.matrix.IsValid Faults.schema := by
      rw [Matrix.isValid_iff_problems]
      intro faultless
      have reported := Matrix.mem_problems_iff.2 second
      rw [faultless] at reported
      contradiction
    obtain ⟨problems, failed, -, -, exactly, unknown⟩ := rejected faulty
    exact ⟨faulty, problems, failed, (exactly _).2 second,
      unknown.trans (by decide)⟩

end CorpusQuery.Search
