import CorpusQuery.Proofs.Expression.RoundTrip
import CorpusQuery.Proofs.Filter.References
import CorpusQuery.Proofs.Schema.Construction
import CorpusQuery.Proofs.Sql.Precedence

namespace CorpusQuery

/-! A condition means what its expression does: read with the precedence of SQL, it puts
the truth of the predicates together as the expression does. -/

open Sql

namespace Expression

/-! ### The truth of an expression -/

mutual

/-- The truth of an expression by the truth of its predicates, each of them told from
the others by the positions of the parts that lead to it. -/
def truth (assigned : List Nat → Truth) (path : List Nat) : Expression → Truth
  | .or items => .any (truths assigned path 0 items)
  | .and items => .all (truths assigned path 0 items)
  | .not inner => (truth assigned (path ++ [0]) inner).not
  | .compare .. | .test .. | .includes .. | .includesAny .. => assigned path

/-- The truth of the parts from a position on. -/
def truths (assigned : List Nat → Truth) (path : List Nat) (position : Nat) :
    List Expression → List Truth
  | [] => []
  | item :: items =>
      truth assigned (path ++ [position]) item :: truths assigned path (position + 1) items

end

/-! ### Predicates within a text -/

/-- A predicate, or the negation of a test, whose text has the negation in it. -/
def IsPredicate : Expression → Prop
  | .compare .. | .test .. | .includes .. | .includesAny .. | .not (.test ..) => True
  | _ => False

structure Leaf where
  path : List Nat
  expression : Expression

def Leaf.truth (assigned : List Nat → Truth) (leaf : Leaf) : Truth :=
  leaf.expression.truth assigned leaf.path

mutual

/-- The text of an expression's condition with its predicates as atoms. -/
def marked (path : List Nat) : Expression → List (Symbol Leaf)
  | .or items =>
      .char '(' :: Symbol.between [' ', 'O', 'R', ' '] (markedAll path 0 items) ++ [.char ')']
  | .and items => Symbol.between [' ', 'A', 'N', 'D', ' '] (markedAll path 0 items)
  | .not (.test pattern operand) => [.atom ⟨path, .not (.test pattern operand)⟩]
  | .not inner =>
      Symbol.chars ['N', 'O', 'T', ' '] ++
        (.char '(' :: marked (path ++ [0]) inner ++ [.char ')'])
  | predicate => [.atom ⟨path, predicate⟩]

def markedAll (path : List Nat) (position : Nat) : List Expression → List (List (Symbol Leaf))
  | [] => []
  | item :: items =>
      marked (path ++ [position]) item :: markedAll path (position + 1) items

end

theorem markedAll_ne_nil {items : List Expression} (two : 2 ≤ items.length) (path : List Nat)
    (position : Nat) : markedAll path position items ≠ [] := by
  cases items with
  | nil => contradiction
  | cons item items => exact List.cons_ne_nil _ _

/-! ### What is read -/

mutual

theorem reads_marked (assigned : List Nat → Truth) : ∀ (e : Expression) (path : List Nat),
    e.Built → Sql.Reads (Leaf.truth assigned) (e.marked path) (e.truth assigned path)
  | .or items, path, built =>
      (fills_disjunction (reads_markedAll assigned items path 0 built.2)
        (markedAll_ne_nil built.1 path 0)).reads
  | .and items, path, built =>
      reads_conjunction (reads_markedAll assigned items path 0 built.2)
        (markedAll_ne_nil built.1 path 0)
  | .not inner, path, built => by
      have whole := reads_marked assigned inner (path ++ [0]) built
      cases inner with
      | test pattern operand => exact reads_atom _
      | _ => exact whole.fills.not
  | .compare .., _, _ => reads_atom _
  | .test .., _, _ => reads_atom _
  | .includes .., _, _ => reads_atom _
  | .includesAny .., _, _ => reads_atom _

theorem reads_markedAll (assigned : List Nat → Truth) : ∀ (items : List Expression)
    (path : List Nat) (position : Nat), BuiltAll items →
      List.Forall₂ (Sql.Reads (Leaf.truth assigned)) (markedAll path position items)
        (truths assigned path position items)
  | [], _, _, _ => .nil
  | item :: items, path, position, built =>
      .cons (reads_marked assigned item (path ++ [position]) built.1)
        (reads_markedAll assigned items path (position + 1) built.2)

end

mutual

theorem isPredicate_of_mem_marked {leaf : Leaf} : ∀ (e : Expression) (path : List Nat),
    .atom leaf ∈ e.marked path → leaf.expression.IsPredicate
  | .or items, path, member => by
      have within : .atom leaf ∈ Symbol.between [' ', 'O', 'R', ' '] (markedAll path 0 items) := by
        simpa [marked] using member
      exact isPredicate_of_mem_markedAll items path 0 (Symbol.mem_of_atom_mem_between within)
  | .and items, path, member =>
      isPredicate_of_mem_markedAll items path 0 (Symbol.mem_of_atom_mem_between member)
  | .not inner, path, member => by
      have others (inside : .atom leaf ∈ inner.marked (path ++ [0])) : leaf.expression.IsPredicate :=
        isPredicate_of_mem_marked inner (path ++ [0]) inside
      cases inner with
      | test pattern operand =>
          obtain rfl : leaf = ⟨path, _⟩ := by simpa [marked] using member
          trivial
      | _ =>
          refine others ?_
          simpa [marked, Symbol.chars] using member
  | .compare .., path, member
  | .test .., path, member
  | .includes .., path, member
  | .includesAny .., path, member => by
      obtain rfl : leaf = ⟨path, _⟩ := by simpa [marked] using member
      trivial

theorem isPredicate_of_mem_markedAll {leaf : Leaf} : ∀ (items : List Expression)
    (path : List Nat) (position : Nat),
      (∃ text ∈ markedAll path position items, .atom leaf ∈ text) → leaf.expression.IsPredicate
  | [], _, _, ⟨text, member, _⟩ => absurd member List.not_mem_nil
  | item :: items, path, position, ⟨text, member, within⟩ => by
      rcases List.mem_cons.1 member with rfl | later
      · exact isPredicate_of_mem_marked item _ within
      · exact isPredicate_of_mem_markedAll items path (position + 1) ⟨text, later, within⟩

end

end Expression

/-! ### What is written -/

namespace Filter

theorem spelled_between {text : α → List Char} {separator : Fragment} {letters : List Char}
    (written : separator.sql.toList = letters) {texts : List (List (Symbol α))}
    {fragments : List Fragment}
    (same : texts.map (Symbol.spelled text) = fragments.map (·.sql.toList)) :
    Symbol.spelled text (Symbol.between letters texts) =
      (Fragment.join separator fragments).sql.toList := by
  have alike : List.Forall₂ (fun symbols fragment =>
      Symbol.spelled text symbols = fragment.sql.toList) texts fragments := by
    rwa [← List.forall₂_eq_eq_eq, List.forall₂_map_left_iff, List.forall₂_map_right_iff] at same
  clear same
  induction alike with
  | nil => rfl
  | cons first rest ih =>
      cases rest with
      | nil => exact first
      | cons second others =>
          simp only [Symbol.between, Symbol.spelled_append, Symbol.spelled_chars,
            Fragment.join, Fragment.sql_append, String.toList_append, written] at ih ⊢
          rw [first, ih]

theorem chars_negation (part : Condition) :
    (Condition.negation part).fragment.sql.toList =
      ['N', 'O', 'T', ' '] ++ ('(' :: part.fragment.sql.toList ++ [')']) := by
  rw [Condition.fragment, Fragment.sql_cons, String.toList_append, Fragment.sql_parenthesized]
  rfl

/-- The text of a predicate's negation: the predicate after a `NOT`, or with the
operator that says the opposite. -/
inductive Negation : Fragment → Fragment → Prop
  | prefixed (predicate : Fragment) : Negation predicate (.not :: predicate)
  | opposite (value : Fragment) (pattern : Param) :
      Negation (value ++ [.words " REGEXP ", .bound pattern])
        (value ++ [.words " NOT REGEXP ", .bound pattern])

theorem negation_matching (pattern : String) (value : Value) :
    Negation (matching pattern false value) (matching pattern true value) := by
  cases value with
  | scalar fragment => exact .opposite fragment (.text pattern)
  | literals items => exact .prefixed _
  | rows related column => exact .prefixed _

namespace Scene

/-- The text that the condition has for a predicate. -/
def leafText (scene : Scene) (leaf : Expression.Leaf) : List Char :=
  (scene.condition leaf.expression).value.fragment.sql.toList

variable (scene : Scene)

mutual

theorem spelled_marked : ∀ (e : Expression) (path : List Nat),
    Symbol.spelled scene.leafText (e.marked path) =
      (scene.condition e).value.fragment.sql.toList
  | .or items, path => by
      have inner : Symbol.spelled scene.leafText
          (Symbol.between [' ', 'O', 'R', ' '] (Expression.markedAll path 0 items)) =
            (Fragment.disjunction (Condition.fragments (scene.conditions items).value)).sql.toList :=
        spelled_between (by decide) (spelled_markedAll items path 0)
      rw [Expression.marked, Symbol.spelled_enclosed, inner, condition, Noted.value_bind,
        Noted.value_pure, Condition.fragment, Fragment.sql_parenthesized]
  | .and items, path => by
      have inner : Symbol.spelled scene.leafText
          (Symbol.between [' ', 'A', 'N', 'D', ' '] (Expression.markedAll path 0 items)) =
            (Fragment.conjunction (Condition.fragments (scene.conditions items).value)).sql.toList :=
        spelled_between (by decide) (spelled_markedAll items path 0)
      rw [Expression.marked, condition, Noted.value_bind, Noted.value_pure, Condition.fragment, inner]
  | .not inner, path => by
      have inside := spelled_marked inner (path ++ [0])
      -- A test is negated in its own text, whatever its value is written as.
      cases inner with
      | test pattern operand => simp [Expression.marked, Symbol.spelled, leafText]
      | _ =>
          rw [Expression.marked, condition, Noted.value_bind, Noted.value_pure, chars_negation,
            Symbol.spelled_append, Symbol.spelled_chars, Symbol.spelled_enclosed, inside] <;> simp
  | .compare .., _
  | .test .., _
  | .includes .., _
  | .includesAny .., _ => by simp [Expression.marked, Symbol.spelled, leafText]

theorem spelled_markedAll : ∀ (items : List Expression) (path : List Nat) (position : Nat),
    (Expression.markedAll path position items).map (Symbol.spelled scene.leafText) =
      (Condition.fragments (scene.conditions items).value).map (·.sql.toList)
  | [], _, _ => by simp [Expression.markedAll, conditions, Condition.fragments]
  | item :: items, path, position => by
      simp [Expression.markedAll, conditions, Condition.fragments,
        spelled_marked item, spelled_markedAll items]

end

theorem negation_test (pattern : String) (operand : Operand) :
    Negation (scene.condition (.test pattern operand)).value.fragment
      (scene.condition (.not (.test pattern operand))).value.fragment := by
  simpa [condition, Condition.fragment, test] using
    negation_matching pattern (scene.value operand).value

end Scene

/-- The text of a condition, each predicate in it taken as an atom, is as true as the
expression that it is made of, whatever the truth of the predicates.  A test that is
negated is such an atom too, and its text is the negation of the test's. -/
theorem condition_as_true_as_expression {text : String} {expression : Expression}
    (accepted : Expression.parse text = .ok expression) (schema : Schema) (subject : Subject) :
    let scene : Scene := ⟨schema, (Target.resolve schema subject).value⟩
    Symbol.spelled scene.leafText (expression.marked []) =
        (examine schema subject expression).value.2.sql.toList ∧
      (∀ leaf, .atom leaf ∈ expression.marked [] → leaf.expression.IsPredicate) ∧
      (∀ pattern operand, Negation (scene.condition (.test pattern operand)).value.fragment
        (scene.condition (.not (.test pattern operand))).value.fragment) ∧
      ∀ assigned : List Nat → Truth,
        evaluate (Expression.Leaf.truth assigned) (expression.marked []) =
          some (expression.truth assigned []) := by
  intro scene
  have built := Expression.built_of_parse accepted
  refine ⟨scene.spelled_marked expression [], fun leaf => ?_, scene.negation_test,
    fun assigned => ?_⟩
  · exact Expression.isPredicate_of_mem_marked expression []
  · exact (Expression.reads_marked assigned expression [] built).fills.evaluate

/-! ### A disjunction within a negation -/

namespace Mixed

def expression : Expression :=
  .or [.and [.compare (.own .label) .eq .null, .not (.test "b" (.list [.own .label, .null]))],
    .not (.or [.not (.test "b" (.own .label)), .includes (.list [.own .confidence]) .null])]

/-- The first alternative is not known to hold, and the negation does not. -/
def assigned : List Nat → Truth
  | [0, 0] => .yes
  | [0, 1, 0] => .unknown
  | [1, 0, 0, 0] => .no
  | _ => .no

theorem built : expression.Built := by
  simp [expression, Expression.Built, Expression.BuiltAll, Operand.Built, Operand.BuiltAll,
    Expression.IsPattern]

theorem plain : expression.Plain := by
  simp [expression, Expression.Plain, Expression.PlainAll, Operand.Plain, Operand.PlainAll]

end Mixed

theorem mixed_as_true_as_expression :
    Expression.parse Mixed.expression.display = .ok Mixed.expression ∧
      (examine Schema.wordsOnly (.layer "word") Mixed.expression).value.2.sql.toList =
        ("(annotation.label IS NULL AND NOT (annotation.label REGEXP ? OR NULL REGEXP ?) OR " ++
          "NOT ((annotation.label NOT REGEXP ? OR NULL IN (annotation.label_status))))").toList ∧
      evaluate (Expression.Leaf.truth Mixed.assigned) (Mixed.expression.marked []) =
        some .unknown := by
  have accepted : Expression.parse Mixed.expression.display = .ok Mixed.expression := by
    rcases Expression.parse_display_cases Mixed.built with ⟨_, read⟩ | ⟨bad, _⟩
    · exact read
    · exact absurd Mixed.plain bad
  obtain ⟨_, _, _, truth⟩ :=
    condition_as_true_as_expression accepted Schema.wordsOnly (.layer "word")
  refine ⟨accepted, congrArg String.toList ?_, (truth Mixed.assigned).trans rfl⟩
  decide +kernel

end Filter

end CorpusQuery
