import CorpusQuery.Proofs.Expression.Junctions
import CorpusQuery.Proofs.Expression.Reach

namespace CorpusQuery.Expression
/-! The canonical text of a well-formed expression reads as that expression; that of
any other expression that a text stands for reads as none. -/

theorem allBlank_display {e : Expression} (built : e.Built) : Text.allBlank e.display = false := by
  obtain ⟨c, chars, start, opening⟩ := startsWith_write e built
  unfold Text.allBlank display
  rw [String.toList_ofList, start, List.all_cons, isBlank_of_isOpening opening]
  rfl

theorem parse_eq_ok {text : String} {value : Expression} :
    parse text = .ok value ↔ Text.allBlank text = false ∧ readAll text.toList = .ok value := by
  unfold parse
  cases blank : Text.allBlank text with
  | true => simp
  | false =>
      simp only [Bool.false_eq_true, if_false, true_and]
      split <;> rename_i read <;> rw [read] <;> simp

/-- The canonical text of a tree that is not plain is the text of no tree. -/
theorem parse_display_cases {e : Expression} (built : e.Built) :
    (e.Plain ∧ parse e.display = .ok e) ∨ (¬e.Plain ∧ ∀ value, parse e.display ≠ .ok value) := by
  have text : readAll e.display.toList = readAll (e.write ++ []) := by
    rw [display, String.toList_ofList, List.append_nil]
  have start : skipSpace (e.write ++ []) = e.write ++ [] :=
    ((startsWith_write e built).append []).skipSpace_eq
  rcases (reads e built).whole [] .nil with ⟨plain, read⟩ | ⟨bad, stops⟩
  · refine .inl ⟨plain, parse_eq_ok.2 ⟨allBlank_display built, ?_⟩⟩
    rw [text, readAll_eq_ok, start]
    exact ⟨[], read, rfl⟩
  · refine .inr ⟨bad, fun value accepted => ?_⟩
    have whole := (parse_eq_ok.1 accepted).2
    rw [text, readAll_eq_ok, start] at whole
    obtain ⟨rest, read, used⟩ := whole
    obtain (⟨more, left⟩ | ⟨more, left⟩) | ⟨c, _, more, left⟩ := stops _ read
    · exact absurd (left.symm.trans used) (List.cons_ne_nil _ _)
    · exact absurd (left.symm.trans used) (List.cons_ne_nil _ _)
    · exact absurd (left.symm.trans used) (List.cons_ne_nil _ _)

theorem parse_display_of_plain {e : Expression} (built : e.Built) (plain : e.Plain) :
    parse e.display = .ok e := by
  rcases parse_display_cases built with ⟨_, read⟩ | ⟨bad, _⟩
  · exact read
  · exact absurd plain bad

/-- Reading undoes writing on every well-formed expression. -/
theorem parse_display (e : Expression) (wellFormed : e.WellFormed) : parse e.display = .ok e := by
  rcases parse_display_cases wellFormed.built with ⟨_, read⟩ | ⟨bad, _⟩
  · exact read
  · exact absurd wellFormed.plain bad

namespace Sample

/-- One half. -/
def half : Number.Binary64 :=
  .finite false (Nat.pow 2 52) 1021 (by decide)

def expression : Expression :=
  .or [.and [.compare (.length (.coalesce [.own .label, .null])) .ge (.integer (-3)),
      .not (.test "a/\\d" (.first "it's" .label))],
    .includesAny (.list [.text "\t'\\é", .number half]) (.labels "word")]

end Sample

theorem sample_reads_back :
    Sample.expression.WellFormed ∧ parse Sample.expression.display = .ok Sample.expression := by
  have wellFormed : Sample.expression.WellFormed := by
    constructor
    · simp [Sample.expression, Sample.half, Built, BuiltAll, Operand.Built, Operand.BuiltAll,
        IsPattern]
    · simp [Sample.expression, Sample.half, Plain, PlainAll, Operand.Plain, Operand.PlainAll,
        Operand.isLength, Number.Binary64.isFinite]
  exact ⟨wellFormed, parse_display Sample.expression wellFormed⟩

/-! ### Expressions that texts stand for -/

theorem built_of_parse {text : String} {e : Expression} (accepted : parse text = .ok e) :
    e.Built :=
  built_of_readAll (parse_eq_ok.1 accepted).2

/-- What `(label.length).length == 1` stands for. -/
def nested : Expression :=
  .compare (.length (.length (.own .label))) .eq (.integer 1)

theorem parse_nested : parse "(label.length).length == 1" = .ok nested := by
  have chars : "(label.length).length == 1".toList =
      enclosedLength (.length (.own .label)) ++
        ' ' :: (symbolChars .eq ++ ' ' :: (Operand.integer 1).write) := by
    have one : (Operand.integer 1).write = ['1'] := by decide
    have inner : (Operand.own .label).write = nameChars .label := toList_name .label
    rw [enclosedLength, Operand.write_length, Operand.choice_of_not_coalesce rfl, inner, one]
    exact String.toList_ofList
  rw [parse_eq_ok, chars]
  exact ⟨by decide, @readAll_enclosedLength (.length (.own .label)) (.integer 1) trivial
    ⟨rfl, trivial⟩ .eq trivial trivial⟩

/-- What a decimal beyond the range of binary values stands for, where one is compared with
it. -/
def beyond : Expression :=
  .compare (.number (.infinite false)) .eq (.integer 1)

theorem parse_beyond {n : Nat} (large : 10 ^ 330 ≤ n) :
    parse (toString n ++ ".0 == 1") = .ok beyond := by
  have positive : 0 < n := Nat.lt_of_lt_of_le (Nat.pow_pos (by decide)) large
  have counted := Number.Decimal.lt_digitCount large
  have shifted := Number.Decimal.digitCount_mul_ten positive
  have chars : (toString n ++ ".0 == 1").toList = (Nat.toDigits 10 n ++ ['.', '0']) ++
      ' ' :: (symbolChars .eq ++ ' ' :: (Operand.integer 1).write) := by
    have one : (Operand.integer 1).write = ['1'] := by decide
    rw [String.toList_append, Nat.toString_eq_repr, Nat.toList_repr, one, List.append_assoc]
    rfl
  rw [parse_eq_ok, chars]
  refine ⟨?_, readAll_beyond (Number.pointed_whole n) (Nat.mul_pos (by decide) positive)
    (by simp only; omega) .eq trivial trivial⟩
  simp [Text.allBlank, Text.isBlank]

/-- Of an expression that a text stands for, the canonical text reads back exactly if all
numbers are finite and no length is taken of a length; otherwise it is the text of no
expression. -/
theorem reparse_iff_plain {text : String} {e : Expression} (accepted : parse text = .ok e) :
    (parse e.display = .ok e ↔ e.Plain) ∧ (¬e.Plain → ∀ value, parse e.display ≠ .ok value) := by
  rcases parse_display_cases (built_of_parse accepted) with ⟨plain, read⟩ | ⟨bad, nothing⟩
  · exact ⟨⟨fun _ => plain, fun _ => read⟩, fun bad => absurd plain bad⟩
  · exact ⟨⟨fun read => absurd read (nothing e), fun plain => absurd plain bad⟩, fun _ => nothing⟩

theorem nested_reparse : (parse "(label.length).length == 1" = .ok nested ∧
    (parse nested.display = .ok nested ↔ nested.Plain) ∧
      (¬nested.Plain → ∀ value, parse nested.display ≠ .ok value)) ∧
    parse (toString (10 ^ 400) ++ ".0 == 1") = .ok beyond ∧
      ∀ value, parse beyond.display ≠ .ok value := by
  have read := @parse_beyond (10 ^ 400) (Nat.pow_le_pow_right (by decide) (by decide))
  have infinite : ¬beyond.Plain := by
    simp [beyond, Plain, Operand.Plain, Number.Binary64.isFinite]
  exact ⟨⟨parse_nested, reparse_iff_plain parse_nested⟩, read, (reparse_iff_plain read).2 infinite⟩

theorem nested_not_reparsed : parse "(label.length).length == 1" = .ok nested ∧
    nested.display = "label.length.length == 1" ∧
      ∀ value, parse "label.length.length == 1" ≠ .ok value := by
  have text : nested.display = "label.length.length == 1" := by decide
  refine ⟨parse_nested, text, ?_⟩
  rw [← text]
  rcases parse_display_cases (built_of_parse parse_nested) with ⟨plain, _⟩ | ⟨_, nothing⟩
  · exact absurd plain.1.1 (by decide)
  · exact nothing

end CorpusQuery.Expression
