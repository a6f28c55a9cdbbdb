import CorpusQuery.Proofs.Expression.Progress

namespace CorpusQuery.Expression

/-! A text that is no expression is reported at the place where the grammar is stuck on it. -/

open Pattern

/-- An expression that takes up a whole text. -/
def Rule.whole : Pattern Rule :=
  both (padded (rule expression)) (lexeme fun input => if input = [] then some [] else none)

theorem endsAt_readAll (input : List Char) :
    match readAll input with
    | .ok _ => Rule.whole.EndsAt Rule.pattern input (.behind [])
    | .error place => Rule.whole.EndsAt Rule.pattern input (.stuck place) := by
  have inner := (expressionsEnd (skipSpace input)).whole
  unfold readAll
  cases read : expression (skipSpace input) with
  | stuck place within =>
      rw [read] at inner
      exact .cut (.padded_cut inner)
  | taken first =>
      rw [read] at inner
      have used : (padded (rule Rule.expression)).EndsAt Rule.pattern input
          (.behind (skipSpace first.rest)) := .padded inner
      simp only
      cases left : skipSpace first.rest with
      | nil =>
          rw [left] at used
          exact .both used (.found rfl)
      | cons c rest =>
          rw [left] at used
          exact .both used (.missing rfl)

theorem readAll_eq_error {input place : List Char} :
    readAll input = .error place ↔ Rule.whole.EndsAt Rule.pattern input (.stuck place) := by
  have ends := endsAt_readAll input
  cases read : readAll input with
  | ok value =>
      rw [read] at ends
      exact ⟨nofun, fun stuck => nomatch ends.unique stuck⟩
  | error stop =>
      rw [read] at ends
      constructor
      · intro same
        cases same
        exact ends
      · intro stuck
        cases ends.unique stuck
        rfl

theorem suffix_of_readAll {input place : List Char} (stopped : readAll input = .error place) :
    place <:+ input := by
  unfold readAll at stopped
  split at stopped
  · rename_i within _
    cases stopped
    exact within.trans (skipSpace_suffix input)
  · rename_i read _
    split at stopped
    · cases stopped
    · cases stopped
      exact (skipSpace_suffix read.rest).trans (read.proper.1.trans (skipSpace_suffix input))

theorem byteOffset_append (before behind : String) :
    byteOffset (before ++ behind) behind.toList = before.utf8ByteSize := by
  unfold byteOffset
  rw [String.ofList_toList, String.utf8ByteSize_append]
  omega

theorem exists_divided {text : String} {place : List Char} (suffix : place <:+ text.toList) :
    ∃ before behind : String, text = before ++ behind ∧ behind.toList = place := by
  obtain ⟨taken, parts⟩ := suffix
  refine ⟨String.ofList taken, String.ofList place, ?_, String.toList_ofList⟩
  rw [← String.ofList_append, parts, String.ofList_toList]

theorem parse_eq_unreadable {text : String} {offset : Nat} {detail : String} :
    parse text = .error (.unreadable offset detail) ↔
      Text.allBlank text = false ∧ ∃ place, readAll text.toList = .error place ∧
        byteOffset text place = offset ∧ describePlace place = detail := by
  unfold parse
  cases blank : Text.allBlank text with
  | true => simp
  | false =>
      simp only [Bool.false_eq_true, if_false, true_and]
      split <;> rename_i read <;> rw [read] <;> simp

/-- Each rule of the grammar has one ending on every input, that of its reader: behind
something that was taken, or stuck at a place in the input.  A text that cannot be read is
reported at the place where the grammar is stuck on it, by the number of bytes before that
place and by what stands behind it. -/
theorem readers_end_within_text :
    (∀ (name : Rule) (input : List Char),
      (∀ ending, (rule name).EndsAt Rule.pattern input ending ↔ name.ending input = ending) ∧
      (∀ rest, name.ending input = .behind rest → rest <:+ input ∧ rest.length < input.length) ∧
      ∀ place, name.ending input = .stuck place → place <:+ input) ∧
    ∀ (text : String) (offset : Nat) (detail : String),
      parse text = .error (.unreadable offset detail) ↔
        Text.allBlank text = false ∧
        (offset ≤ text.utf8ByteSize ∧ (⟨offset⟩ : String.Pos.Raw).IsValid text) ∧
        ∃ before behind, text = before ++ behind ∧ before.utf8ByteSize = offset ∧
          Rule.whole.EndsAt Rule.pattern text.toList (.stuck behind.toList) ∧
          describePlace behind.toList = detail := by
  refine ⟨fun name input => ⟨fun ending => Rule.endsAt_iff, fun rest => Rule.proper_of_behind,
    fun place => Rule.suffix_of_stuck⟩, fun text offset detail => ?_⟩
  rw [parse_eq_unreadable]
  refine and_congr_right fun _ => ?_
  constructor
  · rintro ⟨place, stopped, rfl, rfl⟩
    obtain ⟨before, behind, rfl, rfl⟩ := exists_divided (suffix_of_readAll stopped)
    have valid : (⟨before.utf8ByteSize⟩ : String.Pos.Raw).IsValid (before ++ behind) :=
      String.Pos.Raw.isValid_iff_exists_append.2 ⟨before, behind, rfl, rfl⟩
    rw [byteOffset_append]
    exact ⟨⟨valid.le_utf8ByteSize, valid⟩, before, behind, rfl, rfl,
      readAll_eq_error.1 stopped, rfl⟩
  · rintro ⟨_, before, behind, rfl, rfl, stuck, rfl⟩
    exact ⟨behind.toList, readAll_eq_error.2 stuck, byteOffset_append before behind, rfl⟩

/-- A conjunction that lacks its second part, and an operand whose parenthesis is not closed. -/
theorem unfinished_texts_placed :
    (Rule.expression.ending "label == 'é' &&".toList = .behind ['&', '&'] ∧
      ['&', '&'] <:+ "label == 'é' &&".toList ∧ 2 < "label == 'é' &&".toList.length) ∧
    (Rule.operand.ending "(label ?? 'é' &&".toList = .stuck ['&', '&'] ∧
      ['&', '&'] <:+ "(label ?? 'é' &&".toList) ∧
    parse "label == 'é' &&" = .error (.unreadable 14 "unexpected input near `&&`") := by
  have read : Rule.expression.ending "label == 'é' &&".toList = .behind ['&', '&'] := by
    decide +kernel
  have stuck : Rule.operand.ending "(label ?? 'é' &&".toList = .stuck ['&', '&'] := by
    decide +kernel
  have whole : Rule.whole.EndsAt Rule.pattern "label == 'é' &&".toList (.stuck "&&".toList) :=
    .both (.padded (((readers_end_within_text.1 .expression _).1 _).2 read)) (.missing rfl)
  refine ⟨⟨read, (readers_end_within_text.1 .expression _).2.1 _ read⟩,
    ⟨stuck, (readers_end_within_text.1 .operand _).2.2 _ stuck⟩, ?_⟩
  exact (readers_end_within_text.2 _ 14 _).2
    ⟨by decide, by decide, "label == 'é' ", "&&", by decide, by decide, whole, by decide⟩

end CorpusQuery.Expression
