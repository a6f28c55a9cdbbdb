import CorpusQuery.Proofs.Sql.Clauses
import CorpusQuery.Proofs.Text.Characters

namespace CorpusQuery.Sql

/-! Which parts of a text of SQL stand outside of all parentheses and literals.

A reader goes through the text one character after the other.  It knows nothing of
how the text was made. -/

/-! ### Reading -/

inductive Mode where
  | plain
  /-- In a literal that this mark ends. -/
  | quoted (mark : Char)
  /-- After a backslash in such a literal. -/
  | escaped (mark : Char)
deriving DecidableEq

/-- How many parentheses are open, and whether a literal is. -/
structure Place where
  depth : Nat
  mode : Mode
deriving DecidableEq

def isMark (c : Char) : Bool :=
  c == '\'' || c == '"'

/-- The characters that change the place of a reader who is in no literal. -/
def isOrdinary (c : Char) : Bool :=
  c != '(' && c != ')' && !isMark c

namespace Place

def outside : Place :=
  ⟨0, .plain⟩

/-- A doubled mark ends a literal and begins the next, which comes to the same. -/
def step : Place → Char → Option Place
  | ⟨depth, .plain⟩, c =>
      if c = '(' then some ⟨depth + 1, .plain⟩
      else if c = ')' then if depth = 0 then none else some ⟨depth - 1, .plain⟩
      else if isMark c then some ⟨depth, .quoted c⟩
      else some ⟨depth, .plain⟩
  | ⟨depth, .quoted mark⟩, c =>
      if c = mark then some ⟨depth, .plain⟩
      else if c = '\\' then some ⟨depth, .escaped mark⟩
      else some ⟨depth, .quoted mark⟩
  | ⟨depth, .escaped mark⟩, _ => some ⟨depth, .quoted mark⟩

/-- The place after a text, unless it closes a parenthesis that is not open. -/
def after (place : Place) : List Char → Option Place
  | [] => some place
  | c :: rest => (place.step c).bind (after · rest)

/-- What stands outside, and the marks that begin what does not. -/
def shown (place : Place) : List Char → List Char
  | [] => []
  | c :: rest =>
      let others :=
        match place.step c with
        | some next => shown next rest
        | none => []
      if place = outside then c :: others else others

end Place

/-- Each parenthesis has its partner, and each literal its end. -/
def Nested (text : List Char) : Prop :=
  Place.outside.after text = some .outside

instance (text : List Char) : Decidable (Nested text) :=
  inferInstanceAs (Decidable (_ = _))

def isWordChar (c : Char) : Bool :=
  c.isAlphanum || c == '_'

/-- The words of a text, with nothing between two characters that are in none. -/
def words : List Char → List (List Char)
  | [] => [[]]
  | c :: rest =>
      if isWordChar c then (words rest).modifyHead (c :: ·) else [] :: words rest

/-- The text is nested, and has no `OR` in it but within parentheses or literals. -/
def Sealed (text : List Char) : Prop :=
  Nested text ∧ ∀ word ∈ words (Place.outside.shown text), word.map Char.toUpper ≠ ['O', 'R']

instance (text : List Char) : Decidable (Sealed text) :=
  inferInstanceAs (Decidable (_ ∧ _))

example : Sealed "a = 'x OR (' AND (b OR c)".toList := by decide

example : ¬Sealed "a = b Or c = d".toList := by decide

/-! ### Nested texts -/

namespace Place

theorem after_append (place : Place) (left right : List Char) :
    place.after (left ++ right) = (place.after left).bind (·.after right) := by
  induction left generalizing place with
  | nil => rfl
  | cons c rest ih =>
      rw [List.cons_append, after, after, Option.bind_assoc]
      exact Option.bind_congr fun next _ => ih next

/-- The same text read within more parentheses. -/
theorem step_deeper {place next : Place} {c : Char} (read : place.step c = some next) (more : Nat) :
    step ⟨place.depth + more, place.mode⟩ c = some ⟨next.depth + more, next.mode⟩ := by
  obtain ⟨depth, mode⟩ := place
  cases mode with
  | plain =>
      simp only [step] at read ⊢
      split at read
      · cases read
        simp [*, Nat.add_right_comm]
      · split at read
        · split at read
          · contradiction
          · cases read
            have further : depth + more ≠ 0 := by omega
            have same : depth + more - 1 = depth - 1 + more := by omega
            simp [*]
        · split at read <;> cases read <;> simp [*]
  | quoted mark =>
      simp only [step] at read ⊢
      split at read
      · cases read
        simp [*]
      · rename_i stays
        rw [if_neg stays]
        split at read <;> cases read <;> simp [*]
  | escaped mark =>
      cases read
      rfl

theorem after_deeper {place next : Place} {text : List Char} (read : place.after text = some next)
    (more : Nat) :
    after ⟨place.depth + more, place.mode⟩ text = some ⟨next.depth + more, next.mode⟩ := by
  induction text generalizing place with
  | nil =>
      cases read
      rfl
  | cons c rest ih =>
      obtain ⟨second, stepped, others⟩ := Option.bind_eq_some_iff.1 read
      rw [after, step_deeper stepped more]
      exact ih others

theorem shown_append {place next : Place} {left : List Char} (read : place.after left = some next)
    (right : List Char) : place.shown (left ++ right) = place.shown left ++ next.shown right := by
  induction left generalizing place with
  | nil =>
      cases read
      rfl
  | cons c rest ih =>
      obtain ⟨second, stepped, others⟩ := Option.bind_eq_some_iff.1 read
      simp only [List.cons_append, shown, stepped, ih others]
      split <;> rfl

/-- Nothing is shown of what is read within parentheses. -/
theorem shown_deeper {place next : Place} {text : List Char} (read : place.after text = some next) :
    shown ⟨place.depth + 1, place.mode⟩ text = [] := by
  induction text generalizing place with
  | nil => rfl
  | cons c rest ih =>
      obtain ⟨second, stepped, others⟩ := Option.bind_eq_some_iff.1 read
      rw [shown, step_deeper stepped 1, if_neg (by simp [outside])]
      exact ih others

end Place

theorem Nested.append {left right : List Char} (first : Nested left) (second : Nested right) :
    Nested (left ++ right) := by
  rw [Nested, Place.after_append, first]
  exact second

theorem Nested.parenthesized {text : List Char} (inner : Nested text) :
    Nested ('(' :: text ++ [')']) := by
  have within : Place.after ⟨1, .plain⟩ text = some ⟨1, .plain⟩ := Place.after_deeper inner 1
  change Place.after ⟨1, .plain⟩ (text ++ [')']) = _
  rw [Place.after_append, within]
  rfl

/-- Nothing is shown of what is in parentheses. -/
theorem Nested.shown_parenthesized {text : List Char} (inner : Nested text) :
    Place.outside.shown ('(' :: text ++ [')']) = ['('] := by
  have within : Place.after ⟨1, .plain⟩ text = some ⟨1, .plain⟩ := Place.after_deeper inner 1
  have hidden : Place.shown ⟨1, .plain⟩ text = [] := Place.shown_deeper inner
  change '(' :: Place.shown ⟨1, .plain⟩ (text ++ [')']) = _
  rw [Place.shown_append within, hidden]
  rfl

theorem step_ordinary {c : Char} (ordinary : isOrdinary c) (depth : Nat) :
    Place.step ⟨depth, .plain⟩ c = some ⟨depth, .plain⟩ := by
  simp only [isOrdinary, Bool.and_eq_true, bne_iff_ne, Bool.not_eq_true'] at ordinary
  simp [Place.step, ordinary]

theorem after_ordinary {text : List Char} (ordinary : ∀ c ∈ text, isOrdinary c) :
    Nested text ∧ Place.outside.shown text = text := by
  induction text with
  | nil => exact ⟨rfl, rfl⟩
  | cons c rest ih =>
      obtain ⟨nested, shown⟩ := ih fun other member => ordinary other (by simp [member])
      have stays := step_ordinary (ordinary c (by simp)) 0
      constructor
      · rw [Nested, Place.after, Place.outside, stays]
        exact nested
      · rw [Place.shown, Place.outside, stays, if_pos rfl]
        exact congrArg (c :: ·) shown

/-! ### Words -/

theorem words_ne_nil (text : List Char) : words text ≠ [] := by
  induction text with
  | nil => simp [words]
  | cons c rest ih =>
      rw [words]
      split
      · simpa [List.modifyHead_eq_nil_iff] using ih
      · simp

/-- A character that is in no word ends one. -/
theorem words_append_cons {c : Char} (apart : isWordChar c = false) (left right : List Char) :
    words (left ++ c :: right) = words left ++ words right := by
  induction left with
  | nil => simp [words, apart]
  | cons first rest ih =>
      simp only [List.cons_append, words, ih]
      split
      · cases found : words rest with
        | nil => exact absurd found (words_ne_nil rest)
        | cons word others => rfl
      · rfl

theorem mem_of_mem_words {text word : List Char} (member : word ∈ words text) {c : Char}
    (within : c ∈ word) : c ∈ text := by
  induction text generalizing word with
  | nil => simp_all [words]
  | cons first rest ih =>
      rw [words] at member
      split at member
      · cases found : words rest with
        | nil => exact absurd found (words_ne_nil rest)
        | cons head others =>
            rw [found, List.modifyHead_cons] at member
            rcases List.mem_cons.1 member with rfl | later
            · rcases List.mem_cons.1 within with rfl | inHead
              · simp
              · exact List.mem_cons_of_mem _ (ih (by simp [found]) inHead)
            · exact List.mem_cons_of_mem _ (ih (by simp [found, later]) within)
      · rcases List.mem_cons.1 member with rfl | later
        · contradiction
        · exact List.mem_cons_of_mem _ (ih later within)

/-! ### Sealed texts -/

namespace Sealed

/-- No `O` is shown. -/
theorem of_shown {text : List Char} (nested : Nested text)
    (plain : ∀ c ∈ Place.outside.shown text, c.toUpper ≠ 'O') : Sealed text := by
  refine ⟨nested, fun word member same => ?_⟩
  cases word with
  | nil => contradiction
  | cons first rest =>
      rw [List.map_cons, List.cons_eq_cons] at same
      exact plain first (mem_of_mem_words member (List.mem_cons_self ..)) same.1

theorem parenthesized {text : List Char} (inner : Nested text) :
    Sealed ('(' :: text ++ [')']) := by
  refine of_shown inner.parenthesized ?_
  rw [inner.shown_parenthesized]
  decide

/-- The right text begins with a character that is in no word. -/
theorem append {left right : List Char} (first : Sealed left) (second : Sealed right)
    (apart : ∀ c ∈ right.head?, isWordChar c = false) : Sealed (left ++ right) := by
  refine ⟨first.1.append second.1, ?_⟩
  rw [Place.shown_append first.1]
  cases right with
  | nil => simpa [Place.shown] using first.2
  | cons c rest =>
      have ends := apart c rfl
      obtain ⟨others, same⟩ : ∃ others, Place.outside.shown (c :: rest) = c :: others :=
        ⟨_, by rw [Place.shown, if_pos rfl]⟩
      have right := second.2
      rw [same, words, ends] at right
      rw [same, words_append_cons ends]
      intro word member
      rcases List.mem_append.1 member with before | behind
      · exact first.2 word before
      · exact right word (List.mem_cons_of_mem _ behind)

/-- The left text ends with a character that is in no word. -/
theorem ordinary_append {left right : List Char} (ordinary : ∀ c ∈ left, isOrdinary c)
    (first : Sealed left) (second : Sealed right)
    (apart : ∀ c ∈ left.getLast?, isWordChar c = false) : Sealed (left ++ right) := by
  refine ⟨first.1.append second.1, ?_⟩
  have seen := (after_ordinary ordinary).2
  have leftWords := first.2
  rw [seen] at leftWords
  rw [Place.shown_append first.1, seen]
  rcases List.eq_nil_or_concat left with rfl | ⟨start, last, rfl⟩
  · exact second.2
  · rw [List.concat_eq_append] at *
    have ends := apart last (by simp)
    rw [words_append_cons ends] at leftWords
    rw [List.append_assoc, List.singleton_append, words_append_cons ends]
    intro word member
    rcases List.mem_append.1 member with before | behind
    · exact leftWords word (List.mem_append_left _ before)
    · exact second.2 word behind

end Sealed

/-! ### Literals and numbers -/

/-- What a literal has in it does not end it, and shows nothing but marks. -/
theorem after_literalChars (text rest : List Char) :
    Place.after ⟨0, .quoted '\''⟩ (text.flatMap literalChar ++ rest) =
        Place.after ⟨0, .quoted '\''⟩ rest ∧
      ∀ c ∈ Place.shown ⟨0, .quoted '\''⟩ (text.flatMap literalChar ++ rest),
        c = '\'' ∨ c ∈ Place.shown ⟨0, .quoted '\''⟩ rest := by
  induction text with
  | nil => exact ⟨rfl, fun c member => .inr member⟩
  | cons first others ih =>
      obtain ⟨read, shown⟩ := ih
      rw [List.flatMap_cons, List.append_assoc]
      by_cases isQuote : first = '\''
      · subst first
        refine ⟨read, fun c member => ?_⟩
        rcases List.mem_cons.1 member with rfl | later
        · exact .inl rfl
        · exact shown c later
      · by_cases isBackslash : first = '\\'
        · subst first
          exact ⟨read, shown⟩
        · have alone : literalChar first = [first] := by
            simp [literalChar]
          have stays : Place.step ⟨0, .quoted '\''⟩ first = some ⟨0, .quoted '\''⟩ := by
            simp [Place.step, isQuote, isBackslash]
          rw [alone, List.singleton_append, Place.after, Place.shown, stays]
          exact ⟨read, shown⟩

theorem sealed_literal (text : String) : Sealed (literal text).toList := by
  obtain ⟨read, shown⟩ := after_literalChars text.toList ['\'']
  rw [literal, String.toList_ofList]
  refine Sealed.of_shown read fun c member => ?_
  rcases List.mem_cons.1 member with rfl | later
  · decide
  · rcases shown c later with rfl | last
    · decide
    · exact absurd last List.not_mem_nil

end CorpusQuery.Sql
