namespace CorpusQuery.Text

/-! Texts cut at a separating character. -/

/-- The stretches between the occurrences of `mark`, of which there is always
one more than there are marks. -/
def fields (mark : Char) : List Char → List (List Char)
  | [] => [[]]
  | c :: rest =>
      if c = mark then [] :: fields mark rest
      else
        match fields mark rest with
        | [] => [[c]]
        | field :: others => (c :: field) :: others

theorem fields_ne_nil (mark : Char) (chars : List Char) : fields mark chars ≠ [] := by
  cases chars with
  | nil => simp [fields]
  | cons c rest =>
      unfold fields
      split
      · simp
      · split <;> simp

/-- What stands before and after the first occurrence of `mark`. -/
def cut (mark : Char) : List Char → Option (List Char × List Char)
  | [] => none
  | c :: rest =>
      if c = mark then some ([], rest)
      else (cut mark rest).map fun (before, after) => (c :: before, after)

theorem eq_append_of_cut {mark : Char} {chars before after : List Char}
    (found : cut mark chars = some (before, after)) :
    chars = before ++ mark :: after ∧ mark ∉ before := by
  induction chars generalizing before with
  | nil => simp [cut] at found
  | cons c rest ih =>
      unfold cut at found
      split at found
      · rename_i here
        obtain ⟨rfl, rfl⟩ : [] = before ∧ rest = after := by simpa using found
        simp [here]
      · rename_i other
        obtain ⟨⟨head, tail⟩, inner, same⟩ := Option.map_eq_some_iff.1 found
        obtain ⟨rfl, rfl⟩ : c :: head = before ∧ tail = after := by simpa using same
        obtain ⟨split, absent⟩ := ih inner
        refine ⟨by simp [split], ?_⟩
        simp only [List.mem_cons, not_or]
        exact ⟨fun equal => other equal.symm, absent⟩

/-- What stands before and after the last occurrence of `mark`. -/
def cutLast (mark : Char) (chars : List Char) : Option (List Char × List Char) :=
  (cut mark chars.reverse).map fun (after, before) => (before.reverse, after.reverse)

end CorpusQuery.Text
