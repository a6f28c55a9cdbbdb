import CorpusQuery.Text.Fields

namespace CorpusQuery.Text

/-! Texts that are cut where they were put together. -/

theorem fields_eq_splitOn (mark : Char) (chars : List Char) :
    fields mark chars = chars.splitOn mark := by
  induction chars with
  | nil => simp [fields]
  | cons c rest ih =>
      rw [fields, List.splitOn_cons_eq_if_modifyHead, ← ih]
      by_cases here : c = mark
      · simp [here]
      · cases found : fields mark rest with
        | nil => exact absurd found (fields_ne_nil mark rest)
        | cons field others => simp [here]

theorem fields_intercalate {mark : Char} {texts : List (List Char)}
    (apart : ∀ text ∈ texts, mark ∉ text) (some : texts ≠ []) :
    fields mark ([mark].intercalate texts) = texts := by
  rw [fields_eq_splitOn, List.splitOn_intercalate mark apart some]

theorem fields_append (mark : Char) (left right : List Char) :
    fields mark (left ++ mark :: right) = fields mark left ++ fields mark right := by
  induction left with
  | nil => simp [fields]
  | cons c rest ih =>
      rw [List.cons_append, fields, fields, ih]
      split
      · rfl
      · cases found : fields mark rest with
        | nil => exact absurd found (fields_ne_nil mark rest)
        | cons field others => rfl

/-- A stretch is of the text, and the mark is in none. -/
theorem of_mem_fields {mark : Char} {chars field : List Char} (member : field ∈ fields mark chars) :
    field ⊆ chars ∧ mark ∉ field := by
  induction chars generalizing field with
  | nil =>
      obtain rfl : field = [] := by simpa [fields] using member
      simp
  | cons c rest ih =>
      rw [fields] at member
      split at member
      · rcases List.mem_cons.1 member with rfl | later
        · simp
        · exact (ih later).imp_left (List.subset_cons_of_subset c)
      · rename_i other
        cases found : fields mark rest with
        | nil => exact absurd found (fields_ne_nil mark rest)
        | cons head others =>
            rw [found] at ih member
            rcases List.mem_cons.1 member with rfl | later
            · obtain ⟨inside, absent⟩ := ih (List.mem_cons_self ..)
              refine ⟨List.cons_subset_cons c inside, ?_⟩
              simp only [List.mem_cons, not_or]
              exact ⟨fun same => other same.symm, absent⟩
            · exact (ih (List.mem_cons_of_mem _ later)).imp_left (List.subset_cons_of_subset c)

theorem cut_append {mark : Char} {before : List Char} (apart : mark ∉ before)
    (after : List Char) : cut mark (before ++ mark :: after) = some (before, after) := by
  induction before with
  | nil => simp [cut]
  | cons c rest ih =>
      simp only [List.mem_cons, not_or] at apart
      simp [cut, Ne.symm apart.1, ih apart.2]

theorem cutLast_append {mark : Char} {after : List Char} (apart : mark ∉ after)
    (before : List Char) : cutLast mark (before ++ mark :: after) = some (before, after) := by
  have turned : (before ++ mark :: after).reverse = after.reverse ++ mark :: before.reverse := by
    simp
  rw [cutLast, turned, cut_append (by simpa using apart)]
  simp

end CorpusQuery.Text
