import CorpusQuery.Problem
import Mathlib.Data.List.Nodup

namespace CorpusQuery

/-! Which of the problems that are met are reported: all of them, the first of those that
are equal, in their order. -/

/-! ### Lists without repetitions -/

section

variable {α β : Type} [BEq α] [LawfulBEq α] [BEq β] [LawfulBEq β]

theorem nodup_eraseDups (as : List α) : as.eraseDups.Nodup := by
  match as with
  | [] => simp
  | a :: rest =>
      rw [List.eraseDups_cons, List.nodup_cons]
      exact ⟨by simp, nodup_eraseDups _⟩
termination_by as.length
decreasing_by exact Nat.lt_succ_of_le (List.length_filter_le _ _)

/-- Repetitions may be erased before or after a map that keeps what it maps apart. -/
theorem filterMap_eraseDups {f : α → Option β}
    (injective : ∀ a a' b, f a = some b → f a' = some b → a = a') (as : List α) :
    as.eraseDups.filterMap f = (as.filterMap f).eraseDups := by
  match as with
  | [] => rfl
  | a :: rest =>
      have others := filterMap_eraseDups injective (rest.filter fun b => !b == a)
      rw [List.eraseDups_cons, List.filterMap_cons, List.filterMap_cons, others,
        List.filterMap_filter]
      cases image : f a with
      | none =>
          have same : (fun b => if (!b == a) = true then f b else none) = f := by
            funext b
            by_cases equal : b = a <;> simp [equal, image]
          rw [same]
      | some b =>
          have same : (fun c => if (!c == a) = true then f c else none) =
              fun c => (f c).filter fun d => !d == b := by
            funext c
            by_cases equal : c = a
            · simp [equal, image, Option.filter_some]
            · cases other : f c with
              | none => simp
              | some d =>
                  have apart : d ≠ b := fun same => equal (injective c a b (same ▸ other) image)
                  simp [equal, apart, Option.filter_some]
          rw [same, List.eraseDups_cons, List.filter_filterMap]
termination_by as.length
decreasing_by exact Nat.lt_succ_of_le (List.length_filter_le _ _)

theorem filter_eraseDups (keep : α → Bool) (as : List α) :
    as.eraseDups.filter keep = (as.filter keep).eraseDups := by
  rw [← List.filterMap_eq_filter]
  apply filterMap_eraseDups
  intro a a' b first second
  exact (Option.guard_eq_some_iff.1 first).1.trans (Option.guard_eq_some_iff.1 second).1.symm

theorem eraseDups_of_nodup {as : List α} (nodup : as.Nodup) : as.eraseDups = as := by
  induction as with
  | nil => rfl
  | cons a rest ih =>
      obtain ⟨fresh, others⟩ := List.nodup_cons.1 nodup
      have kept : rest.filter (fun b => !b == a) = rest := by
        rw [List.filter_eq_self]
        intro b member
        have apart : b ≠ a := fun same => fresh (same ▸ member)
        simpa using apart
      rw [List.eraseDups_cons, kept, ih others]

theorem eraseDups_append_eraseDups (as bs : List α) :
    (as.eraseDups ++ bs).eraseDups = (as ++ bs).eraseDups := by
  have same : bs.removeAll as.eraseDups = bs.removeAll as := by
    simp [List.removeAll]
  rw [List.eraseDups_append, List.eraseDups_append, same, eraseDups_of_nodup (nodup_eraseDups as)]

theorem append_eraseDups_eraseDups (as bs : List α) :
    (as ++ bs.eraseDups).eraseDups = (as ++ bs).eraseDups := by
  have same : (bs.eraseDups.removeAll as).eraseDups = (bs.removeAll as).eraseDups := by
    rw [List.removeAll, List.removeAll, filter_eraseDups,
      eraseDups_of_nodup (nodup_eraseDups _)]
  rw [List.eraseDups_append, List.eraseDups_append, same]

theorem eraseDups_append_of_subset {as bs : List α} (known : ∀ b ∈ bs, b ∈ as) (cs : List α) :
    (as ++ (bs ++ cs)).eraseDups = (as ++ cs).eraseDups := by
  have none : bs.removeAll as = [] := by
    simpa [List.removeAll] using known
  have same : (bs ++ cs).removeAll as = cs.removeAll as := by
    rw [List.removeAll, List.filter_append, ← List.removeAll, none, List.nil_append,
      ← List.removeAll]
  rw [List.eraseDups_append, List.eraseDups_append, same]

/-- What all parts have in front of them counts once. -/
theorem eraseDups_flatMap_append {ι : Type} (before : List α) (own : ι → List α)
    {parts : List ι} (some : parts ≠ []) :
    (parts.flatMap fun part => (before ++ own part).eraseDups).eraseDups =
      (before ++ parts.flatMap own).eraseDups := by
  have behind (parts : List ι) (met : List α) (known : ∀ b ∈ before, b ∈ met) :
      (met ++ parts.flatMap fun part => (before ++ own part).eraseDups).eraseDups =
        (met ++ parts.flatMap own).eraseDups := by
    induction parts generalizing met with
    | nil => rfl
    | cons part rest ih =>
        have further := ih (met ++ own part)
          fun b member => List.mem_append_left _ (known b member)
        rw [List.flatMap_cons, List.flatMap_cons, ← List.append_assoc, ← List.append_assoc,
          ← further, ← eraseDups_append_eraseDups, append_eraseDups_eraseDups,
          eraseDups_append_eraseDups, List.append_assoc, List.append_assoc, List.append_assoc,
          eraseDups_append_of_subset known]
  cases parts with
  | nil => contradiction
  | cons part rest =>
      rw [List.flatMap_cons, List.flatMap_cons, eraseDups_append_eraseDups, ← List.append_assoc]
      exact behind rest (before ++ own part) fun b member => List.mem_append_left _ member

end

/-! ### Reports -/

/-- The problems for which a query has no statement. -/
def reported : Except QueryError α → List Problem
  | .error (.invalid problems) => problems
  | _ => []

theorem reported_acceptWithout (problems : List Problem) (value : α) :
    reported (acceptWithout problems value) = problems.eraseDups := by
  unfold acceptWithout
  cases found : problems.eraseDups <;> rfl

theorem acceptWithout_eq_error {problems : List Problem} {value : α} (some : problems ≠ []) :
    acceptWithout problems value = .error (.invalid problems.eraseDups) := by
  unfold acceptWithout
  cases problems with
  | nil => contradiction
  | cons first rest => simp [List.eraseDups_cons]

namespace Problem

def unknownLayer? : Problem → Option String
  | .unknownLayer layer => some layer
  | _ => none

/-- The layers that are not known, in the order of the problems. -/
def unknownLayers (problems : List Problem) : List String :=
  problems.filterMap unknownLayer?

@[simp] theorem unknownLayers_nil : unknownLayers [] = [] := rfl

@[simp] theorem unknownLayers_append (left right : List Problem) :
    unknownLayers (left ++ right) = unknownLayers left ++ unknownLayers right :=
  List.filterMap_append

theorem unknownLayers_eraseDups (problems : List Problem) :
    unknownLayers problems.eraseDups = (unknownLayers problems).eraseDups := by
  apply filterMap_eraseDups
  intro left right layer first second
  cases left <;> cases right <;> simp_all [unknownLayer?]

end Problem

end CorpusQuery
