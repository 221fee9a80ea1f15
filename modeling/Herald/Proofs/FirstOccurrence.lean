import Mathlib.Data.List.Nodup
import Mathlib.Data.List.Perm.Basic

/-!
# First occurrences

The members of a list without repetitions, in the order of their first occurrence, and what it
comes to when a list is gone through with those in mind that were met before.
-/

namespace Herald

variable {α : Type} [DecidableEq α]

theorem nodup_eraseDups (l : List α) : l.eraseDups.Nodup := by
  cases l with
  | nil => exact List.nodup_nil
  | cons a rest =>
    rw [List.eraseDups_cons, List.nodup_cons, List.mem_eraseDups]
    exact ⟨by simp, nodup_eraseDups _⟩
termination_by l.length
decreasing_by exact Nat.lt_succ_of_le (List.length_filter_le _ _)

/-- Another order of the members is another order of their first occurrences. -/
theorem eraseDups_perm {l l' : List α} (reordered : l.Perm l') : l.eraseDups.Perm l'.eraseDups := by
  rw [List.perm_ext_iff_of_nodup (nodup_eraseDups l) (nodup_eraseDups l')]
  intro a
  rw [List.mem_eraseDups, List.mem_eraseDups, reordered.mem_iff]

/-- Who was met is left out from then on. -/
theorem eraseDups_unmet_cons {a : α} {met : List α} (unmet : a ∉ met) (rest : List α) :
    ((a :: rest).filter (· ∉ met)).eraseDups = a :: (rest.filter (· ∉ a :: met)).eraseDups := by
  have later : (rest.filter (· ∉ met)).filter (fun b => !b == a) = rest.filter (· ∉ a :: met) := by
    rw [List.filter_filter]
    apply List.filter_congr
    intro b _
    rw [Bool.eq_iff_iff]
    simp
  rw [List.filter_cons_of_pos (by simpa using unmet), List.eraseDups_cons, later]

/-- Appending whoever was not met yet appends the first occurrences. -/
theorem foldl_unmet (l met : List α) :
    l.foldl (fun met a => if a ∈ met then met else met ++ [a]) met =
      met ++ (l.filter (· ∉ met)).eraseDups := by
  induction l generalizing met with
  | nil => simp
  | cons a rest ih =>
    rw [List.foldl_cons]
    split
    · rename_i known
      rw [ih, List.filter_cons_of_neg (by simpa using known)]
    · rename_i unmet
      have same : rest.filter (· ∉ met ++ [a]) = rest.filter (· ∉ a :: met) := by
        simp [and_comm]
      rw [ih, same, eraseDups_unmet_cons unmet, List.append_assoc]
      rfl

end Herald
