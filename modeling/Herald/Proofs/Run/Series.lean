import Herald.Proofs.Run.Path
import Mathlib.Data.List.Forall2

/-!
# Doing the same for every member of a list

A run that goes through a list does its part for each member in turn, up to the part that is
taken down. No part depends on what came of the others.

Main statements: the ways through the whole are the ways through the parts, one after the
other (`path_mapM_ok`), and what is to be seen of the parts is to be seen of the whole
(`path_mapM_shown`, `path_mapM_collected`).
-/

namespace Herald.Run

variable {α β ν : Type} {f : α → Run β} {l : List α} {trace : List Exchange}

/-- The ways to the end of the whole: any way to the end of the first part, then any way to
the end of the second, and so on. -/
theorem path_mapM_ok {bs : List β} :
    (l.mapM f).Path trace (some bs) ↔
      ∃ parts : List (List Exchange × β),
        List.Forall₂ (fun a part => (f a).Path part.1 (some part.2)) l parts ∧
          trace = (parts.map (·.1)).flatten ∧ bs = parts.map (·.2) := by
  induction l generalizing trace bs with
  | nil =>
    rw [List.mapM_nil, pure_eq_done, path_done]
    constructor
    · rintro ⟨rfl, same⟩
      cases same
      exact ⟨[], .nil, rfl, rfl⟩
    · rintro ⟨parts, each, rfl, rfl⟩
      cases each
      exact ⟨rfl, rfl⟩
  | cons a rest ih =>
    rw [List.mapM_cons, path_bind]
    constructor
    · intro given
      rcases given with ⟨b, first, others, made, next, rfl⟩ | ⟨_, impossible⟩
      · obtain ⟨outcome, going, same⟩ := path_bind_done.mp next
        obtain ⟨later, rfl, rfl⟩ := Option.map_eq_some_iff.mp same.symm
        obtain ⟨parts, each, rfl, rfl⟩ := ih.mp going
        exact ⟨(first, b) :: parts, .cons made each, rfl, rfl⟩
      · cases impossible
    · rintro ⟨parts, each, rfl, rfl⟩
      cases each with
      | @cons _ part _ parts made each =>
        have going := path_bind_done (f := fun later => part.2 :: later).mpr
          ⟨some _, ih.mpr ⟨parts, each, rfl, rfl⟩, rfl⟩
        exact .inl ⟨part.2, part.1, _, made, going, rfl⟩

/-- Where each part shows what is due for its member, or less if it is taken down, the whole
shows what is due for all members, or less if it is taken down. -/
theorem path_mapM_shown {view : Exchange → Option ν} {due : α → List ν} {fits : Exchange → Prop}
    {result : Option (List β)}
    (each : ∀ a part b?, (f a).Path part b? → (∀ x ∈ part, fits x) →
      part.filterMap view <+: due a ∧ (b?.isSome = true → part.filterMap view = due a))
    (path : (l.mapM f).Path trace result) (fitting : ∀ x ∈ trace, fits x) :
    trace.filterMap view <+: l.flatMap due ∧
      (result.isSome = true → trace.filterMap view = l.flatMap due) := by
  induction l generalizing trace result with
  | nil =>
    obtain ⟨rfl, -⟩ := path_done.mp path
    exact ⟨List.prefix_rfl, fun _ => rfl⟩
  | cons a rest ih =>
    rw [List.mapM_cons] at path
    rw [List.flatMap_cons]
    rcases path_bind.mp path with ⟨b, first, others, made, next, rfl⟩ | ⟨down, rfl⟩
    · obtain ⟨outcome, going, rfl⟩ := path_bind_done.mp next
      obtain ⟨early, later⟩ := List.forall_mem_append.mp fitting
      obtain ⟨started, complete⟩ := ih going later
      rw [List.filterMap_append, (each a first _ made early).2 rfl, Option.isSome_map]
      exact ⟨(List.prefix_append_right_inj _).mpr started, fun ended => by rw [complete ended]⟩
    · refine ⟨(each a trace none down fitting).1.trans (List.prefix_append _ _), ?_⟩
      intro impossible
      cases impossible

/-- What the results of the parts are collected from is seen along the way. -/
theorem path_mapM_collected {view : Exchange → Option ν} {collect : β → Option ν} {bs : List β}
    (each : ∀ a part b, (f a).Path part (some b) → part.filterMap view = (collect b).toList)
    (path : (l.mapM f).Path trace (some bs)) :
    trace.filterMap view = bs.filterMap collect := by
  obtain ⟨parts, made, rfl, rfl⟩ := path_mapM_ok.mp path
  clear path
  induction made with
  | nil => rfl
  | @cons a part rest parts first _ ih =>
    rw [List.map_cons, List.map_cons, List.flatten_cons, List.filterMap_append, each a _ _ first,
      ih, List.filterMap_cons]
    cases collect part.2 <;> rfl

end Herald.Run
