import Herald.Proofs.Run.Path
import Mathlib.Data.List.Forall2

/-!
# Two runs side by side

Two runs, each with collaborators of its own, may take different steps and still be seen to
do the same: what is seen of a call and its answer is up to a view. The parts of the runs are
compared one by one, from states that are related to states that are related (`Matches`). Where
any two states will do, a part that is not seen may be made by one of the runs alone (`Quiet`).

Main statements: parts that match go on to parts that match (`Matches.bind`), and a quiet part
may be put before either run (`Quiet.bind_left`, `Quiet.bind_right`).
-/

namespace Herald.Run

variable {σ τ α β γ δ κ ν : Type}

/-- What comes after a run that ends is asked in the state that it left. -/
theorem trace_bind (c : Collaborators σ) (r : Run α) (f : α → Run β) (s : σ) :
    (r >>= f).trace c s = r.trace c s ++
      match r.exec c s with
      | (some a, s) => (f a).trace c s
      | (none, _) => [] := by
  induction r generalizing s with
  | done a => rfl
  | ask call next ih =>
    rw [ask_bind, trace, trace, exec]
    cases c.answer call s with
    | mk answer after =>
      cases answer with
      | none => rfl
      | some answer => exact congrArg _ (ih answer after)

/-- What a view shows of the calls of a run. -/
def seen (view : Call → Option ν) (trace : List Exchange) : List ν :=
  trace.filterMap fun x => view x.call

theorem seen_append (view : Call → Option ν) (first rest : List Exchange) :
    seen view (first ++ rest) = seen view first ++ seen view rest :=
  List.filterMap_append

/-- Results that are related by what is kept of them are the same in what is kept. -/
theorem map_eq_of_rel {key : α → κ} {key' : β → κ} {a? : Option α} {b? : Option β}
    (related : Option.Rel (fun a b => key a = key' b) a? b?) : a?.map key = b?.map key' := by
  cases related with
  | none => rfl
  | some same => exact congrArg some same

theorem map_eq_iff_forall₂ {key : α → κ} {key' : β → κ} {as : List α} {bs : List β} :
    as.map key = bs.map key' ↔ List.Forall₂ (fun a b => key a = key' b) as bs := by
  rw [← List.forall₂_eq_eq_eq, List.forall₂_map_left_iff, List.forall₂_map_right_iff]

/-- From related states, the runs are seen to do the same, come to related results or are both
taken down, and leave related states. -/
def Matches (c : Collaborators σ) (c' : Collaborators τ) (view : Exchange → Option ν)
    (R : σ → τ → Prop) (Q : α → β → Prop) (r : Run α) (r' : Run β) : Prop :=
  ∀ s s', R s s' → (r.trace c s).filterMap view = (r'.trace c' s').filterMap view ∧
    Option.Rel Q (r.exec c s).1 (r'.exec c' s').1 ∧ R (r.exec c s).2 (r'.exec c' s').2

/-- From whatever state it starts, the run is not seen, and it comes to a result with the
property. -/
def Quiet (c : Collaborators σ) (view : Exchange → Option ν) (p : α → Prop) (r : Run α) : Prop :=
  ∀ s, (r.trace c s).filterMap view = [] ∧ ∃ a, (r.exec c s).1 = some a ∧ p a

/-- Nothing is asked of the states of two runs. -/
def anyStates (_ : σ) (_ : τ) : Prop :=
  True

variable {c : Collaborators σ} {c' : Collaborators τ} {view : Exchange → Option ν}

namespace Matches

variable {R : σ → τ → Prop} {Q : α → β → Prop} {S : γ → δ → Prop} {r : Run α} {r' : Run β}

theorem done {a : α} {b : β} (related : Q a b) : Matches c c' view R Q (.done a) (.done b) :=
  fun _ _ states => ⟨rfl, .some related, states⟩

theorem bind {f : α → Run γ} {g : β → Run δ} (first : Matches c c' view R Q r r')
    (rest : ∀ a b, Q a b → Matches c c' view R S (f a) (g b)) :
    Matches c c' view R S (r >>= f) (r' >>= g) := by
  intro s s' states
  obtain ⟨same, related, left⟩ := first s s' states
  rw [trace_bind, trace_bind, exec_bind, exec_bind, List.filterMap_append, List.filterMap_append,
    same]
  cases ended : r.exec c s with
  | mk a? t =>
    cases ended' : r'.exec c' s' with
    | mk b? t' =>
      rw [ended, ended'] at related left
      cases related with
      | none => exact ⟨rfl, .none, left⟩
      | some related =>
        obtain ⟨later, results, final⟩ := rest _ _ related t t' left
        exact ⟨congrArg _ later, results, final⟩

/-- Two calls that are seen alike with their answers. -/
theorem call {k k' : Call} {Q : k.Answer → k'.Answer → Prop}
    (answers : ∀ s s', R s s' →
      view ⟨k, (c.answer k s).1⟩ = view ⟨k', (c'.answer k' s').1⟩ ∧
        Option.Rel Q (c.answer k s).1 (c'.answer k' s').1 ∧
        R (c.answer k s).2 (c'.answer k' s').2) :
    Matches c c' view R Q (Run.call k) (Run.call k') := by
  intro s s' states
  obtain ⟨shown, related, left⟩ := answers s s' states
  rw [Run.call, Run.call, trace, trace, exec, exec]
  cases answered : c.answer k s with
  | mk x? t =>
    cases answered' : c'.answer k' s' with
    | mk y? t' =>
      rw [answered, answered'] at shown related left
      cases related with
      | none => exact ⟨by simp [List.filterMap_cons, shown], .none, left⟩
      | some related => exact ⟨by simp [trace, List.filterMap_cons, shown], .some related, left⟩

/-- A call that both collaborators answer the same. -/
theorem call_same {k : Call}
    (answers : ∀ s s', R s s' →
      (c.answer k s).1 = (c'.answer k s').1 ∧ R (c.answer k s).2 (c'.answer k s').2) :
    Matches c c' view R Eq (Run.call k) (Run.call k) := by
  refine .call fun s s' states => ?_
  obtain ⟨same, left⟩ := answers s s' states
  rw [same]
  refine ⟨rfl, ?_, left⟩
  cases (c'.answer k s').1 with
  | none => exact .none
  | some answer => exact .some rfl

/-- A run matches itself where its calls are answered the same by both collaborators. -/
theorem of_only {r : Run α}
    (only : r.Only fun k => ∀ s s', R s s' →
      (c.answer k s).1 = (c'.answer k s').1 ∧ R (c.answer k s).2 (c'.answer k s').2) :
    Matches c c' view R Eq r r := by
  induction r with
  | done a => exact .done rfl
  | ask k next ih =>
    rw [← call_bind]
    refine (call_same only.1).bind fun answer answer' same => ?_
    subst same
    exact ih answer (only.2 answer)

/-- Going through a list, with results that are related one by one. -/
theorem mapM {Q : β → γ → Prop} {f : α → Run β} {g : α → Run γ}
    (each : ∀ a, Matches c c' view R Q (f a) (g a)) (l : List α) :
    Matches c c' view R (List.Forall₂ Q) (l.mapM f) (l.mapM g) := by
  induction l with
  | nil => exact .done .nil
  | cons a rest ih =>
    rw [List.mapM_cons, List.mapM_cons]
    exact (each a).bind fun b b' related => ih.bind fun bs bs' others =>
      .done (.cons related others)

end Matches

namespace Quiet

variable {p : α → Prop} {q : β → Prop} {r : Run α}

theorem done {a : α} (holds : p a) : Quiet c view p (.done a) :=
  fun _ => ⟨rfl, a, rfl, holds⟩

theorem bind {f : α → Run β} (first : Quiet c view p r)
    (rest : ∀ a, p a → Quiet c view q (f a)) : Quiet c view q (r >>= f) := by
  intro s
  obtain ⟨unseen, a, ended, holds⟩ := first s
  rw [trace_bind, exec_bind, List.filterMap_append, unseen, List.nil_append]
  cases left : r.exec c s with
  | mk a? t =>
    rw [left] at ended
    cases ended
    exact rest a holds t

theorem call {k : Call} {p : k.Answer → Prop} (unseen : ∀ answer, view ⟨k, answer⟩ = none)
    (answered : ∀ s, ∃ a, (c.answer k s).1 = some a ∧ p a) : Quiet c view p (Run.call k) := by
  intro s
  obtain ⟨a, answer, holds⟩ := answered s
  rw [Run.call, trace, exec]
  cases outcome : c.answer k s with
  | mk a? t =>
    rw [outcome] at answer
    cases answer
    exact ⟨by simp [trace, unseen], a, rfl, holds⟩

/-- Calls that come back and are not seen. -/
theorem of_only (only : r.Only fun k =>
    (∀ answer, view ⟨k, answer⟩ = none) ∧ ∀ s, (c.answer k s).1 ≠ none) :
    Quiet c view (fun _ => True) r := by
  induction r with
  | done a => exact .done trivial
  | ask k next ih =>
    obtain ⟨⟨unseen, answered⟩, later⟩ := only
    rw [← call_bind]
    have first : Quiet c view (fun _ => True) (Run.call k) := by
      refine .call unseen fun s => ?_
      obtain ⟨a, answer⟩ := Option.ne_none_iff_exists'.mp (answered s)
      exact ⟨a, answer, trivial⟩
    exact first.bind fun a _ => ih a (later a)

/-- A way that is not seen is gone quietly where the collaborators answer in every state as on
that way. -/
theorem of_path {r : Run α} {trace : List Exchange} {a : α} (path : r.Path trace (some a))
    (unseen : ∀ x ∈ trace, ∀ answer, view ⟨x.call, answer⟩ = none)
    (answered : ∀ x ∈ trace, ∀ s, (c.answer x.call s).1 = x.answer) : Quiet c view (· = a) r := by
  generalize ended : some a = result at path
  induction path with
  | done b =>
    cases ended
    exact .done rfl
  | @answered call next answer rest result later ih =>
    rw [← call_bind]
    have first : Quiet c view (· = answer) (Run.call call) :=
      .call (unseen _ List.mem_cons_self) fun s => ⟨answer, answered _ List.mem_cons_self s, rfl⟩
    refine first.bind fun b same => ?_
    cases same
    exact ih (fun x member => unseen x (List.mem_cons_of_mem _ member))
      (fun x member => answered x (List.mem_cons_of_mem _ member)) ended
  | lost call next => cases ended

/-- A quiet part may be put before the first of two runs. -/
theorem bind_left {S : β → δ → Prop} {f : α → Run β} {r' : Run δ} (quiet : Quiet c view p r)
    (rest : ∀ a, p a → Matches c c' view anyStates S (f a) r') :
    Matches c c' view anyStates S (r >>= f) r' := by
  intro s s' _
  obtain ⟨unseen, a, ended, holds⟩ := quiet s
  rw [trace_bind, exec_bind, List.filterMap_append, unseen, List.nil_append]
  cases left : r.exec c s with
  | mk a? t =>
    rw [left] at ended
    cases ended
    exact rest a holds t s' trivial

/-- A quiet part may be put before the second of two runs. -/
theorem bind_right {S : δ → β → Prop} {f : α → Run β} {r' : Run δ} (quiet : Quiet c' view p r)
    (rest : ∀ a, p a → Matches c c' view anyStates S r' (f a)) :
    Matches c c' view anyStates S r' (r >>= f) := by
  intro s s' _
  obtain ⟨unseen, a, ended, holds⟩ := quiet s'
  rw [trace_bind, exec_bind, List.filterMap_append, unseen, List.nil_append]
  cases left : r.exec c' s' with
  | mk a? t =>
    rw [left] at ended
    cases ended
    exact rest a holds s t trivial

variable {ε : Type} {a : α}

/-- A quiet success may be put before the first of two runs. -/
theorem run_bind_left {x : ExceptT ε Run α} {f : α → ExceptT ε Run β} {r' : Run δ}
    {S : Except ε β → δ → Prop} (quiet : Quiet c view (· = .ok a) x.run)
    (rest : Matches c c' view anyStates S (f a).run r') :
    Matches c c' view anyStates S (x >>= f).run r' := by
  rw [ExceptT.run_bind]
  refine quiet.bind_left fun result same => ?_
  cases same
  exact rest

/-- A quiet success may be put before the second of two runs. -/
theorem run_bind_right {x : ExceptT ε Run α} {f : α → ExceptT ε Run β} {r' : Run δ}
    {S : δ → Except ε β → Prop} (quiet : Quiet c' view (· = .ok a) x.run)
    (rest : Matches c c' view anyStates S r' (f a).run) :
    Matches c c' view anyStates S r' (x >>= f).run := by
  rw [ExceptT.run_bind]
  refine quiet.bind_right fun result same => ?_
  cases same
  exact rest

end Quiet

end Herald.Run
