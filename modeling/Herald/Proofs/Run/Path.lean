import Herald.Run.Reading

/-!
# Paths of runs

A path is one way through a run: the calls that it makes, in order, each with what
came of it, and the result that it ends with, none where a call took it down. A run
has a path for every behaviour of its collaborators (`path_trace`), so what holds of
all paths holds whatever the store, the tracker and the chat do.

Main statements: the paths of a program that goes on after another
(`path_bind`, `path_bind_ok`), and that the calls of a path are among those the run may
make (`Only.path`).
-/

namespace Herald

/-- A call with what came of it: its answer, or none where it never returned. -/
structure Exchange where
  call : Call
  answer : Option call.Answer

namespace Run

variable {α β σ : Type}

/-- One way through a run. The answers are arbitrary: nothing ties two of them
together. -/
inductive Path : Run α → List Exchange → Option α → Prop
  | done (a : α) : Path (.done a) [] (some a)
  | answered {call : Call} {next : call.Answer → Run α} {answer : call.Answer}
      {trace : List Exchange} {result : Option α} (rest : Path (next answer) trace result) :
      Path (.ask call next) (⟨call, some answer⟩ :: trace) result
  | lost (call : Call) (next : call.Answer → Run α) : Path (.ask call next) [⟨call, none⟩] none

/-- What collaborators are asked in a run, and what comes of it. -/
def trace (c : Collaborators σ) : Run α → σ → List Exchange
  | .done _, _ => []
  | .ask call next, s =>
    match c.answer call s with
    | (some answer, s) => ⟨call, some answer⟩ :: (next answer).trace c s
    | (none, _) => [⟨call, none⟩]

/-- Collaborators lead through a run on one of its paths. -/
theorem path_trace (c : Collaborators σ) (r : Run α) (s : σ) :
    r.Path (r.trace c s) (r.exec c s).1 := by
  induction r generalizing s with
  | done a => exact .done a
  | ask call next ih =>
    rw [trace, exec]
    cases outcome : c.answer call s with
    | mk answer after =>
      cases answer with
      | none => exact .lost call next
      | some answer => exact .answered (ih answer after)

/-- What is in a trace is what the collaborators answer in some state. -/
theorem trace_answer {c : Collaborators σ} {r : Run α} {s : σ} {x : Exchange}
    (member : x ∈ r.trace c s) : ∃ s, (c.answer x.call s).1 = x.answer := by
  induction r generalizing s with
  | done a => cases member
  | ask call next ih =>
    rw [trace] at member
    cases outcome : c.answer call s with
    | mk answer after =>
      rw [outcome] at member
      have first : (c.answer call s).1 = answer := by rw [outcome]
      cases answer with
      | none =>
        rw [List.mem_singleton.mp member]
        exact ⟨s, first⟩
      | some answer =>
        rcases List.mem_cons.mp member with rfl | member
        · exact ⟨s, first⟩
        · exact ih answer member

/-- A way on which every call was answered has a result. -/
theorem Path.exists_result {r : Run α} {trace : List Exchange} {result : Option α}
    (path : r.Path trace result) (returned : ∀ x ∈ trace, x.answer ≠ none) :
    ∃ a, result = some a := by
  induction path with
  | done a => exact ⟨a, rfl⟩
  | answered rest ih => exact ih fun x member => returned x (List.mem_cons_of_mem _ member)
  | lost call next => exact absurd rfl (returned _ List.mem_cons_self)

/-- From the state on, every call that the run makes comes back. -/
def Answered (c : Collaborators σ) (r : Run α) (s : σ) : Prop :=
  ∀ x ∈ r.trace c s, x.answer ≠ none

theorem Answered.exists_result {c : Collaborators σ} {r : Run α} {s : σ}
    (answered : r.Answered c s) :
    ∃ a, (r.exec c s).1 = some a ∧ r.Path (r.trace c s) (some a) := by
  have path := path_trace c r s
  obtain ⟨a, ended⟩ := path.exists_result answered
  exact ⟨a, ended, ended ▸ path⟩

theorem answered_of_all {c : Collaborators σ} {r : Run α} {s : σ}
    (all : (r.trace c s).all (·.answer.isSome) = true) : r.Answered c s := by
  intro x member lost
  have returned := List.all_eq_true.mp all x member
  rw [lost] at returned
  cases returned

/-- Only the last call of a run may not come back. -/
theorem Path.returned {r : Run α} {trace : List Exchange} {result : Option α}
    (path : r.Path trace result) : ∀ x ∈ trace.dropLast, x.answer ≠ none := by
  induction path with
  | done a => simp
  | lost call next => simp
  | @answered call next answer trace result rest ih =>
    cases trace with
    | nil => simp
    | cons y others =>
      rw [List.dropLast_cons_cons]
      exact List.forall_mem_cons.mpr ⟨by simp, ih⟩

theorem path_done {a : α} {trace : List Exchange} {result : Option α} :
    (Run.done a).Path trace result ↔ trace = [] ∧ result = some a := by
  constructor
  · intro path
    cases path
    exact ⟨rfl, rfl⟩
  · intro given
    obtain ⟨rfl, rfl⟩ := given
    exact .done a

/-- A call is made first, and unless it is lost its answer decides how to go on. -/
theorem path_ask {call : Call} {next : call.Answer → Run α} {trace : List Exchange}
    {result : Option α} :
    (Run.ask call next).Path trace result ↔
      (∃ answer rest, trace = ⟨call, some answer⟩ :: rest ∧ (next answer).Path rest result) ∨
      (trace = [⟨call, none⟩] ∧ result = none) := by
  constructor
  · intro path
    cases path with
    | answered rest => exact .inl ⟨_, _, rfl, rest⟩
    | lost => exact .inr ⟨rfl, rfl⟩
  · intro given
    rcases given with ⟨answer, rest, rfl, path⟩ | ⟨rfl, rfl⟩
    · exact .answered path
    · exact .lost call next

theorem path_call {call : Call} {trace : List Exchange} {result : Option call.Answer} :
    (Run.call call).Path trace result ↔ trace = [⟨call, result⟩] := by
  rw [Run.call, path_ask]
  constructor
  · intro given
    rcases given with ⟨answer, rest, rfl, path⟩ | ⟨rfl, rfl⟩
    · obtain ⟨rfl, rfl⟩ := path_done.mp path
      rfl
    · rfl
  · intro same
    subst same
    cases result with
    | none => exact .inr ⟨rfl, rfl⟩
    | some answer => exact .inl ⟨answer, [], rfl, .done answer⟩

/-- A path of a program that goes on after another is a path of the first and one of
what follows, unless the first was taken down. -/
theorem path_bind {r : Run α} {f : α → Run β} {trace : List Exchange} {result : Option β} :
    (r >>= f).Path trace result ↔
      (∃ a first rest, r.Path first (some a) ∧ (f a).Path rest result ∧ trace = first ++ rest) ∨
      (r.Path trace none ∧ result = none) := by
  induction r generalizing trace with
  | done a =>
    simp only [done_bind, path_done]
    constructor
    · intro path
      exact .inl ⟨a, [], trace, ⟨rfl, rfl⟩, path, rfl⟩
    · intro given
      rcases given with ⟨b, first, rest, ⟨rfl, same⟩, path, rfl⟩ | ⟨⟨_, impossible⟩, _⟩
      · cases same
        exact path
      · cases impossible
  | ask call next ih =>
    rw [ask_bind, path_ask]
    constructor
    · intro given
      rcases given with ⟨answer, rest, rfl, path⟩ | ⟨rfl, rfl⟩
      · rcases ih answer |>.mp path with ⟨a, first, last, begun, ended, rfl⟩ | ⟨down, rfl⟩
        · exact .inl ⟨a, ⟨call, some answer⟩ :: first, last, .answered begun, ended, rfl⟩
        · exact .inr ⟨.answered down, rfl⟩
      · exact .inr ⟨.lost call next, rfl⟩
    · intro given
      rcases given with ⟨a, first, rest, begun, ended, rfl⟩ | ⟨down, rfl⟩
      · cases begun with
        | answered begun =>
          exact .inl ⟨_, _, rfl, ih _ |>.mpr (.inl ⟨a, _, rest, begun, ended, rfl⟩)⟩
      · rcases path_ask.mp down with ⟨answer, rest, rfl, cut⟩ | ⟨rfl, -⟩
        · exact .inl ⟨answer, rest, rfl, ih answer |>.mpr (.inr ⟨cut, rfl⟩)⟩
        · exact .inr ⟨rfl, rfl⟩

/-- Working on the result makes no calls. -/
theorem path_bind_done {r : Run α} {f : α → β} {trace : List Exchange} {result : Option β} :
    (r >>= fun a => .done (f a)).Path trace result ↔
      ∃ first, r.Path trace first ∧ result = first.map f := by
  rw [path_bind]
  constructor
  · intro given
    rcases given with ⟨a, first, rest, path, ended, rfl⟩ | ⟨path, rfl⟩
    · obtain ⟨rfl, rfl⟩ := path_done.mp ended
      rw [List.append_nil]
      exact ⟨some a, path, rfl⟩
    · exact ⟨none, path, rfl⟩
  · intro given
    obtain ⟨_ | a, path, rfl⟩ := given
    · exact .inr ⟨path, rfl⟩
    · exact .inl ⟨a, trace, [], path, .done (f a), (List.append_nil trace).symm⟩

/-- What goes on after an attempt only matters where the attempt succeeded. -/
theorem path_bind_ok {ε : Type} {x : ExceptT ε Run α} {f : α → ExceptT ε Run β}
    {trace : List Exchange} {b : β} :
    (x >>= f).run.Path trace (some (.ok b)) ↔
      ∃ a first rest, x.run.Path first (some (.ok a)) ∧ (f a).run.Path rest (some (.ok b)) ∧
        trace = first ++ rest := by
  rw [ExceptT.run_bind, path_bind]
  constructor
  · intro given
    rcases given with ⟨a | a, first, rest, begun, ended, rfl⟩ | ⟨_, impossible⟩
    · obtain ⟨-, impossible⟩ := path_done.mp ended
      cases impossible
    · exact ⟨a, first, rest, begun, ended, rfl⟩
    · cases impossible
  · intro given
    obtain ⟨a, first, rest, begun, ended, rfl⟩ := given
    exact .inl ⟨.ok a, first, rest, begun, ended, rfl⟩

/-- Every call that the run may make, whatever it is answered, has a property. -/
def Only (p : Call → Prop) : Run α → Prop
  | .done _ => True
  | .ask call next => p call ∧ ∀ answer, (next answer).Only p

namespace Only

variable {p q : Call → Prop}

theorem call {c : Call} (h : p c) : (Run.call c).Only p :=
  ⟨h, fun _ => trivial⟩

theorem bind {r : Run α} {f : α → Run β} (first : r.Only p) (rest : ∀ a, (f a).Only p) :
    (r >>= f).Only p := by
  induction r with
  | done a => exact rest a
  | ask c next ih => exact ⟨first.1, fun answer => ih answer (first.2 answer)⟩

theorem mapM_mem {l : List α} {f : α → Run β} (each : ∀ a ∈ l, (f a).Only p) :
    (l.mapM f).Only p := by
  induction l with
  | nil => exact trivial
  | cons a rest ih =>
    rw [List.mapM_cons]
    have later : (rest.mapM f).Only p := ih fun b member => each b (List.mem_cons_of_mem a member)
    exact (each a List.mem_cons_self).bind fun _ => later.bind fun _ => trivial

theorem mapM {l : List α} {f : α → Run β} (each : ∀ a, (f a).Only p) : (l.mapM f).Only p :=
  mapM_mem fun a _ => each a

/-- The calls of an attempt are those of its parts. -/
theorem run_bind {ε : Type} {x : ExceptT ε Run α} {f : α → ExceptT ε Run β}
    (first : x.run.Only p) (rest : ∀ a, (f a).run.Only p) : (x >>= f).run.Only p := by
  rw [ExceptT.run_bind]
  refine first.bind fun a => ?_
  cases a with
  | error e => exact trivial
  | ok a => exact rest a

theorem path {r : Run α} {trace : List Exchange} {result : Option α} (only : r.Only p)
    (path : r.Path trace result) : ∀ x ∈ trace, p x.call := by
  induction path with
  | done a => simp
  | answered rest ih =>
    intro x member
    rcases List.mem_cons.mp member with rfl | member
    · exact only.1
    · exact ih (only.2 _) x member
  | lost c next =>
    intro x member
    rw [List.mem_singleton.mp member]
    exact only.1

/-- Collaborators that answer these calls alike cannot be told apart by the run. -/
theorem congr {c c' : Collaborators σ} {r : Run α}
    (only : r.Only fun call => ∀ s, c.answer call s = c'.answer call s) (s : σ) :
    r.trace c s = r.trace c' s ∧ r.exec c s = r.exec c' s := by
  induction r generalizing s with
  | done a => exact ⟨rfl, rfl⟩
  | ask call next ih =>
    rw [trace, trace, exec, exec, ← only.1 s]
    cases c.answer call s with
    | mk answer after =>
      cases answer with
      | none => exact ⟨rfl, rfl⟩
      | some answer =>
        obtain ⟨traces, execs⟩ := ih answer (only.2 answer) after
        exact ⟨congrArg _ traces, execs⟩

theorem mono {r : Run α} (only : r.Only p) (weaker : ∀ c, p c → q c) : r.Only q := by
  induction r with
  | done a => exact trivial
  | ask c next ih => exact ⟨weaker c only.1, fun answer => ih answer (only.2 answer)⟩

end Only

end Run

end Herald
