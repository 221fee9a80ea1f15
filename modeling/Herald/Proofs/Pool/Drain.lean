import Herald.Proofs.Pool.Steps

/-!
# Draining and joining as schedules

Draining a pool lets one worker run all that waits. Joining gives a handle up first, and
if it was the last one the workers leave afterwards. Main statements: both are schedules
among others (`works_drain`, `works_join`), so a pool that is left alone can come to its
end.
-/

namespace Herald

namespace Pool

variable {σ : Type} {c : Collaborators σ} {sender : UserId}

/-- A schedule by which workers get from one pool to another on their own. -/
def Works (c : Collaborators σ) (sender : UserId) (a b : Pool × σ) : Prop :=
  ∃ moves, Steps c sender a moves b ∧ acceptedIn moves = []

namespace Works

variable {a b d : Pool × σ}

theorem refl (a : Pool × σ) : Works c sender a a :=
  ⟨[], .refl a, rfl⟩

theorem trans (first : Works c sender a b) (rest : Works c sender b d) : Works c sender a d := by
  obtain ⟨moves, run, none⟩ := first
  obtain ⟨later, last, nothing⟩ := rest
  exact ⟨moves ++ later, run.trans last, by rw [acceptedIn_append, none, nothing]; rfl⟩

theorem take {p after : Pool} {s : σ} (worker : Nat)
    (taken : p.take? sender worker = some after) : Works c sender (p, s) (after, s) :=
  ⟨_, .single (.take taken), rfl⟩

theorem advance {p after : Pool} {s s' : σ} (worker : Nat)
    (advanced : p.advance? c worker s = some (after, s')) : Works c sender (p, s) (after, s') :=
  ⟨_, .single (.advance advanced), rfl⟩

theorem leave {p after : Pool} {s : σ} (worker : Nat) (left : p.leave? worker = some after) :
    Works c sender (p, s) (after, s) :=
  ⟨_, .single (.leave left), rfl⟩

end Works

/-- A busy worker gets to the end of its run. -/
theorem works_finish {p : Pool} {worker : Nat} {w : Webhook} {rest : Run Outcome}
    (inside : worker < p.workers.length) (s : σ) :
    Works c sender ({ p with workers := p.workers.set worker (.busy w rest) }, s)
      (p.finish worker w (rest.exec c s).1, (rest.exec c s).2) := by
  induction rest generalizing s with
  | done outcome =>
    refine .advance worker ?_
    simp [advance?, inside, finish, Run.exec]
  | ask call next ih =>
    rw [Run.exec]
    cases answered : c.answer call s with
    | mk answer s' =>
      cases answer with
      | none =>
        refine .advance worker ?_
        simp [advance?, inside, finish, answered]
      | some answer =>
        refine .trans (.advance worker ?_) (ih answer s')
        simp [advance?, inside, answered]

/-- An idle worker can run all that waits, and is idle again. -/
theorem works_runAll {p : Pool} {worker : Nat} (idle : p.workers[worker]? = some .idle) (s : σ) :
    Works c sender (p, s)
      ({ p with
          waiting := []
          finished := p.finished ++ (runAll c sender p.waiting s).1 },
        (runAll c sender p.waiting s).2) := by
  have inside : worker < p.workers.length := (List.getElem?_eq_some_iff.mp idle).1
  have same : p.workers.set worker .idle = p.workers := by
    rw [← (List.getElem?_eq_some_iff.mp idle).2, List.set_getElem_self]
  induction queue : p.waiting generalizing p s with
  | nil =>
    have unchanged : p = { p with waiting := [], finished := p.finished ++ [] } := by
      rw [List.append_nil, ← queue]
    exact unchanged ▸ .refl _
  | cons w rest ih =>
    let busy := { p with
      waiting := rest
      workers := p.workers.set worker (.busy w (w.relay sender)) }
    have taken : p.take? sender worker = some busy :=
      take?_eq_some_iff.mpr ⟨w, rest, idle, queue, rfl⟩
    have finished : Works c sender (busy, s) _ :=
      works_finish (p := { p with waiting := rest }) inside s
    have later := ih (p := { p with
      waiting := rest
      finished := p.finished ++ [⟨w, ((w.relay sender).exec c s).1.getD (.failed .aborted)⟩] })
      idle ((w.relay sender).exec c s).2 inside same rfl
    refine .trans (.take worker taken) (.trans finished ?_)
    unfold finish
    rw [same]
    simpa [runAll] using later

theorem isClosed_eq_false_of_idle {p : Pool} {worker : Nat}
    (idle : p.workers[worker]? = some .idle) : p.isClosed = false := by
  unfold isClosed
  rw [List.all_eq_false]
  exact ⟨.idle, List.mem_of_getElem? idle, by simp [Worker.isGone]⟩

theorem drain_eq {p : Pool} {worker : Nat} (idle : p.workers[worker]? = some .idle) (s : σ) :
    p.drain c sender s =
      ({ p with
          waiting := []
          finished := p.finished ++ (runAll c sender p.waiting s).1 },
        (runAll c sender p.waiting s).2) := by
  unfold drain
  rw [isClosed_eq_false_of_idle idle]
  rfl

/-- As long as a worker is left, the queue can be emptied. -/
theorem works_empty {p : Pool} (manned : p.isClosed = false) (s : σ) :
    ∃ q s', Works c sender (p, s) (q, s') ∧ q.capacity = p.capacity ∧ q.waiting = [] ∧
      q.isClosed = false := by
  unfold isClosed at manned
  rw [List.all_eq_false] at manned
  obtain ⟨first, member, stayed⟩ := manned
  obtain ⟨worker, found⟩ := List.mem_iff_getElem?.mp member
  cases first with
  | gone => exact absurd rfl stayed
  | idle => exact ⟨_, _, works_runAll found s, rfl, rfl, isClosed_eq_false_of_idle found⟩
  | busy w rest =>
    obtain ⟨inside, same⟩ := List.getElem?_eq_some_iff.mp found
    have busy : { p with workers := p.workers.set worker (.busy w rest) } = p := by
      rw [← same, List.set_getElem_self]
    have finished : Works c sender ({ p with workers := p.workers.set worker (.busy w rest) }, s)
        (p.finish worker w (rest.exec c s).1, (rest.exec c s).2) := works_finish inside s
    rw [busy] at finished
    have idle : (p.finish worker w (rest.exec c s).1).workers[worker]? = some .idle :=
      List.getElem?_set_self inside
    exact ⟨_, _, finished.trans (works_runAll idle _), rfl, rfl, isClosed_eq_false_of_idle idle⟩

/-- Draining a pool is one of the schedules of an idle worker. -/
theorem works_drain {p : Pool} {worker : Nat} (idle : p.workers[worker]? = some .idle) (s : σ) :
    Works c sender (p, s) (p.drain c sender s) := by
  rw [drain_eq idle]
  exact works_runAll idle s

/-- Workers that hold nothing can leave one after the other when nothing waits and no
producer is left. -/
theorem works_leave {p : Pool} (stayed rest : List Worker) (s : σ) (waiting : p.waiting = [])
    (nobody : p.producers = 0) (free : ∀ worker ∈ rest, worker.held = []) :
    Works c sender ({ p with workers := stayed ++ rest }, s)
      ({ p with workers := stayed ++ rest.map fun _ => .gone }, s) := by
  induction rest generalizing stayed with
  | nil => exact .refl _
  | cons first rest ih =>
    have later := ih (stayed ++ [.gone]) fun worker member =>
      free worker (List.mem_cons_of_mem first member)
    rw [List.append_assoc, List.append_assoc] at later
    cases first with
    | gone => exact later
    | busy w run => cases free (.busy w run) List.mem_cons_self
    | idle =>
      refine .trans (.leave stayed.length (leave?_eq_some_iff.mpr
        ⟨by simp, waiting, nobody, rfl⟩)) ?_
      simpa using later

/-- Joining a pool in which nobody is busy is giving up a handle and then one of the
schedules of the workers. -/
theorem works_join {p : Pool} {worker : Nat} (producer : 0 < p.producers)
    (idle : p.workers[worker]? = some .idle) (free : ∀ worker ∈ p.workers, worker.held = [])
    (s : σ) : Works c sender (p, s) (p.join c sender s) := by
  have released : Works c sender (p, s) (p.release, s) :=
    ⟨_, .single (.release producer), rfl⟩
  have drained : Works c sender (p.release, s) (p.release.drain c sender s) :=
    works_drain (p := p.release) idle s
  refine released.trans (drained.trans ?_)
  unfold join
  rw [drain_eq (p := p.release) idle]
  dsimp only
  split
  · rename_i nobody
    exact works_leave (p := { p.release with
      waiting := []
      finished := p.finished ++ (runAll c sender p.waiting s).1 }) [] p.workers _ rfl nobody free
  · exact .refl _

end Pool

end Herald
