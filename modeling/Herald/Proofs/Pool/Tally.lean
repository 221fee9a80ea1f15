import Herald.Proofs.Pool.Steps

/-!
# Counting what a pool does

Much can be counted by webhook: the webhooks themselves, their outcomes, the calls that are
made for them. What was made and has ended is then counted together with what is still
ahead. Main statement: if every single call of a run keeps the count, a pool keeps it under
every schedule (`Tally.conserved`).
-/

namespace Herald

namespace Pool

variable {σ : Type} {c : Collaborators σ} {sender : UserId}

/-- Where a worker does something new, all else stays where it is. -/
theorem flatMap_set_perm {β : Type} {workers : List Worker} {i : Nat} {old : Worker}
    (present : workers[i]? = some old) (f : Worker → List β) (new : Worker) :
    (f old ++ (workers.set i new).flatMap f).Perm (f new ++ workers.flatMap f) := by
  induction workers generalizing i with
  | nil => cases present
  | cons first rest ih =>
    cases i with
    | zero =>
      rw [List.getElem?_cons_zero, Option.some.injEq] at present
      rw [List.set_cons_zero, List.flatMap_cons, List.flatMap_cons, present]
      exact List.perm_append_comm_assoc ..
    | succ i =>
      have moved := ih (List.getElem?_cons_succ ▸ present)
      rw [List.set_cons_succ, List.flatMap_cons, List.flatMap_cons]
      exact (List.perm_append_comm_assoc ..).trans
        ((moved.append_left (f first)).trans (List.perm_append_comm_assoc ..))

/-- Something that is counted by webhook: in the calls that were made, in the webhooks
that are finished, and in the runs that are still to go on. Every call of a run counts as
much when it is made as when it was still to be made. -/
structure Tally (c : Collaborators σ) (sender : UserId) (β : Type) where
  made : Webhook → Exchange → List β
  ended : Finished → List β
  running : Webhook → Run Outcome → List β
  /-- The runs of which the count is right. -/
  sound : Run Outcome → Prop
  sound_relay (w : Webhook) : sound (w.relay sender)
  sound_next {call : Call} {next : call.Answer → Run Outcome} (answer : call.Answer) :
    sound (.ask call next) → sound (next answer)
  running_done (w : Webhook) (outcome : Outcome) :
    running w (.done outcome) = ended ⟨w, outcome⟩
  running_answered (w : Webhook) {call : Call} {next : call.Answer → Run Outcome}
    {answer : call.Answer} {s s' : σ} : sound (.ask call next) →
    c.answer call s = (some answer, s') →
    running w (.ask call next) = made w ⟨call, some answer⟩ ++ running w (next answer)
  running_lost (w : Webhook) {call : Call} {next : call.Answer → Run Outcome} {s s' : σ} :
    sound (.ask call next) → c.answer call s = (none, s') →
    running w (.ask call next) = made w ⟨call, none⟩ ++ ended ⟨w, .failed .aborted⟩

namespace Tally

variable {β : Type} (t : Tally c sender β)

/-- What a webhook counts before it is run. -/
def ahead (w : Webhook) : List β :=
  t.running w (w.relay sender)

def inWorker : Worker → List β
  | .busy w rest => t.running w rest
  | _ => []

def inPool (p : Pool) : List β :=
  p.finished.flatMap t.ended ++ (p.workers.flatMap t.inWorker ++ p.waiting.flatMap t.ahead)

def inMove (move : Move) : List β :=
  move.made?.toList.flatMap fun entry => t.made entry.1 entry.2

def inJournal (moves : List Move) : List β :=
  (journal moves).flatMap fun entry => t.made entry.1 entry.2

/-- Every run that a worker goes through is counted right. -/
def SoundIn (p : Pool) : Prop :=
  ∀ w rest, .busy w rest ∈ p.workers → t.sound rest

theorem SoundIn.set {t : Tally c sender β} {p : Pool} (sound : t.SoundIn p) {worker : Nat}
    {new : Worker} (right : ∀ w rest, new = .busy w rest → t.sound rest) :
    t.SoundIn { p with workers := p.workers.set worker new } := by
  intro w rest member
  rcases List.mem_or_eq_of_mem_set member with old | same
  · exact sound w rest old
  · exact right w rest same.symm

/-- What a move makes and leaves to do is what was to do before, and what it brings
in. -/
theorem step {p p' : Pool} {s s' : σ} {move : Move} (sound : t.SoundIn p)
    (step : Step c sender (p, s) move (p', s')) :
    t.SoundIn p' ∧
      (t.inMove move ++ t.inPool p').Perm
        (t.inPool p ++ move.accepted?.toList.flatMap t.ahead) := by
  classical
  cases step with
  | accept producer accepted =>
    obtain ⟨-, -, rfl⟩ := enqueue_eq_ok_iff.mp accepted
    refine ⟨sound, ?_⟩
    simp [inMove, inPool, Move.made?, Move.accepted?]
  | refuse producer refused =>
    exact ⟨sound, by simp [inMove, Move.made?, Move.accepted?]⟩
  | share producer =>
    exact ⟨sound, by simp [inMove, inPool, Move.made?, Move.accepted?, Pool.share]⟩
  | release producer =>
    exact ⟨sound, by simp [inMove, inPool, Move.made?, Move.accepted?, Pool.release]⟩
  | take taken =>
    obtain ⟨w, rest, idle, waiting, rfl⟩ := take?_eq_some_iff.mp taken
    refine ⟨sound.set ?_, ?_⟩
    · rintro _ _ ⟨rfl, rfl⟩
      exact t.sound_relay w
    · rw [List.perm_iff_count]
      intro b
      have moved := (flatMap_set_perm idle t.inWorker (.busy w (w.relay sender))).count_eq b
      simp only [inMove, inPool, Move.made?, Move.accepted?, waiting, inWorker, ahead,
        List.flatMap_cons, List.flatMap_nil, List.count_append, List.count_nil,
        Option.toList_none] at moved ⊢
      omega
  | advance advanced =>
    obtain ⟨w, rest, busy, ended | called | lost⟩ := advance?_cases advanced
    · obtain ⟨outcome, rfl, made, rfl⟩ := ended
      refine ⟨sound.set (by simp), ?_⟩
      rw [List.perm_iff_count]
      intro b
      have moved := (flatMap_set_perm busy t.inWorker .idle).count_eq b
      simp only [inMove, inPool, Move.made?, Move.accepted?, made, finish, inWorker,
        t.running_done, Option.getD_some, List.flatMap_append, List.flatMap_cons,
        List.flatMap_nil, List.count_append, List.count_nil, Option.toList_none] at moved ⊢
      omega
    · obtain ⟨call, next, answer, rfl, answered, made, rfl⟩ := called
      have right := sound w _ (List.mem_of_getElem? busy)
      refine ⟨sound.set ?_, ?_⟩
      · rintro _ _ ⟨rfl, rfl⟩
        exact t.sound_next answer right
      · rw [List.perm_iff_count]
        intro b
        have moved := (flatMap_set_perm busy t.inWorker (.busy w (next answer))).count_eq b
        simp only [inMove, inPool, Move.made?, Move.accepted?, made, inWorker,
          t.running_answered w right answered, List.flatMap_cons, List.flatMap_nil,
          List.count_append, List.count_nil, Option.toList_none, Option.toList_some] at moved ⊢
        omega
    · obtain ⟨call, next, rfl, lost, made, rfl⟩ := lost
      have right := sound w _ (List.mem_of_getElem? busy)
      refine ⟨sound.set (by simp), ?_⟩
      rw [List.perm_iff_count]
      intro b
      have moved := (flatMap_set_perm busy t.inWorker .idle).count_eq b
      simp only [inMove, inPool, Move.made?, Move.accepted?, made, finish, inWorker,
        t.running_lost w right lost, Option.getD_none, List.flatMap_append, List.flatMap_cons,
        List.flatMap_nil, List.count_append, List.count_nil, Option.toList_none,
        Option.toList_some] at moved ⊢
      omega
  | leave left =>
    obtain ⟨idle, waiting, nobody, rfl⟩ := leave?_eq_some_iff.mp left
    refine ⟨sound.set (by simp), ?_⟩
    rw [List.perm_iff_count]
    intro b
    have moved := (flatMap_set_perm idle t.inWorker .gone).count_eq b
    simp only [inMove, inPool, Move.made?, Move.accepted?, inWorker, List.flatMap_nil,
      List.count_append, List.count_nil, Option.toList_none] at moved ⊢
    omega


/-- Under every schedule, what was made of the webhooks that were let in and what is still
to be made of them is all that there was to make, and what the pool had before. -/
theorem conserved {a b : Pool} {s s' : σ} {moves : List Move}
    (run : Steps c sender (a, s) moves (b, s')) (sound : t.SoundIn a) :
    (t.inJournal moves ++ t.inPool b).Perm
      (t.inPool a ++ (acceptedIn moves).flatMap t.ahead) := by
  classical
  have kept := run.invariant
    (I := fun moves d => t.SoundIn d.1 ∧ (t.inJournal moves ++ t.inPool d.1).Perm
      (t.inPool a ++ (acceptedIn moves).flatMap t.ahead))
    ⟨sound, by simp [inJournal, journal, acceptedIn]⟩ ?_
  · exact kept.2
  · rintro moves move ⟨p, s⟩ ⟨p', s'⟩ ⟨sound, balanced⟩ last
    obtain ⟨right, moved⟩ := t.step sound last
    refine ⟨right, ?_⟩
    rw [List.perm_iff_count] at balanced moved ⊢
    intro b
    have before := balanced b
    have after := moved b
    simp only [inJournal, inMove, journal_snoc, acceptedIn_snoc, List.flatMap_append,
      List.count_append] at before after ⊢
    omega

/-- At first nothing is there. -/
theorem inPool_of_start? {workers capacity : Nat} {start : Pool}
    (started : start? workers capacity = some start) : t.SoundIn start ∧ t.inPool start = [] := by
  obtain ⟨-, rfl⟩ := start?_eq_some_iff.mp started
  have idle : (List.replicate (max workers 1) Worker.idle).flatMap t.inWorker = [] := by
    rw [List.flatMap_eq_nil_iff]
    intro worker member
    rw [List.eq_of_mem_replicate member]
    rfl
  refine ⟨fun w rest member => ?_, by simp [inPool, idle]⟩
  cases List.eq_of_mem_replicate member

end Tally

end Pool

end Herald
