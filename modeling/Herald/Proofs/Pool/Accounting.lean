import Herald.Proofs.Pool.Drain
import Herald.Proofs.Pool.Tally
import Herald.Proofs.Run.Visibility

/-!
# Accounts of the worker pool

What a pool owes to those who put webhooks into its queue. The webhooks are counted
(`webhooks_conserved`), the queue and the staff keep their rules (`Orderly`), a single
worker keeps the order (`InTurn`), and what is finished has gone through its own run
(`Faithful`).

Main statement: all this holds under every schedule (`every_schedule_accounts`).
-/

namespace Herald

namespace Pool

variable {σ : Type} {c : Collaborators σ} {sender : UserId}

/-- The webhooks themselves, one for each that is run or has been. -/
def webhookTally (c : Collaborators σ) (sender : UserId) : Tally c sender Webhook where
  made _ _ := []
  ended f := [f.webhook]
  running w _ := [w]
  sound _ := True
  sound_relay _ := trivial
  sound_next _ _ := trivial
  running_done _ _ := rfl
  running_answered _ := fun _ _ => rfl
  running_lost _ := fun _ _ => rfl

/-- Every webhook that was let in is finished, held or waiting. -/
theorem webhooks_conserved {workers capacity : Nat} {start p : Pool} {s s' : σ}
    {moves : List Move} (started : start? workers capacity = some start)
    (run : Steps c sender (start, s) moves (p, s')) :
    (acceptedIn moves).Perm (p.finished.map Finished.webhook ++ (p.held ++ p.waiting)) := by
  let t := webhookTally c sender
  have inWorker : t.inWorker = Worker.held := by
    funext worker
    cases worker <;> rfl
  have single : ∀ l : List Webhook, l.flatMap t.ahead = l := List.flatMap_singleton'
  have finished : p.finished.flatMap t.ended = p.finished.map Finished.webhook :=
    List.map_eq_flatMap.symm
  have made : t.inJournal moves = [] := List.flatMap_eq_nil_iff.mpr fun _ _ => rfl
  obtain ⟨sound, empty⟩ := t.inPool_of_start? started
  have balanced := t.conserved run sound
  rw [made, empty, List.nil_append, List.nil_append, single] at balanced
  unfold Tally.inPool at balanced
  rw [inWorker, single, finished] at balanced
  exact balanced.symm

/-- The queue keeps to its capacity and the staff stays complete. Nobody has left as
long as there is somebody to put something into the queue, or something in it. -/
structure Orderly (workers capacity : Nat) (p : Pool) : Prop where
  capacity_eq : p.capacity = max capacity 1
  room : p.waiting.length ≤ p.capacity
  staff : p.workers.length = max workers 1
  gone : .gone ∈ p.workers → p.producers = 0 ∧ p.waiting = []

namespace Orderly

variable {workers capacity : Nat} {p : Pool}

theorem of_start? (started : start? workers capacity = some p) : Orderly workers capacity p := by
  obtain ⟨-, rfl⟩ := start?_eq_some_iff.mp started
  exact ⟨rfl, Nat.zero_le _, List.length_replicate, by simp⟩

/-- While there are producers, all workers are there. -/
theorem not_gone (orderly : Orderly workers capacity p) (producer : 0 < p.producers) :
    .gone ∉ p.workers := by
  intro gone
  have nobody := (orderly.gone gone).1
  omega

/-- There is always a worker, so a closed pool has one that left. -/
theorem gone_of_isClosed (orderly : Orderly workers capacity p) (closed : p.isClosed = true) :
    .gone ∈ p.workers := by
  have staff := orderly.staff
  obtain ⟨worker, member⟩ := List.exists_mem_of_length_pos (l := p.workers) (by omega)
  have left : worker.isGone = true := List.all_eq_true.mp closed worker member
  cases worker with
  | gone => exact member
  | idle => cases left
  | busy w rest => cases left

theorem not_closed (orderly : Orderly workers capacity p) (producer : 0 < p.producers) :
    p.isClosed = false := by
  rw [← Bool.not_eq_true]
  exact fun closed => orderly.not_gone producer (orderly.gone_of_isClosed closed)

/-- A worker that goes on stays, whatever it has finished. -/
theorem set (orderly : Orderly workers capacity p) (worker : Nat) {new : Worker}
    (stays : new ≠ .gone) (finished : List Finished) :
    Orderly workers capacity
      { p with workers := p.workers.set worker new, finished := finished } := by
  refine ⟨orderly.capacity_eq, orderly.room, by simpa using orderly.staff, fun gone => ?_⟩
  rcases List.mem_or_eq_of_mem_set gone with old | same
  · exact orderly.gone old
  · exact absurd same.symm stays

theorem step {p' : Pool} {s s' : σ} {move : Move} (orderly : Orderly workers capacity p)
    (step : Step c sender (p, s) move (p', s')) : Orderly workers capacity p' := by
  cases step with
  | accept producer accepted =>
    obtain ⟨-, room, rfl⟩ := enqueue_eq_ok_iff.mp accepted
    refine ⟨orderly.capacity_eq, ?_, orderly.staff, fun gone => ?_⟩
    · rw [List.length_append, List.length_singleton]
      exact room
    · exact absurd gone (orderly.not_gone producer)
  | refuse producer refused => exact orderly
  | share producer =>
    exact ⟨orderly.capacity_eq, orderly.room, orderly.staff,
      fun gone => absurd gone (orderly.not_gone producer)⟩
  | release producer =>
    exact ⟨orderly.capacity_eq, orderly.room, orderly.staff,
      fun gone => absurd gone (orderly.not_gone producer)⟩
  | take taken =>
    obtain ⟨w, rest, idle, waiting, rfl⟩ := take?_eq_some_iff.mp taken
    have room := orderly.room
    rw [waiting, List.length_cons] at room
    refine ⟨orderly.capacity_eq, Nat.le_of_succ_le room, by simpa using orderly.staff,
      fun gone => ?_⟩
    rcases List.mem_or_eq_of_mem_set gone with old | same
    · have empty := (orderly.gone old).2
      rw [waiting] at empty
      cases empty
    · cases same
  | advance advanced =>
    obtain ⟨w, rest, busy, ended | called | lost⟩ := advance?_cases advanced
    · obtain ⟨outcome, -, -, rfl⟩ := ended
      exact orderly.set _ (by simp) _
    · obtain ⟨call, next, answer, -, -, -, rfl⟩ := called
      exact orderly.set _ (by simp) _
    · obtain ⟨call, next, -, -, -, rfl⟩ := lost
      exact orderly.set _ (by simp) _
  | leave left =>
    obtain ⟨idle, waiting, nobody, rfl⟩ := leave?_eq_some_iff.mp left
    exact ⟨orderly.capacity_eq, orderly.room, by simpa using orderly.staff,
      fun _ => ⟨nobody, waiting⟩⟩

end Orderly

/-- A single worker has finished, holds and leaves waiting what was let in, in that
order. -/
def InTurn (accepted : List Webhook) (p : Pool) : Prop :=
  p.workers.length = 1 ∧ accepted = p.finished.map Finished.webhook ++ (p.held ++ p.waiting)

private theorem alone {workers : List Worker} {i : Nat} {worker : Worker}
    (single : workers.length = 1) (present : workers[i]? = some worker) :
    i = 0 ∧ workers = [worker] := by
  obtain ⟨only, rfl⟩ := List.length_eq_one_iff.mp single
  have inside := (List.getElem?_eq_some_iff.mp present).1
  have first : i = 0 := by simpa using inside
  subst first
  exact ⟨rfl, congrArg (fun worker => [worker]) (Option.some.inj present)⟩

theorem InTurn.step {accepted : List Webhook} {p p' : Pool} {s s' : σ} {move : Move}
    (turn : InTurn accepted p) (step : Step c sender (p, s) move (p', s')) :
    InTurn (accepted ++ move.accepted?.toList) p' := by
  obtain ⟨single, rfl⟩ := turn
  cases step with
  | accept producer accepted =>
    obtain ⟨-, -, rfl⟩ := enqueue_eq_ok_iff.mp accepted
    exact ⟨single, by simp [Move.accepted?, held]⟩
  | refuse producer refused => exact ⟨single, List.append_nil _⟩
  | share producer => exact ⟨single, List.append_nil _⟩
  | release producer => exact ⟨single, List.append_nil _⟩
  | take taken =>
    obtain ⟨w, rest, idle, waiting, rfl⟩ := take?_eq_some_iff.mp taken
    obtain ⟨rfl, only⟩ := alone single idle
    refine ⟨by simpa using single, ?_⟩
    simp [Move.accepted?, held, only, waiting, Worker.held]
  | advance advanced =>
    obtain ⟨w, rest, busy, ended | called | lost⟩ := advance?_cases advanced
    all_goals obtain ⟨rfl, only⟩ := alone single busy
    · obtain ⟨outcome, -, -, rfl⟩ := ended
      refine ⟨by simpa [finish] using single, ?_⟩
      simp [Move.accepted?, held, finish, only, Worker.held]
    · obtain ⟨call, next, answer, -, -, -, rfl⟩ := called
      refine ⟨by simpa using single, ?_⟩
      simp [Move.accepted?, held, only, Worker.held]
    · obtain ⟨call, next, -, -, -, rfl⟩ := lost
      refine ⟨by simpa [finish] using single, ?_⟩
      simp [Move.accepted?, held, finish, only, Worker.held]
  | leave left =>
    obtain ⟨idle, waiting, nobody, rfl⟩ := leave?_eq_some_iff.mp left
    obtain ⟨rfl, only⟩ := alone single idle
    refine ⟨by simpa using single, ?_⟩
    simp [Move.accepted?, held, only, Worker.held]

end Pool

/-- The record says how a run ended. Warnings only come after such a record. -/
def LogRecord.isOutcome (r : LogRecord) : Bool :=
  r.level != .warn

/-- The webhook went through the whole of its own run, or was taken down in it. -/
def Finished.Genuine (sender : UserId) (f : Finished) : Prop :=
  ∃ trace result, (f.webhook.relay sender).Path trace result ∧
    f.outcome = result.getD (.failed .aborted)

namespace Finished

/-- However a run ended, that is logged first and once, and of its own webhook. -/
theorem records_outcome (f : Finished) :
    ∃ r warnings, f.records = r :: warnings ∧ r.isOutcome = true ∧
      (∀ warning ∈ warnings, warning.isOutcome = false) ∧
      r.fields.head? = some ("instance_id", .text f.webhook.instanceId.text) := by
  unfold records
  cases f.outcome with
  | ignored reason => exact ⟨_, [], rfl, rfl, by simp, rfl⟩
  | failed failure => exact ⟨_, [], rfl, rfl, by simp, rfl⟩
  | delivered report =>
    dsimp only
    split
    · exact ⟨_, [], rfl, rfl, by simp, rfl⟩
    · refine ⟨_, _, rfl, rfl, fun warning member => ?_, rfl⟩
      rw [List.mem_singleton.mp member]
      rfl

/-- The record of how the run ended. -/
def record (f : Finished) : LogRecord :=
  f.records.head (by obtain ⟨r, warnings, same, -⟩ := f.records_outcome; simp [same])

theorem filter_records (f : Finished) : f.records.filter LogRecord.isOutcome = [f.record] := by
  obtain ⟨r, warnings, same, outcome, none, -⟩ := f.records_outcome
  have silent : warnings.filter LogRecord.isOutcome = [] := by
    rw [List.filter_eq_nil_iff]
    intro warning member
    simp [none warning member]
  simp [record, same, outcome, silent]

end Finished

namespace Pool

/-- What is written to the log about the webhooks that are finished. -/
def log (p : Pool) : List LogRecord :=
  p.finished.flatMap Finished.records

theorem filter_log (p : Pool) :
    p.log.filter LogRecord.isOutcome = p.finished.map Finished.record := by
  unfold log
  rw [List.filter_flatMap, List.map_eq_flatMap]
  congr 1
  funext f
  exact f.filter_records

/-- What is finished has been run, and what workers go on with is the rest of the run of
what they hold. -/
structure Faithful (sender : UserId) (p : Pool) : Prop where
  finished : ∀ f ∈ p.finished, f.Genuine sender
  running : ∀ w rest, .busy w rest ∈ p.workers → ∃ past, ∀ trace result,
    rest.Path trace result → (w.relay sender).Path (past ++ trace) result

namespace Faithful

variable {p : Pool}

/-- A worker that finishes has come to the end of the run of what it held. -/
theorem finish (faithful : Faithful sender p) {worker : Nat} {w : Webhook} {rest : Run Outcome}
    {trace : List Exchange} {result : Option Outcome} (busy : .busy w rest ∈ p.workers)
    (ended : rest.Path trace result) : Faithful sender (p.finish worker w result) := by
  constructor
  · intro f member
    rcases List.mem_append.mp member with earlier | now
    · exact faithful.finished f earlier
    · obtain ⟨past, goes⟩ := faithful.running w rest busy
      rw [List.mem_singleton.mp now]
      exact ⟨past ++ trace, result, goes trace result ended, rfl⟩
  · intro v other member
    rcases List.mem_or_eq_of_mem_set member with old | same
    · exact faithful.running v other old
    · cases same

theorem step {p' : Pool} {s s' : σ} {move : Move} (faithful : Faithful sender p)
    (step : Step c sender (p, s) move (p', s')) : Faithful sender p' := by
  cases step with
  | accept producer accepted =>
    obtain ⟨-, -, rfl⟩ := enqueue_eq_ok_iff.mp accepted
    exact ⟨faithful.finished, faithful.running⟩
  | refuse producer refused => exact faithful
  | share producer => exact ⟨faithful.finished, faithful.running⟩
  | release producer => exact ⟨faithful.finished, faithful.running⟩
  | take taken =>
    obtain ⟨w, rest, idle, waiting, rfl⟩ := take?_eq_some_iff.mp taken
    refine ⟨faithful.finished, fun v run member => ?_⟩
    rcases List.mem_or_eq_of_mem_set member with old | same
    · exact faithful.running v run old
    · cases same
      exact ⟨[], fun _ _ path => path⟩
  | advance advanced =>
    obtain ⟨w, rest, busy, ended | called | lost⟩ := advance?_cases advanced
    · obtain ⟨outcome, rfl, -, rfl⟩ := ended
      exact faithful.finish (List.mem_of_getElem? busy) (.done outcome)
    · obtain ⟨call, next, answer, rfl, -, -, rfl⟩ := called
      refine ⟨faithful.finished, fun v run member => ?_⟩
      rcases List.mem_or_eq_of_mem_set member with old | same
      · exact faithful.running v run old
      · cases same
        obtain ⟨past, goes⟩ := faithful.running _ _ (List.mem_of_getElem? busy)
        refine ⟨past ++ [⟨call, some answer⟩], fun trace result path => ?_⟩
        rw [List.append_assoc]
        exact goes _ _ (.answered path)
    · obtain ⟨call, next, rfl, -, -, rfl⟩ := lost
      exact faithful.finish (List.mem_of_getElem? busy) (.lost call next)
  | leave left =>
    obtain ⟨idle, waiting, nobody, rfl⟩ := leave?_eq_some_iff.mp left
    refine ⟨faithful.finished, fun v run member => ?_⟩
    rcases List.mem_or_eq_of_mem_set member with old | same
    · exact faithful.running v run old
    · cases same

end Faithful

/-- Nothing is held where nobody is busy. -/
theorem held_of_isClosed {p : Pool} (closed : p.isClosed = true) : p.held = [] := by
  unfold held
  rw [List.flatMap_eq_nil_iff]
  intro worker member
  have left : worker.isGone = true := List.all_eq_true.mp closed worker member
  cases worker with
  | gone => rfl
  | idle => rfl
  | busy w rest => cases left

/-- Under every schedule, whatever the calls of the runs come to: every webhook that was
let in waits, is held by a worker or is finished, and only once; the queue keeps to its
capacity, and only a full one refuses anything, which leaves everything as it is; no worker
leaves before the producers have and the queue is empty; a webhook is finished by its own
run, and that is logged once; when all workers have left, everything is finished. A single
worker works in order. -/
theorem every_schedule_accounts (c : Collaborators σ) (sender : UserId) {workers capacity : Nat}
    {start p : Pool} {s s' : σ} {moves : List Move}
    (started : start? workers capacity = some start)
    (run : Steps c sender (start, s) moves (p, s')) :
    (acceptedIn moves).Perm (p.finished.map Finished.webhook ++ (p.held ++ p.waiting)) ∧
      p.waiting.length ≤ max capacity 1 ∧ p.workers.length = max workers 1 ∧
      (∀ w e after s'', Step c sender (p, s') (.refused w e) (after, s'') →
        after = p ∧ s'' = s' ∧ e = .full ∧ p.waiting.length = max capacity 1) ∧
      (.gone ∈ p.workers → p.producers = 0 ∧ p.waiting = []) ∧
      (∀ f ∈ p.finished, f.Genuine sender) ∧
      p.log.filter LogRecord.isOutcome = p.finished.map Finished.record ∧
      (p.isClosed = true → (acceptedIn moves).Perm (p.finished.map Finished.webhook)) ∧
      (workers ≤ 1 →
        acceptedIn moves = p.finished.map Finished.webhook ++ (p.held ++ p.waiting)) := by
  have orderly : Orderly workers capacity p :=
    run.invariant (I := fun _ d => Orderly workers capacity d.1) (.of_start? started)
      fun orderly last => orderly.step last
  have accounted := webhooks_conserved started run
  obtain ⟨-, rfl⟩ := start?_eq_some_iff.mp started
  have faithful : Faithful sender p :=
    run.invariant (I := fun _ d => Faithful sender d.1) ⟨by simp, by simp⟩
      fun faithful last => faithful.step last
  refine ⟨accounted, orderly.capacity_eq ▸ orderly.room, orderly.staff, ?_, orderly.gone,
    faithful.finished, p.filter_log, fun closed => ?_, fun single => ?_⟩
  · intro w e after s'' step
    cases step with
    | refuse producer refused =>
      rcases enqueue_eq_error_iff.mp refused with ⟨closed, -⟩ | ⟨-, full, rfl⟩
      · rw [orderly.not_closed producer] at closed
        cases closed
      · have room := orderly.room
        have capacity := orderly.capacity_eq
        exact ⟨rfl, rfl, rfl, by omega⟩
  · have empty := (orderly.gone (orderly.gone_of_isClosed closed)).2
    rw [held_of_isClosed closed, empty] at accounted
    simpa using accounted
  · have turn : InTurn (acceptedIn moves) p :=
      run.invariant (I := fun moves d => InTurn (acceptedIn moves) d.1)
        ⟨by simp [Nat.max_eq_right single], by simp [acceptedIn, held, Worker.held]⟩
        fun turn last => acceptedIn_snoc _ _ ▸ turn.step last
    exact turn.2

/-- Posts to people are numbered, and posts to channels are lost. -/
def losingPosts (c : Collaborators Unit) : Collaborators Nat where
  answer
    | .postDirect .., n => (some (.ok ⟨toString n⟩), n + 1)
    | .postToChannel .., n => (none, n)
    | call, n => ((c.answer call ()).1, n)

/-- A webhook whose body is no payload. -/
def emptyWebhook : Webhook :=
  ⟨⟨"tracker"⟩, []⟩

/-- Two producers share the queue of two workers, which holds a comment twice and a webhook that is
no payload between. -/
def fullPool : Pool :=
  ⟨3, [commentWebhook, emptyWebhook, commentWebhook], 2, [.idle, .idle], []⟩

/-- The moves by which the queue is filled. Another webhook is refused. -/
def filling : List Move :=
  [.accepted commentWebhook, .shared, .accepted emptyWebhook, .accepted commentWebhook,
    .refused emptyWebhook .full]

private theorem fullPool_filled (c : Collaborators σ) (s : σ) :
    Steps c sender (⟨3, [], 1, [.idle, .idle], []⟩, s) filling (fullPool, s) := by
  have first : Step c sender (⟨3, [], 1, [.idle, .idle], []⟩, s) (.accepted commentWebhook)
      (⟨3, [commentWebhook], 1, [.idle, .idle], []⟩, s) := .accept Nat.one_pos rfl
  have second : Step c sender (⟨3, [commentWebhook], 2, [.idle, .idle], []⟩, s)
      (.accepted emptyWebhook) (⟨3, [commentWebhook, emptyWebhook], 2, [.idle, .idle], []⟩, s) :=
    .accept Nat.two_pos rfl
  have third : Step c sender (⟨3, [commentWebhook, emptyWebhook], 2, [.idle, .idle], []⟩, s)
      (.accepted commentWebhook) (fullPool, s) := .accept Nat.two_pos rfl
  have refused : Step c sender (fullPool, s) (.refused emptyWebhook .full) (fullPool, s) :=
    .refuse Nat.two_pos rfl
  exact ((((Steps.single first).snoc (.share Nat.one_pos)).snoc second).snoc third).snoc refused

/-- A full pool, in which one worker loses the post of a comment while the other one has a body
that is no payload. Then one producer leaves, and the other one joins with a comment waiting. -/
theorem lost_webhook_accounted :
    let c := losingPosts (.constant (restrictedTo (.string "Developers")) townAndDevelopers)
    ∃ start p moves s', start? 2 3 = some start ∧
      Steps c ⟨"bot"⟩ (start, 0) (filling ++ moves) (p, s') ∧
      acceptedIn (filling ++ moves) = [commentWebhook, emptyWebhook, commentWebhook] ∧
      p.isClosed = true ∧
      (p.finished.map Finished.webhook).Perm [commentWebhook, emptyWebhook, commentWebhook] ∧
      ⟨commentWebhook, .failed .aborted⟩ ∈ p.finished ∧ (∀ f ∈ p.finished, f.Genuine ⟨"bot"⟩) ∧
      p.log.filter LogRecord.isOutcome = p.finished.map Finished.record := by
  intro c
  let run := (commentWebhook.relay ⟨"bot"⟩).exec c 0
  let other := (emptyWebhook.relay ⟨"bot"⟩).exec c run.2
  have lost : run.1 = none := by
    rw [← Option.isNone_iff_eq_none]
    decide +kernel
  let busy : Pool := { fullPool with
    waiting := [commentWebhook]
    workers := [.busy emptyWebhook (emptyWebhook.relay ⟨"bot"⟩),
      .busy commentWebhook (commentWebhook.relay ⟨"bot"⟩)] }
  let idle : Pool := (busy.finish 1 commentWebhook run.1).finish 0 emptyWebhook other.1
  have taken : Works c ⟨"bot"⟩ (fullPool, 0) (busy, 0) :=
    (Works.take 1 rfl).trans (.take 0 rfl)
  have second : 1 < busy.workers.length := Nat.one_lt_two
  have loses : Works c ⟨"bot"⟩ (busy, 0) (busy.finish 1 commentWebhook run.1, run.2) :=
    works_finish second 0
  have first : 0 < (busy.finish 1 commentWebhook run.1).workers.length := Nat.two_pos
  have fails : Works c ⟨"bot"⟩ (busy.finish 1 commentWebhook run.1, run.2) (idle, other.2) :=
    works_finish first run.2
  have released : Works c ⟨"bot"⟩ (idle, other.2) (idle.release, other.2) :=
    ⟨_, .single (.release Nat.two_pos), rfl⟩
  have ready : idle.release.workers[0]? = some .idle := rfl
  have free : ∀ worker ∈ idle.release.workers, worker.held = [] := by
    simp [idle, busy, finish, release, Worker.held]
  have joined : Works c ⟨"bot"⟩ (idle.release, other.2) (idle.release.join c ⟨"bot"⟩ other.2) :=
    works_join Nat.one_pos ready free other.2
  obtain ⟨moves, rest, nothing⟩ := taken.trans (loses.trans (fails.trans (released.trans joined)))
  have started : start? 2 3 = some ⟨3, [], 1, [.idle, .idle], []⟩ :=
    start?_eq_some_iff.mpr ⟨by decide, rfl⟩
  have all := (fullPool_filled c 0).trans rest
  have once := acceptedIn_append filling moves
  rw [nothing, List.append_nil] at once
  obtain ⟨-, -, -, -, -, genuine, logged, everything, -⟩ :=
    every_schedule_accounts c ⟨"bot"⟩ started all
  have closed : (idle.release.join c ⟨"bot"⟩ other.2).1.isClosed = true := rfl
  have early : (⟨commentWebhook, .failed .aborted⟩ : Finished) ∈ idle.finished := by
    simp [idle, busy, fullPool, finish, lost]
  exact ⟨_, _, moves, _, started, all, once, closed, (once ▸ everything closed).symm,
    List.mem_append_left _ early, genuine, logged⟩

end Pool

end Herald
