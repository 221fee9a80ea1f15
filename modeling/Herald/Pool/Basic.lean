import Herald.Run.Log

/-!
# The worker pool

Webhooks wait in a bounded queue until one of several workers takes them. A
worker that has taken a webhook goes through its run call by call, and a run that
a call takes down fails for its own webhook alone. Main statements: when the queue
takes a webhook (`enqueue_eq_ok_iff`), and that draining it ends each run once, in
order (`runAll_webhooks`).
-/

namespace Herald

inductive Worker where
  | idle
  | busy (webhook : Webhook) (rest : Run Outcome)
  | gone

namespace Worker

def isGone : Worker → Bool
  | .gone => true
  | _ => false

/-- The webhook that a worker has taken and not finished. -/
def held : Worker → List Webhook
  | .busy webhook _ => [webhook]
  | _ => []

end Worker

structure Pool where
  /-- How many webhooks may wait. -/
  capacity : Nat
  /-- The webhooks that wait, the oldest first. -/
  waiting : List Webhook
  /-- How many producers may still put webhooks into the queue. -/
  producers : Nat
  workers : List Worker
  /-- The webhooks whose runs have ended, in the order in which they did. -/
  finished : List Finished

inductive QueueError where
  | full
  | closed
  deriving DecidableEq, Repr

def QueueError.message : QueueError → String
  | .full => "webhook queue is full"
  | .closed => "webhook queue is closed"

namespace Pool

/-- The most places that a queue can be made with. -/
def maxCapacity : Nat := Nat.pow 2 61 - 1

/-- A pool with one producer, unless its queue would be too large to be made. There
is at least one worker and one place in the queue, whatever is asked for. -/
def start? (workers capacity : Nat) : Option Pool :=
  if max capacity 1 ≤ maxCapacity then
    some {
      capacity := max capacity 1
      waiting := []
      producers := 1
      workers := List.replicate (max workers 1) .idle
      finished := [] }
  else none

def size (p : Pool) : Nat :=
  p.workers.length

/-- No worker is left to take anything. -/
def isClosed (p : Pool) : Bool :=
  p.workers.all Worker.isGone

/-- Puts a webhook into the queue, unless it is closed or full. -/
def enqueue (p : Pool) (w : Webhook) : Except QueueError Pool :=
  if p.isClosed then .error .closed
  else if p.waiting.length < p.capacity then .ok { p with waiting := p.waiting ++ [w] }
  else .error .full

/-- What is put into the queue comes last, and only where there is room and
somebody to take it. -/
theorem enqueue_eq_ok_iff {p after : Pool} {w : Webhook} :
    p.enqueue w = .ok after ↔
      p.isClosed = false ∧ p.waiting.length < p.capacity ∧
        after = { p with waiting := p.waiting ++ [w] } := by
  unfold enqueue
  by_cases hc : p.isClosed <;> by_cases hr : p.waiting.length < p.capacity <;>
    simp [hc, hr, eq_comm]

/-- A further producer shares the queue. -/
def share (p : Pool) : Pool :=
  { p with producers := p.producers + 1 }

/-- A producer gives the queue up. -/
def release (p : Pool) : Pool :=
  { p with producers := p.producers - 1 }

/-- A worker's run has ended, or was taken down by a call. -/
def finish (p : Pool) (worker : Nat) (w : Webhook) (outcome : Option Outcome) : Pool :=
  { p with
    workers := p.workers.set worker .idle
    finished := p.finished ++ [⟨w, outcome.getD (.failed .aborted)⟩] }

/-- An idle worker takes the webhook that has waited longest. -/
def take? (sender : UserId) (p : Pool) (worker : Nat) : Option Pool :=
  match p.workers[worker]?, p.waiting with
  | some .idle, w :: rest =>
    some { p with waiting := rest, workers := p.workers.set worker (.busy w (w.relay sender)) }
  | _, _ => none

/-- A busy worker makes the next call of its run, or ends it. -/
def advance? {σ : Type} (c : Collaborators σ) (p : Pool) (worker : Nat) (s : σ) :
    Option (Pool × σ) :=
  match p.workers[worker]? with
  | some (.busy w (.done outcome)) => some (p.finish worker w (some outcome), s)
  | some (.busy w (.ask call next)) =>
    match c.answer call s with
    | (some answer, s) =>
      some ({ p with workers := p.workers.set worker (.busy w (next answer)) }, s)
    | (none, s) => some (p.finish worker w none, s)
  | _ => none

/-- An idle worker leaves when nothing waits and no producer is left. -/
def leave? (p : Pool) (worker : Nat) : Option Pool :=
  match p.workers[worker]?, p.waiting with
  | some .idle, [] =>
    if p.producers = 0 then some { p with workers := p.workers.set worker .gone } else none
  | _, _ => none

/-- Stops all workers at once. What waits or was taken is lost. -/
def kill (p : Pool) : Pool :=
  { p with waiting := [], workers := p.workers.map fun _ => .gone }

/-- Runs webhooks one after another. -/
def runAll {σ : Type} (c : Collaborators σ) (sender : UserId) :
    List Webhook → σ → List Finished × σ
  | [], s => ([], s)
  | w :: rest, s =>
    let (outcome, s) := (w.relay sender).exec c s
    let (finished, s) := runAll c sender rest s
    (⟨w, outcome.getD (.failed .aborted)⟩ :: finished, s)

/-- Every webhook that is run ends exactly once, in order. -/
theorem runAll_webhooks {σ : Type} (c : Collaborators σ) (sender : UserId) (l : List Webhook)
    (s : σ) : (runAll c sender l s).1.map Finished.webhook = l := by
  induction l generalizing s with
  | nil => rfl
  | cons w rest ih => simp [runAll, ih]

/-- Lets a worker run everything that waits. -/
def drain {σ : Type} (c : Collaborators σ) (sender : UserId) (p : Pool) (s : σ) : Pool × σ :=
  if p.isClosed then (p, s)
  else
    let (finished, s) := runAll c sender p.waiting s
    ({ p with waiting := [], finished := p.finished ++ finished }, s)

/-- Gives the queue up and runs what waits. The workers leave if that was the last
producer. -/
def join {σ : Type} (c : Collaborators σ) (sender : UserId) (p : Pool) (s : σ) : Pool × σ :=
  let (p, s) := p.release.drain c sender s
  if p.producers = 0 then ({ p with workers := p.workers.map fun _ => .gone }, s) else (p, s)

end Pool

end Herald
