import Herald.Pool.Basic
import Herald.Proofs.Run.Path

/-!
# Schedules of the worker pool

Producers and workers move one at a time and in any order. A producer that holds a handle
puts a webhook into the queue or is refused, shares its handle or gives it up; one that
waits for room makes no move until it is let in. A worker takes a webhook, goes on with its
run by one call, or leaves. A schedule is a list of such moves, and what holds after every
schedule holds whatever the order.

Main statements: what each move can do (`take?_eq_some_iff`, `advance?_cases`,
`leave?_eq_some_iff`), and that what every move keeps holds after every schedule
(`Steps.invariant`).
-/

namespace Herald

namespace Pool

/-- Something that happens in a pool. -/
inductive Move where
  /-- A producer puts a webhook into the queue. -/
  | accepted (w : Webhook)
  | refused (w : Webhook) (e : QueueError)
  | shared
  | released
  | taken (worker : Nat)
  /-- A worker goes on with its run, by a call unless that has ended. -/
  | advanced (worker : Nat) (made : Option (Webhook × Exchange))
  | left (worker : Nat)

namespace Move

def accepted? : Move → Option Webhook
  | .accepted w => some w
  | _ => none

def made? : Move → Option (Webhook × Exchange)
  | .advanced _ made => made
  | _ => none

end Move

/-- The webhooks that were let into the queue, in order. -/
def acceptedIn (moves : List Move) : List Webhook :=
  moves.filterMap Move.accepted?

/-- The calls that were made, in order, each with the webhook that it was made for. -/
def journal (moves : List Move) : List (Webhook × Exchange) :=
  moves.filterMap Move.made?

/-- The webhooks that workers have taken and not finished. -/
def held (p : Pool) : List Webhook :=
  p.workers.flatMap Worker.held

variable {σ : Type}

/-- The call that a worker makes when it goes on. -/
def nextExchange? (c : Collaborators σ) (p : Pool) (worker : Nat) (s : σ) :
    Option (Webhook × Exchange) :=
  match p.workers[worker]? with
  | some (.busy w (.ask call _)) => some (w, ⟨call, (c.answer call s).1⟩)
  | _ => none

/-- A move, with the pool and the collaborators' state before and after. Only who holds a
handle to the queue can use it. -/
inductive Step (c : Collaborators σ) (sender : UserId) : Pool × σ → Move → Pool × σ → Prop
  | accept {p after : Pool} {s : σ} {w : Webhook} (producer : 0 < p.producers)
      (accepted : p.enqueue w = .ok after) : Step c sender (p, s) (.accepted w) (after, s)
  | refuse {p : Pool} {s : σ} {w : Webhook} {e : QueueError} (producer : 0 < p.producers)
      (refused : p.enqueue w = .error e) : Step c sender (p, s) (.refused w e) (p, s)
  | share {p : Pool} {s : σ} (producer : 0 < p.producers) :
      Step c sender (p, s) .shared (p.share, s)
  | release {p : Pool} {s : σ} (producer : 0 < p.producers) :
      Step c sender (p, s) .released (p.release, s)
  | take {p after : Pool} {s : σ} {worker : Nat} (taken : p.take? sender worker = some after) :
      Step c sender (p, s) (.taken worker) (after, s)
  | advance {p after : Pool} {s s' : σ} {worker : Nat}
      (advanced : p.advance? c worker s = some (after, s')) :
      Step c sender (p, s) (.advanced worker (p.nextExchange? c worker s)) (after, s')
  | leave {p after : Pool} {s : σ} {worker : Nat} (left : p.leave? worker = some after) :
      Step c sender (p, s) (.left worker) (after, s)

/-- A schedule: moves one after the other. -/
inductive Steps (c : Collaborators σ) (sender : UserId) :
    Pool × σ → List Move → Pool × σ → Prop
  | refl (a : Pool × σ) : Steps c sender a [] a
  | snoc {a b d : Pool × σ} {moves : List Move} {move : Move} (before : Steps c sender a moves b)
      (last : Step c sender b move d) : Steps c sender a (moves ++ [move]) d

variable {c : Collaborators σ} {sender : UserId}

/-- What holds at first and is kept by every move holds after every schedule. -/
theorem Steps.invariant {I : List Move → Pool × σ → Prop} {a d : Pool × σ} {moves : List Move}
    (run : Steps c sender a moves d) (first : I [] a)
    (kept : ∀ {moves move b d}, I moves b → Step c sender b move d → I (moves ++ [move]) d) :
    I moves d := by
  induction run with
  | refl => exact first
  | snoc before last ih => exact kept ih last

theorem Steps.single {a b : Pool × σ} {move : Move} (step : Step c sender a move b) :
    Steps c sender a [move] b :=
  .snoc (.refl a) step

theorem Steps.trans {a b d : Pool × σ} {first last : List Move} (run : Steps c sender a first b)
    (rest : Steps c sender b last d) : Steps c sender a (first ++ last) d := by
  induction rest with
  | refl => rwa [List.append_nil]
  | snoc before step ih =>
    rw [← List.append_assoc]
    exact .snoc ih step

section Spec

variable {p after : Pool} {worker : Nat} {w : Webhook}

theorem start?_eq_some_iff {workers capacity : Nat} :
    start? workers capacity = some p ↔
      max capacity 1 ≤ maxCapacity ∧
        p = {
          capacity := max capacity 1
          waiting := []
          producers := 1
          workers := List.replicate (max workers 1) .idle
          finished := [] } := by
  unfold start?
  by_cases fits : max capacity 1 ≤ maxCapacity
  · rw [if_pos fits, Option.some.injEq]
    exact ⟨fun same => ⟨fits, same.symm⟩, fun both => both.2.symm⟩
  · rw [if_neg fits]
    exact ⟨fun impossible => (by cases impossible), fun both => absurd both.1 fits⟩

theorem enqueue_eq_error_iff {e : QueueError} :
    p.enqueue w = .error e ↔
      (p.isClosed = true ∧ e = .closed) ∨
      (p.isClosed = false ∧ p.capacity ≤ p.waiting.length ∧ e = .full) := by
  unfold enqueue
  cases closed : p.isClosed with
  | true => simp [eq_comm]
  | false =>
    by_cases room : p.waiting.length < p.capacity
    · simp [room, Nat.not_le_of_lt room]
    · simp [room, Nat.le_of_not_lt room, eq_comm]

theorem take?_eq_some_iff :
    p.take? sender worker = some after ↔
      ∃ w rest, p.workers[worker]? = some .idle ∧ p.waiting = w :: rest ∧
        after = { p with
          waiting := rest
          workers := p.workers.set worker (.busy w (w.relay sender)) } := by
  unfold take?
  constructor
  · intro taken
    split at taken
    · rename_i w rest idle waiting
      cases taken
      exact ⟨w, rest, idle, waiting, rfl⟩
    · cases taken
  · intro given
    obtain ⟨w, rest, idle, waiting, rfl⟩ := given
    rw [idle, waiting]

theorem leave?_eq_some_iff :
    p.leave? worker = some after ↔
      p.workers[worker]? = some .idle ∧ p.waiting = [] ∧ p.producers = 0 ∧
        after = { p with workers := p.workers.set worker .gone } := by
  unfold leave?
  constructor
  · intro left
    split at left
    · rename_i idle waiting
      split at left
      · rename_i nobody
        cases left
        exact ⟨idle, waiting, nobody, rfl⟩
      · cases left
    · cases left
  · intro given
    obtain ⟨idle, waiting, nobody, rfl⟩ := given
    rw [idle, waiting]
    exact if_pos nobody

/-- A worker that goes on ends its run, or makes a call and is answered, or is taken down
by the call. -/
theorem advance?_cases {s s' : σ} (advanced : p.advance? c worker s = some (after, s')) :
    ∃ w rest, p.workers[worker]? = some (.busy w rest) ∧
      ((∃ outcome, rest = .done outcome ∧ p.nextExchange? c worker s = none ∧
          after = p.finish worker w (some outcome)) ∨
        (∃ call next answer, rest = .ask call next ∧ c.answer call s = (some answer, s') ∧
          p.nextExchange? c worker s = some (w, ⟨call, some answer⟩) ∧
          after = { p with workers := p.workers.set worker (.busy w (next answer)) }) ∨
        (∃ call next, rest = .ask call next ∧ c.answer call s = (none, s') ∧
          p.nextExchange? c worker s = some (w, ⟨call, none⟩) ∧
          after = p.finish worker w none)) := by
  unfold advance? at advanced
  unfold nextExchange?
  split at advanced
  · rename_i w outcome busy
    cases advanced
    exact ⟨w, .done outcome, busy, .inl ⟨outcome, rfl, by rw [busy], rfl⟩⟩
  · rename_i w call next busy
    refine ⟨w, .ask call next, busy, .inr ?_⟩
    rw [busy]
    split at advanced
    · rename_i answer later answered
      cases advanced
      exact .inl ⟨call, next, answer, rfl, answered, by simp [answered], rfl⟩
    · rename_i later lost
      cases advanced
      exact .inr ⟨call, next, rfl, lost, by simp [lost], rfl⟩
  · cases advanced

end Spec

theorem acceptedIn_snoc (moves : List Move) (move : Move) :
    acceptedIn (moves ++ [move]) = acceptedIn moves ++ move.accepted?.toList := by
  unfold acceptedIn
  rw [List.filterMap_append]
  cases move <;> rfl

theorem journal_snoc (moves : List Move) (move : Move) :
    journal (moves ++ [move]) = journal moves ++ move.made?.toList := by
  unfold journal
  rw [List.filterMap_append]
  cases made : move.made? <;> simp [made]

theorem acceptedIn_append (first last : List Move) :
    acceptedIn (first ++ last) = acceptedIn first ++ acceptedIn last :=
  List.filterMap_append

end Pool

end Herald
