import Herald.Proofs.Pool.Accounting
import Herald.Proofs.Run.Anonymous

/-!
# Schedules do not matter

Where the collaborators' answers depend on the calls alone, up to the ids of posts, it does
not matter in which order the workers of a pool make their calls: each webhook comes to
what it comes to when it is run alone. Both the outcomes and the posts that were made are
counted by webhook (`outcomeTally`, `exchangeTally`), and every call keeps the count.

Main statement: a pool that has come to rest has the outcomes and has made the posts that
running the webhooks one after another gives, and a run that is taken down leaves the
others alone (`schedule_independent`).
-/

namespace Herald

open Run

variable {σ : Type}

/-- What comes of a webhook that is run alone. -/
def Webhook.alone (c : Collaborators σ) (sender : UserId) (s : σ) (w : Webhook) : Finished :=
  ⟨w, (w.relay sender).ending c s⟩

/-- The calls that are made for a webhook that is run alone. -/
def Webhook.exchangesAlone (c : Collaborators σ) (sender : UserId) (s : σ) (w : Webhook) :
    List (Webhook × Exchange) :=
  ((w.relay sender).trace c s).map (w, ·)

/-- A message was posted. -/
def Exchange.isDelivery : Exchange → Bool
  | ⟨.postDirect .., some (.ok _)⟩ => true
  | ⟨.postToChannel .., some (.ok _)⟩ => true
  | _ => false

namespace Pool

/-- The calls that are made when webhooks are run one after another. -/
def exchangesOfAll (c : Collaborators σ) (sender : UserId) :
    List Webhook → σ → List (Webhook × Exchange)
  | [], _ => []
  | w :: rest, s =>
    w.exchangesAlone c sender s ++ exchangesOfAll c sender rest ((w.relay sender).exec c s).2

/-- Calls with their webhooks, without post ids. -/
def anonymous (exchanges : List (Webhook × Exchange)) : List (Webhook × Exchange) :=
  exchanges.map fun entry => (entry.1, entry.2.anonymous)

/-- The posts among calls, each with its webhook and without its id. -/
def deliveries (exchanges : List (Webhook × Exchange)) : List (Webhook × Exchange) :=
  (anonymous exchanges).filter (·.2.isDelivery)

/-- Nothing waits and nobody is busy. -/
def AtRest (p : Pool) : Prop :=
  p.waiting = [] ∧ p.held = []

variable {c : Collaborators σ} {sender : UserId}

/-- The outcomes, without post ids. A run that still goes on counts as what it would come to
from the state `s`. -/
def outcomeTally (steady : c.Steady) (sender : UserId) (s : σ) : Tally c sender Finished where
  made _ _ := []
  ended f := [f.anonymous]
  running w r := [Finished.anonymous ⟨w, r.ending c s⟩]
  sound r := r.Oblivious Outcome.anonymous
  sound_relay w := w.relay_oblivious sender
  sound_next answer oblivious := oblivious.of_answer answer
  running_done _ _ := rfl
  running_answered w _ _ _ _ _ oblivious answered :=
    congrArg (fun outcome => [(⟨w, outcome⟩ : Finished)]) (oblivious.answered steady answered s).1
  running_lost w _ _ _ _ _ lost :=
    congrArg (fun outcome => [Finished.anonymous ⟨w, outcome⟩]) (Oblivious.lost steady lost s).1

/-- The calls, without post ids. A run that still goes on counts for the calls that it would
make from the state `s`. -/
def exchangeTally (steady : c.Steady) (sender : UserId) (s : σ) :
    Tally c sender (Webhook × Exchange) where
  made w x := [(w, x.anonymous)]
  ended _ := []
  running w r := ((r.trace c s).map Exchange.anonymous).map (w, ·)
  sound r := r.Oblivious Outcome.anonymous
  sound_relay w := w.relay_oblivious sender
  sound_next answer oblivious := oblivious.of_answer answer
  running_done _ _ := rfl
  running_answered w _ _ _ _ _ oblivious answered :=
    congrArg (List.map (w, ·)) (oblivious.answered steady answered s).2
  running_lost w _ _ _ _ _ lost :=
    congrArg (fun trace => (trace.map Exchange.anonymous).map (w, ·))
      (Oblivious.lost steady lost s).2

theorem Tally.inPool_atRest {β : Type} (t : Tally c sender β) {p : Pool} (rest : p.AtRest) :
    t.inPool p = p.finished.flatMap t.ended := by
  have free : p.workers.flatMap t.inWorker = [] := by
    rw [List.flatMap_eq_nil_iff]
    intro worker member
    have holds := List.flatMap_eq_nil_iff.mp rest.2 worker member
    cases worker with
    | busy w run => cases holds
    | idle => rfl
    | gone => rfl
  rw [inPool, free, rest.1]
  simp

section Sequential

variable (sender : UserId) (l : List Webhook) (s s₀ : σ)

theorem alone_anonymous (steady : c.Steady) (w : Webhook) :
    (w.alone c sender s).anonymous = (w.alone c sender s₀).anonymous :=
  congrArg (fun outcome => (⟨w, outcome⟩ : Finished))
    ((w.relay_oblivious sender).ending_eq steady s s₀)

theorem exchangesAlone_anonymous (steady : c.Steady) (w : Webhook) :
    anonymous (w.exchangesAlone c sender s) = anonymous (w.exchangesAlone c sender s₀) := by
  have same := (w.relay_oblivious sender).trace_eq steady s s₀
  have tagged : ∀ t, anonymous (w.exchangesAlone c sender t) =
      (((w.relay sender).trace c t).map Exchange.anonymous).map (w, ·) := by
    intro t
    simp [anonymous, Webhook.exchangesAlone, Function.comp_def]
  rw [tagged, tagged, same]

/-- Run one after another, the webhooks come to what they come to alone. -/
theorem runAll_anonymous (steady : c.Steady) :
    (runAll c sender l s).1.map Finished.anonymous =
      l.map fun w => (w.alone c sender s₀).anonymous := by
  induction l generalizing s with
  | nil => rfl
  | cons w rest ih =>
    have first := alone_anonymous sender s s₀ steady w
    unfold Webhook.alone ending at first
    simp only [runAll, List.map_cons, ih, first]
    rfl

theorem exchangesOfAll_anonymous (steady : c.Steady) :
    anonymous (exchangesOfAll c sender l s) =
      l.flatMap fun w => anonymous (w.exchangesAlone c sender s₀) := by
  induction l generalizing s with
  | nil => rfl
  | cons w rest ih =>
    have later := ih ((w.relay sender).exec c s).2
    have first := exchangesAlone_anonymous sender s s₀ steady w
    unfold anonymous at later first ⊢
    rw [exchangesOfAll, List.map_append, later, first, List.flatMap_cons]

end Sequential

section AtRest

variable {workers capacity : Nat} {start p : Pool} {s s' : σ} {moves : List Move}

/-- A pool at rest has the outcomes that the webhooks come to alone. -/
theorem outcomes_atRest (steady : c.Steady) (started : start? workers capacity = some start)
    (run : Steps c sender (start, s) moves (p, s')) (rest : p.AtRest) (s₀ : σ) :
    (p.finished.map Finished.anonymous).Perm
      ((acceptedIn moves).map fun w => (w.alone c sender s₀).anonymous) := by
  let t := outcomeTally steady sender s₀
  obtain ⟨sound, empty⟩ := t.inPool_of_start? started
  have balanced := t.conserved run sound
  have made : t.inJournal moves = [] := List.flatMap_eq_nil_iff.mpr fun _ _ => rfl
  rw [made, empty, t.inPool_atRest rest, List.nil_append, List.nil_append] at balanced
  rw [List.map_eq_flatMap, List.map_eq_flatMap]
  exact balanced

/-- A pool at rest has made the calls that are made for the webhooks alone. -/
theorem exchanges_atRest (steady : c.Steady) (started : start? workers capacity = some start)
    (run : Steps c sender (start, s) moves (p, s')) (rest : p.AtRest) (s₀ : σ) :
    (anonymous (journal moves)).Perm
      ((acceptedIn moves).flatMap fun w => anonymous (w.exchangesAlone c sender s₀)) := by
  let t := exchangeTally steady sender s₀
  obtain ⟨sound, empty⟩ := t.inPool_of_start? started
  have balanced := t.conserved run sound
  have ended : p.finished.flatMap t.ended = [] := List.flatMap_eq_nil_iff.mpr fun _ _ => rfl
  have ahead : t.ahead = fun w => anonymous (w.exchangesAlone c sender s₀) := by
    funext w
    simp [t, Tally.ahead, exchangeTally, anonymous, Webhook.exchangesAlone, Function.comp_def]
  rw [empty, t.inPool_atRest rest, ended, List.append_nil, List.nil_append, ahead] at balanced
  rw [anonymous, List.map_eq_flatMap]
  exact balanced

/-- Where the answers depend on the calls alone, a pool that has come to rest has the
outcomes and has made the posts that running its webhooks one after another gives, in any
state and up to post ids. A run that a call takes down fails for good, keeps the posts that
it has made, and leaves the others as they are without it. -/
theorem schedule_independent (steady : c.Steady) (started : start? workers capacity = some start)
    (run : Steps c sender (start, s) moves (p, s')) (rest : p.AtRest) (s₀ : σ) :
    (p.finished.map Finished.anonymous).Perm
        ((runAll c sender (acceptedIn moves) s₀).1.map Finished.anonymous) ∧
      (deliveries (journal moves)).Perm
        (deliveries (exchangesOfAll c sender (acceptedIn moves) s₀)) ∧
      ∀ w others, (acceptedIn moves).Perm (w :: others) →
        ((w.relay sender).exec c s₀).1 = none →
        ∃ f : Finished, f.webhook = w ∧ f.outcome.failureKind? = some .fatalToMessage ∧
          (p.finished.map Finished.anonymous).Perm
            (f :: (runAll c sender others s₀).1.map Finished.anonymous) ∧
          (deliveries (journal moves)).Perm
            (deliveries (w.exchangesAlone c sender s₀) ++
              deliveries (exchangesOfAll c sender others s₀)) := by
  have outcomes := outcomes_atRest steady started run rest s₀
  have exchanges := exchanges_atRest steady started run rest s₀
  refine ⟨?_, ?_, fun w others accepted lost => ⟨⟨w, .failed .aborted⟩, rfl, rfl, ?_, ?_⟩⟩
  · rw [runAll_anonymous sender _ s₀ s₀ steady]
    exact outcomes
  · unfold deliveries
    rw [exchangesOfAll_anonymous sender _ s₀ s₀ steady]
    exact exchanges.filter _
  · have down : (w.alone c sender s₀).anonymous = ⟨w, .failed .aborted⟩ := by
      rw [Webhook.alone, ending, lost]
      rfl
    have first := outcomes.trans (accepted.map fun w => (w.alone c sender s₀).anonymous)
    rw [List.map_cons, down] at first
    rw [runAll_anonymous sender _ s₀ s₀ steady]
    exact first
  · have first := exchanges.trans
      (accepted.flatMap_right fun w => anonymous (w.exchangesAlone c sender s₀))
    rw [List.flatMap_cons] at first
    unfold deliveries
    rw [exchangesOfAll_anonymous sender _ s₀ s₀ steady, ← List.filter_append]
    exact first.filter _

end AtRest

theorem losingPosts_steady (c : Collaborators Unit) : (losingPosts c).Steady := by
  intro call s s'
  cases call <;> rfl

/-- Two workers, a comment whose post is lost, and a body that is no payload. -/
theorem lost_post_independent :
    ∃ start p moves s' f, start? 2 2 = some start ∧
      Steps (losingPosts (.constant (restrictedTo (.string "Developers")) townAndDevelopers))
        ⟨"bot"⟩ (start, 0) moves (p, s') ∧ p.AtRest ∧
      acceptedIn moves = [commentWebhook, ⟨⟨"tracker"⟩, []⟩] ∧ f.webhook = commentWebhook ∧
      f.outcome.failureKind? = some .fatalToMessage ∧
      (p.finished.map Finished.anonymous).Perm
        (f :: (runAll
          (losingPosts (.constant (restrictedTo (.string "Developers")) townAndDevelopers)) ⟨"bot"⟩
          [⟨⟨"tracker"⟩, []⟩] 0).1.map Finished.anonymous) := by
  let c := losingPosts (.constant (restrictedTo (.string "Developers")) townAndDevelopers)
  let malformed : Webhook := ⟨⟨"tracker"⟩, []⟩
  let start : Pool := ⟨2, [], 1, [.idle, .idle], []⟩
  let first : Pool := { start with waiting := [commentWebhook] }
  let second : Pool := { start with waiting := [commentWebhook, malformed] }
  have started : start? 2 2 = some start := start?_eq_some_iff.mpr ⟨by decide, rfl⟩
  have comment : Step c ⟨"bot"⟩ (start, 0) (.accepted commentWebhook) (first, 0) :=
    .accept Nat.one_pos rfl
  have other : Step c ⟨"bot"⟩ (first, 0) (.accepted malformed) (second, 0) :=
    .accept Nat.one_pos rfl
  have idle : second.workers[0]? = some .idle := rfl
  have free : ∀ worker ∈ second.workers, worker.held = [] := by
    simp [second, start, Worker.held]
  have lost : ((commentWebhook.relay ⟨"bot"⟩).exec c 0).1 = none := by
    rw [← Option.isNone_iff_eq_none]
    decide +kernel
  obtain ⟨⟨p, s'⟩, rest, moves, run, nothing⟩ :
      ∃ d : Pool × Nat, d.1.AtRest ∧ Works c ⟨"bot"⟩ (second, 0) d :=
    ⟨second.join c ⟨"bot"⟩ 0, ⟨rfl, rfl⟩, works_join Nat.one_pos idle free 0⟩
  have all := ((Steps.single comment).trans (.single other)).trans run
  have accepted : acceptedIn (([.accepted commentWebhook] ++ [.accepted malformed]) ++ moves) =
      [commentWebhook, malformed] := by
    rw [acceptedIn_append, nothing]
    rfl
  obtain ⟨-, -, alone⟩ :=
    schedule_independent (losingPosts_steady _) started all rest 0
  obtain ⟨f, webhook, fatal, outcomes, -⟩ := alone commentWebhook [malformed]
    (accepted ▸ List.Perm.refl _) lost
  exact ⟨start, p, _, s', f, started, all, rest, accepted, webhook, fatal, outcomes⟩

end Pool

end Herald
