import Herald.Proofs.Run.Reading
import Herald.Run.Log

/-!
# Runs up to the ids of posts

Two runs of a webhook get different post ids, and nothing that a run does depends on
them: as long as the answers differ in post ids only, so do the calls and the result
(`Webhook.relay_oblivious`). Collaborators whose answers depend on the call alone, up to
post ids, therefore lead every run of a webhook the same way, whatever state they are in.

Main statements: `Alike.trace_eq` and `Alike.exec_eq`.
-/

namespace Herald

/-- The answer without the id of the post that was made. -/
def Call.anonymous : (call : Call) → call.Answer → call.Answer
  | .loadInstance _, answer => answer
  | .loadUser .., answer => answer
  | .loadConnection .., answer => answer
  | .loadSubscriptions _, answer => answer
  | .openSession _, answer => answer
  | .fetch .., answer => answer
  | .postDirect .., answer => answer.map fun _ => ⟨""⟩
  | .postToChannel .., answer => answer.map fun _ => ⟨""⟩

def Exchange.anonymous (x : Exchange) : Exchange :=
  ⟨x.call, x.answer.map x.call.anonymous⟩

def Telling.anonymous : Telling → Telling
  | .posted _ => .posted ⟨""⟩
  | telling => telling

def ChannelPost.anonymous (p : ChannelPost) : ChannelPost :=
  { p with answer := p.answer.map fun _ => ⟨""⟩ }

def DirectReport.anonymous (r : DirectReport) : DirectReport :=
  { r with posted := r.posted.map fun _ => ⟨""⟩ }

def ChannelReport.anonymous (r : ChannelReport) : ChannelReport :=
  { r with delivered := r.delivered.map fun d => (d.1, ⟨""⟩) }

def Outcome.anonymous : Outcome → Outcome
  | .delivered r =>
    .delivered { r with direct := r.direct.anonymous, channels := r.channels.anonymous }
  | outcome => outcome

def Finished.anonymous (f : Finished) : Finished :=
  { f with outcome := f.outcome.anonymous }

theorem Telling.anonymous_ofAnswer (user : UserId) (answer : Except PostError PostId) :
    (ofAnswer user answer).anonymous = ofAnswer user (answer.map fun _ => ⟨""⟩) := by
  cases answer <;> rfl

theorem DirectReport.anonymous_ofTellings (tellings : List Telling) :
    (ofTellings tellings).anonymous = ofTellings (tellings.map Telling.anonymous) := by
  have posts : ∀ t : Telling, t.anonymous.post? = t.post?.map fun _ => ⟨""⟩ := by
    intro t
    cases t <;> rfl
  have warnings : ∀ t : Telling, t.anonymous.warning? = t.warning? := by
    intro t
    cases t <;> rfl
  unfold ofTellings anonymous
  simp only [List.map_filterMap, List.filterMap_map, Function.comp_def, posts, warnings]

theorem ChannelReport.anonymous_ofPosts (posts : List ChannelPost) :
    (ofPosts posts).anonymous = ofPosts (posts.map ChannelPost.anonymous) := by
  have delivered : ∀ p : ChannelPost,
      p.anonymous.delivered? = p.delivered?.map fun d => (d.1, ⟨""⟩) := by
    rintro ⟨channel, _ | _⟩ <;> rfl
  have failed : ∀ p : ChannelPost, p.anonymous.failed? = p.failed? := by
    rintro ⟨channel, _ | _⟩ <;> rfl
  unfold ofPosts anonymous
  simp only [List.map_filterMap, List.filterMap_map, Function.comp_def, delivered, failed]

namespace Run

variable {α β γ δ κ : Type}

/-- The runs make the same calls and come to related results, as long as what they are
answered differs in post ids only. -/
inductive Alike (R : α → β → Prop) : Run α → Run β → Prop
  | done {a : α} {b : β} (related : R a b) : Alike R (.done a) (.done b)
  | ask {call : Call} {next : call.Answer → Run α} {next' : call.Answer → Run β}
      (goes : ∀ x y, call.anonymous x = call.anonymous y → Alike R (next x) (next' y)) :
      Alike R (.ask call next) (.ask call next')

/-- What the run does, and what `key` keeps of its result, does not depend on post
ids. -/
def Oblivious (key : α → κ) (r : Run α) : Prop :=
  r.Alike (fun a b => key a = key b) r

namespace Alike

variable {R : α → β → Prop} {S : γ → δ → Prop}

theorem bind {r : Run α} {r' : Run β} {f : α → Run γ} {g : β → Run δ} (first : r.Alike R r')
    (rest : ∀ a b, R a b → (f a).Alike S (g b)) : (r >>= f).Alike S (r' >>= g) := by
  induction first with
  | done related => exact rest _ _ related
  | ask goes ih => exact .ask ih

/-- A run that only reads is answered no post ids. -/
theorem of_reads {r : Run α} (reads : r.Reads) : r.Alike Eq r := by
  induction r with
  | done a => exact .done rfl
  | ask call next ih =>
    refine .ask fun x y same => ?_
    have equal : x = y := by
      obtain ⟨reading, -⟩ := reads
      cases call <;> first | exact same | cases reading
    rw [equal]
    exact ih y (reads.2 y)

theorem mapM {f : α → Run β} {key : β → κ} (each : ∀ a, (f a).Oblivious key) (l : List α) :
    (l.mapM f).Oblivious (List.map key) := by
  induction l with
  | nil => exact .done rfl
  | cons a rest ih =>
    rw [List.mapM_cons]
    refine (each a).bind fun b b' same => ih.bind fun bs bs' equal => .done ?_
    rw [List.map_cons, List.map_cons, same, equal]

end Alike

end Run

open Run

namespace Event

variable {sender : UserId} {tracker : Instance} {e : Event}

theorem tell_oblivious (n : Notification) :
    (e.tell sender tracker n).Oblivious Telling.anonymous := by
  unfold tell
  refine .ask fun user user' same => ?_
  cases (same : user = user')
  cases user with
  | error err => exact .done rfl
  | ok user =>
    refine .ask fun connection connection' same => ?_
    cases (same : connection = connection')
    cases connection with
    | error err => exact .done rfl
    | ok connection =>
      change Alike _ (if connection.settings.allows n.role then _ else _)
        (if connection.settings.allows n.role then _ else _)
      split
      · refine .ask fun answer answer' same => .done ?_
        change answer.map (fun _ => (⟨""⟩ : PostId)) = answer'.map fun _ => ⟨""⟩ at same
        rw [Telling.anonymous_ofAnswer, Telling.anonymous_ofAnswer, same]
      · exact .done rfl

theorem tellAll_oblivious : (e.tellAll sender tracker).Oblivious DirectReport.anonymous := by
  unfold tellAll
  refine (Alike.mapM tell_oblivious e.notifications).bind fun tellings tellings' same => .done ?_
  rw [DirectReport.anonymous_ofTellings, DirectReport.anonymous_ofTellings, same]

theorem fanOut_oblivious (subscriptions : List Subscription) :
    (e.fanOut sender tracker subscriptions).Oblivious ChannelReport.anonymous := by
  have single : ∀ s, (e.postTo sender tracker s).Oblivious ChannelPost.anonymous := by
    intro s
    refine .ask fun answer answer' same => .done ?_
    change answer.map (fun _ => (⟨""⟩ : PostId)) = answer'.map fun _ => ⟨""⟩ at same
    simp only [ChannelPost.anonymous, same]
  unfold fanOut
  refine (Alike.mapM single _).bind fun posts posts' same => .done ?_
  rw [ChannelReport.anonymous_ofPosts, ChannelReport.anonymous_ofPosts, same]

theorem publish_alike {visibility : String} {direct direct' : DirectReport}
    (same : direct.anonymous = direct'.anonymous) :
    (e.publish sender tracker visibility direct).Alike
      (fun a b => a.anonymous = b.anonymous) (e.publish sender tracker visibility direct') := by
  unfold publish
  refine .ask fun answer answer' equal => ?_
  cases (equal : answer = answer')
  cases answer with
  | error err => exact .done rfl
  | ok subscriptions =>
    refine (fanOut_oblivious _).bind fun channels channels' reported => .done ?_
    simp only [Outcome.anonymous, same, reported]

theorem relayFrom_oblivious : (e.relayFrom sender tracker).Oblivious Outcome.anonymous := by
  unfold relayFrom
  refine tellAll_oblivious.bind fun direct direct' same => ?_
  refine (Alike.of_reads (e.readied_reads tracker)).bind fun read read' equal => ?_
  cases equal
  cases read with
  | error halt => exact .done rfl
  | ok made => exact publish_alike same

theorem relay_oblivious (id : InstanceId) : (e.relay sender id).Oblivious Outcome.anonymous := by
  unfold relay
  refine .ask fun answer answer' same => ?_
  cases (same : answer = answer')
  cases answer with
  | ok tracker => exact relayFrom_oblivious
  | error err =>
    change Alike _ (if err.isNotFound then _ else _) (if err.isNotFound then _ else _)
    split <;> exact .done rfl

end Event

/-- What the run of a webhook does and comes to does not depend on the ids that posts
get. -/
theorem Webhook.relay_oblivious (w : Webhook) (sender : UserId) :
    (w.relay sender).Oblivious Outcome.anonymous := by
  unfold Webhook.relay
  split
  · exact Event.relay_oblivious w.instanceId
  · exact .done rfl
  · exact .done rfl

variable {σ : Type}

/-- What the collaborators answer depends on the call alone, up to the ids of posts, and
so does whether they answer at all. -/
def Collaborators.Steady (c : Collaborators σ) : Prop :=
  ∀ call s s', (c.answer call s).1.map call.anonymous = (c.answer call s').1.map call.anonymous

/-- In any two states a call is lost in both or answered alike in both. -/
theorem Collaborators.Steady.answer_cases {c : Collaborators σ} (steady : c.Steady) (call : Call)
    (s s' : σ) :
    (∃ after after', c.answer call s = (none, after) ∧ c.answer call s' = (none, after')) ∨
      ∃ x y after after', c.answer call s = (some x, after) ∧
        c.answer call s' = (some y, after') ∧ call.anonymous x = call.anonymous y := by
  have same := steady call s s'
  cases first : c.answer call s with
  | mk answer after =>
    cases second : c.answer call s' with
    | mk answer' after' =>
      rw [first, second] at same
      cases answer with
      | none =>
        cases answer' with
        | none => exact .inl ⟨after, after', rfl, rfl⟩
        | some y => cases same
      | some x =>
        cases answer' with
        | none => cases same
        | some y => exact .inr ⟨x, y, after, after', rfl, rfl, Option.some.inj same⟩

namespace Run.Alike

variable {α β κ : Type} {c : Collaborators σ} {r : Run α} {r' : Run β}

/-- Steady collaborators lead runs that are alike the same way. -/
theorem trace_eq {R : α → β → Prop} (alike : r.Alike R r') (steady : c.Steady) (s s' : σ) :
    (r.trace c s).map Exchange.anonymous = (r'.trace c s').map Exchange.anonymous := by
  induction alike generalizing s s' with
  | done related => rfl
  | @ask call next next' goes ih =>
    rw [trace, trace]
    rcases steady.answer_cases call s s' with
      ⟨after, after', lost, lost'⟩ | ⟨x, y, after, after', answered, answered', same⟩
    · rw [lost, lost']
    · rw [answered, answered']
      simp only [List.map_cons, ih x y same after after', Exchange.anonymous, Option.map_some, same]

/-- Steady collaborators lead runs that are alike to the same result, or take both
down. -/
theorem exec_eq {key : α → κ} {key' : β → κ} (alike : r.Alike (fun a b => key a = key' b) r')
    (steady : c.Steady) (s s' : σ) :
    (r.exec c s).1.map key = (r'.exec c s').1.map key' := by
  induction alike generalizing s s' with
  | done related => exact congrArg some related
  | @ask call next next' goes ih =>
    rw [exec, exec]
    rcases steady.answer_cases call s s' with
      ⟨after, after', lost, lost'⟩ | ⟨x, y, after, after', answered, answered', same⟩
    · rw [lost, lost']
      rfl
    · rw [answered, answered']
      exact ih x y same after after'

end Run.Alike

namespace Run

variable {c : Collaborators σ} {call : Call} {next : call.Answer → Run Outcome} {t t' : σ}

/-- What a run comes to, also where a call takes it down. -/
def ending (c : Collaborators σ) (r : Run Outcome) (s : σ) : Outcome :=
  (r.exec c s).1.getD (.failed .aborted)

theorem Alike.ending_eq {r r' : Run Outcome}
    (alike : r.Alike (fun a b => a.anonymous = b.anonymous) r') (steady : c.Steady) (s s' : σ) :
    (r.ending c s).anonymous = (r'.ending c s').anonymous := by
  have same := alike.exec_eq steady s s'
  have kept : ∀ outcome : Option Outcome, (outcome.getD (.failed .aborted)).anonymous =
      (outcome.map Outcome.anonymous).getD (.failed .aborted) := by
    intro outcome
    cases outcome <;> rfl
  rw [ending, ending, kept, kept, same]

namespace Oblivious

theorem of_answer {next : call.Answer → Run Outcome}
    (oblivious : (ask call next).Oblivious Outcome.anonymous) (answer : call.Answer) :
    (next answer).Oblivious Outcome.anonymous := by
  cases oblivious with
  | ask goes => exact goes answer answer rfl

/-- Once a call is answered, what is still ahead is the rest of what was ahead before,
from whatever state it is looked at. -/
theorem answered (oblivious : (ask call next).Oblivious Outcome.anonymous) (steady : c.Steady)
    {answer : call.Answer} (answered : c.answer call t = (some answer, t')) (s : σ) :
    ((ask call next).ending c s).anonymous = ((next answer).ending c s).anonymous ∧
      ((ask call next).trace c s).map Exchange.anonymous =
        Exchange.anonymous ⟨call, some answer⟩ ::
          ((next answer).trace c s).map Exchange.anonymous := by
  cases oblivious with
  | ask goes =>
    rcases steady.answer_cases call s t with
      ⟨_, _, -, lost⟩ | ⟨x, y, after, after', first, second, same⟩
    · rw [answered] at lost
      cases lost
    · rw [answered] at second
      cases second
      have alike := goes x answer same
      rw [ending, exec, trace, first]
      refine ⟨alike.ending_eq steady after s, ?_⟩
      simp only [List.map_cons, alike.trace_eq steady after s, Exchange.anonymous,
        Option.map_some, same]

/-- A call that is lost once is lost in every state. -/
theorem lost (steady : c.Steady) (lost : c.answer call t = (none, t')) (s : σ) :
    (ask call next).ending c s = .failed .aborted ∧
      (ask call next).trace c s = [⟨call, none⟩] := by
  rcases steady.answer_cases call s t with ⟨after, _, first, -⟩ | ⟨_, _, _, _, -, answered, -⟩
  · rw [ending, exec, trace, first]
    exact ⟨rfl, rfl⟩
  · rw [lost] at answered
    cases answered

end Oblivious

end Run

end Herald
