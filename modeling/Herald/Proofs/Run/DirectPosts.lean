import Herald.Proofs.Run.Parallel
import Herald.Proofs.Run.Visibility

/-!
# Direct messages and everything else

Direct messages are posted first, and nothing that comes after waits for them: whatever they
are answered, the rest of the run is asked and answered the same. Two runs that are answered
differently for direct posts alone are compared part by part, with those answers left out.

Main statement: such runs make the same calls and come to the same, apart from the report on the
direct messages (`direct_posts_apart`).
-/

namespace Herald

open Run

variable {σ τ : Type}

/-- The call posts a direct message. -/
def Call.isDirect : Call → Bool
  | .postDirect .. => true
  | _ => false

/-- The same call and, unless it posts a direct message, the same answer. -/
structure Exchange.Agrees (x y : Exchange) : Prop where
  call : x.call = y.call
  answer : x.call.isDirect = false → x = y

/-- The outcome apart from what became of the direct messages. -/
def Outcome.withoutDirect : Outcome → Outcome
  | .delivered r => .delivered { r with direct := ⟨[], []⟩ }
  | outcome => outcome

/-- Collaborators that differ in what they answer direct posts. In related states they answer
every other call the same, and whatever they are asked, direct posts included, leaves them in
related states. A direct post may fail, but it comes back. -/
structure Collaborators.InStep (c : Collaborators σ) (c' : Collaborators τ) (R : σ → τ → Prop) :
    Prop where
  others : ∀ {call : Call} {s s'}, call.isDirect = false → R s s' →
    (c.answer call s).1 = (c'.answer call s').1 ∧ R (c.answer call s).2 (c'.answer call s').2
  directs : ∀ {call : Call} {s s'}, call.isDirect = true → R s s' →
    (c.answer call s).1 ≠ none ∧ (c'.answer call s').1 ≠ none ∧
      R (c.answer call s).2 (c'.answer call s').2

/-- The exchange without the answer to a direct post. -/
def Exchange.masked (x : Exchange) : Exchange :=
  if x.call.isDirect then ⟨x.call, none⟩ else x

@[simp] theorem Exchange.masked_call (x : Exchange) : x.masked.call = x.call := by
  unfold masked
  split <;> rfl

theorem Exchange.agrees_iff {x y : Exchange} : x.Agrees y ↔ x.masked = y.masked := by
  constructor
  · rintro ⟨sameCall, sameAnswer⟩
    cases direct : x.call.isDirect with
    | false => rw [sameAnswer direct]
    | true =>
      have direct' : y.call.isDirect = true := sameCall ▸ direct
      rw [masked, masked, if_pos direct, if_pos direct', sameCall]
  · intro same
    have sameCall : x.call = y.call := by rw [← masked_call x, same, masked_call]
    refine ⟨sameCall, fun other => ?_⟩
    have other' : y.call.isDirect = false := sameCall ▸ other
    rwa [masked, masked, other, other'] at same

theorem Exchange.forall₂_agrees {xs ys : List Exchange}
    (same : xs.filterMap (some ∘ masked) = ys.filterMap (some ∘ masked)) :
    List.Forall₂ Agrees xs ys := by
  rw [List.filterMap_eq_map, map_eq_iff_forall₂] at same
  exact same.imp fun _ _ => agrees_iff.mpr

namespace Event

variable {c : Collaborators σ} {c' : Collaborators τ} {R : σ → τ → Prop} {e : Event}
  {sender : UserId} {tracker : Instance}

/-- A call that posts no direct message is answered the same. -/
theorem call_apart (inStep : c.InStep c' R) {k : Call} (other : k.isDirect = false) :
    Matches c c' (some ∘ Exchange.masked) R Eq (Run.call k) (Run.call k) :=
  .call_same fun _ _ => inStep.others other

/-- A direct post comes back from both, with any answers. -/
theorem direct_apart (inStep : c.InStep c' R) {k : Call} (direct : k.isDirect = true) :
    Matches c c' (some ∘ Exchange.masked) R (fun _ _ => True) (Run.call k) (Run.call k) := by
  refine .call fun s s' states => ?_
  obtain ⟨returned, returned', left⟩ := inStep.directs direct states
  obtain ⟨x, answered⟩ := Option.ne_none_iff_exists'.mp returned
  obtain ⟨y, answered'⟩ := Option.ne_none_iff_exists'.mp returned'
  rw [answered, answered']
  exact ⟨by simp [Exchange.masked, direct], .some trivial, left⟩

/-- A run without direct posts is answered the same throughout. -/
theorem only_apart {α : Type} (inStep : c.InStep c' R) {r : Run α}
    (only : r.Only (·.isDirect = false)) : Matches c c' (some ∘ Exchange.masked) R Eq r r :=
  .of_only (only.mono fun _ other _ _ => inStep.others other)

/-- Who is posted to directly is decided before, and nothing after depends on how it went. -/
theorem tell_apart (inStep : c.InStep c' R) (n : Notification) :
    Matches c c' (some ∘ Exchange.masked) R (fun _ _ => True) (e.tell sender tracker n)
      (e.tell sender tracker n) := by
  unfold tell
  refine (call_apart inStep rfl).bind fun user? user?' same => ?_
  subst same
  cases user? with
  | error err => exact .done trivial
  | ok user =>
    refine (call_apart inStep rfl).bind fun connection? connection?' same => ?_
    subst same
    cases connection? with
    | error err => exact .done trivial
    | ok connection =>
      change Matches c c' (some ∘ Exchange.masked) R _
        (if connection.settings.allows n.role then _ else _)
        (if connection.settings.allows n.role then _ else _)
      split
      · exact (direct_apart inStep rfl).bind fun _ _ _ => .done trivial
      · exact .done trivial

theorem tellAll_apart (inStep : c.InStep c' R) :
    Matches c c' (some ∘ Exchange.masked) R (fun _ _ => True) (e.tellAll sender tracker)
      (e.tellAll sender tracker) := by
  unfold tellAll
  exact (Matches.mapM (tell_apart inStep) e.notifications).bind fun _ _ _ => .done trivial

/-- The report on the direct messages is only passed on. -/
theorem publish_apart (inStep : c.InStep c' R) {visibility : String}
    {direct direct' : DirectReport} :
    Matches c c' (some ∘ Exchange.masked) R (fun a b => a.withoutDirect = b.withoutDirect)
      (e.publish sender tracker visibility direct)
      (e.publish sender tracker visibility direct') := by
  unfold publish
  refine (call_apart inStep rfl).bind fun answer answer' same => ?_
  subst same
  cases answer with
  | error err => exact .done rfl
  | ok subscriptions =>
    have posts : (e.fanOut sender tracker (subscriptions.filter (·.accepts e visibility))).Only
        (·.isDirect = false) := fanOut_only fun _ _ => rfl
    refine (only_apart inStep posts).bind fun channels channels' same => ?_
    subst same
    exact .done rfl

theorem relayFrom_apart (inStep : c.InStep c' R) :
    Matches c c' (some ∘ Exchange.masked) R (fun a b => a.withoutDirect = b.withoutDirect)
      (e.relayFrom sender tracker) (e.relayFrom sender tracker) := by
  have reads : (e.readied tracker).run.Only (·.isDirect = false) :=
    readied_only (fun _ => rfl) (fun _ => rfl) (fun _ => rfl) fun _ _ _ => rfl
  unfold relayFrom
  refine (tellAll_apart inStep).bind fun direct direct' _ => ?_
  refine (only_apart inStep reads).bind fun ready ready' same => ?_
  subst same
  cases ready with
  | error halt => exact .done rfl
  | ok ready => exact publish_apart inStep

theorem relay_apart (inStep : c.InStep c' R) (id : InstanceId) :
    Matches c c' (some ∘ Exchange.masked) R (fun a b => a.withoutDirect = b.withoutDirect)
      (e.relay sender id) (e.relay sender id) := by
  unfold relay
  refine (call_apart inStep rfl).bind fun answer answer' same => ?_
  subst same
  cases answer with
  | ok tracker => exact relayFrom_apart inStep
  | error err =>
    dsimp only
    split <;> exact .done rfl

end Event

/-- Whatever direct posts are answered, the run of a webhook makes the same calls in the same
order, is answered the same by the store, the tracker and the channels, and ends in the same
outcome with the same visibility, apart from the report on the direct messages. -/
theorem direct_posts_apart {c : Collaborators σ} {c' : Collaborators τ} {R : σ → τ → Prop}
    (inStep : c.InStep c' R) {s : σ} {s' : τ} (related : R s s') (sender : UserId) (w : Webhook) :
    List.Forall₂ Exchange.Agrees ((w.relay sender).trace c s) ((w.relay sender).trace c' s') ∧
      ((w.relay sender).exec c s).1.map Outcome.withoutDirect =
        ((w.relay sender).exec c' s').1.map Outcome.withoutDirect ∧
      R ((w.relay sender).exec c s).2 ((w.relay sender).exec c' s').2 := by
  have alike : Matches c c' (some ∘ Exchange.masked) R
      (fun a b => a.withoutDirect = b.withoutDirect) (w.relay sender) (w.relay sender) := by
    unfold Webhook.relay
    split
    · exact Event.relay_apart inStep w.instanceId
    · exact .done rfl
    · exact .done rfl
  obtain ⟨asked, results, left⟩ := alike s s' related
  exact ⟨Exchange.forall₂_agrees asked, map_eq_of_rel results, left⟩

/-- A webhook about a new comment of "ann" on an issue that "bob" looks after. -/
def assignedComment : Webhook :=
  ⟨⟨"tracker"⟩, Text.Utf8.encode (
    "\x7b\"webhookEvent\":\"comment_created\",\"issue\":\x7b\"key\":\"P-1\"," ++
    "\"fields\":\x7b\"assignee\":\x7b\"accountId\":\"bob\"\x7d\x7d\x7d," ++
    "\"comment\":\x7b\"id\":\"7\",\"self\":\"https://t/c/7\",\"body\":\"hi\"," ++
    "\"author\":\x7b\"accountId\":\"ann\"\x7d\x7d\x7d")⟩

/-- Everybody is connected and wants to be told, and all direct posts are answered the same. -/
def Collaborators.telling (answer : Except PostError PostId) : Collaborators Unit where
  answer
    | .loadConnection _ user, s =>
      (some (.ok ⟨⟨user.text⟩, user.text, .bearer "token", .enabled⟩), s)
    | .postDirect .., s => (some answer, s)
    | call, s =>
      (Collaborators.constant (restrictedTo (.string "Developers")) townAndDevelopers).answer call s

private theorem telling_inStep (answer answer' : Except PostError PostId) :
    (Collaborators.telling answer).InStep (.telling answer') fun _ _ => True where
  others {call s s'} other _ := by
    cases call with
    | postDirect => cases other
    | fetch session path query => cases query <;> exact ⟨rfl, trivial⟩
    | _ => exact ⟨rfl, trivial⟩
  directs {call s s'} direct _ := by
    cases call with
    | postDirect => exact ⟨nofun, nofun, trivial⟩
    | _ => cases direct

/-- That "bob" could not be told is in the report, and everything else went the same. -/
theorem untold_assignee_apart :
    let told := Collaborators.telling (.ok ⟨"direct"⟩)
    let untold := Collaborators.telling (.error .unanswered)
    List.Forall₂ Exchange.Agrees ((assignedComment.relay ⟨"bot"⟩).trace told ())
        ((assignedComment.relay ⟨"bot"⟩).trace untold ()) ∧
      ((assignedComment.relay ⟨"bot"⟩).exec told ()).1.map Outcome.withoutDirect =
        ((assignedComment.relay ⟨"bot"⟩).exec untold ()).1.map Outcome.withoutDirect ∧
      ((assignedComment.relay ⟨"bot"⟩).exec told ()).1 ≠
        ((assignedComment.relay ⟨"bot"⟩).exec untold ()).1 ∧
      ((assignedComment.relay ⟨"bot"⟩).trace told ()).any
        (·.call.channel? == some ⟨"developers"⟩) = true := by
  intro told untold
  obtain ⟨asked, results, -⟩ := direct_posts_apart
    (telling_inStep (.ok ⟨"direct"⟩) (.error .unanswered)) trivial ⟨"bot"⟩ assignedComment
  exact ⟨asked, results, by decide +kernel, by decide +kernel⟩

end Herald
