import Herald.Proofs.Run.Stages
import Herald.Proofs.Store.Records
import Herald.Proofs.Tracker.Url
import Herald.Run.Rehearsal
import Herald.Tracker.Client

/-!
# Where runs send requests

A run reads from the tracker that the store has under the id of the webhook, and from no
other, whatever the payload names as the key of an issue or as the link of a comment.

Main statements: what a rehearsal writes down are the URLs of these reads (`fetches_exec`), and
all of them are confined to the base URL (`requests_stay_confined`).
-/

namespace Herald

open Run

namespace Call

/-- The record of the request that a call comes to, if its URL may be requested. -/
def record? : Call → Option Rehearsal.FetchRecord
  | .fetch session path query =>
    (resolveUrl session.tracker.baseUrl path).toOption.map fun url => ⟨url, query⟩
  | _ => none

theorem record?_eq_some_iff {call : Call} {record : Rehearsal.FetchRecord} :
    call.record? = some record ↔ ∃ session path, call = .fetch session path record.query ∧
      resolveUrl session.tracker.baseUrl path = .ok record.url := by
  cases call with
  | fetch session path query =>
    rw [record?]
    cases resolved : resolveUrl session.tracker.baseUrl path with
    | error e => simp [Except.toOption, resolved]
    | ok url =>
      simp only [Except.toOption, Option.map_some, Option.some.injEq]
      constructor
      · intro same
        subst same
        exact ⟨session, path, rfl, resolved⟩
      · intro given
        obtain ⟨session', path', same, resolved'⟩ := given
        cases same
        cases resolved.symm.trans resolved'
        rfl
  | _ => simp [record?]

end Call

/-- What a rehearsal writes down are the URLs that the run reads. -/
theorem fetches_exec {α : Type} (script : Rehearsal.Script) (r : Run α) (j : Rehearsal.Journal) :
    (r.exec script.collaborators j).2.fetches =
      j.fetches ++ (r.trace script.collaborators j).filterMap (·.call.record?) := by
  have step : ∀ call j, (script.collaborators.answer call j).2.fetches =
      j.fetches ++ call.record?.toList := by
    intro call j
    cases call with
    | fetch session path query =>
      simp only [Rehearsal.Script.collaborators, Rehearsal.Script.fetch, Call.record?]
      cases resolveUrl session.tracker.baseUrl path <;> simp [Except.toOption]
    | postDirect sender user message =>
      simp only [Rehearsal.Script.collaborators, Rehearsal.Script.post, Call.record?]
      cases script.failingUsers.lookup user <;> simp [Rehearsal.Journal.post]
    | postToChannel sender event tracker channel subscription =>
      simp only [Rehearsal.Script.collaborators, Rehearsal.Script.post, Call.record?]
      split
      · simp
      · cases script.failingChannels.lookup channel <;> simp [Rehearsal.Journal.post]
    | _ => simp [Rehearsal.Script.collaborators, Call.record?]
  induction r generalizing j with
  | done a => exact (List.append_nil _).symm
  | ask call next ih =>
    rw [exec, trace]
    have first := step call j
    cases made : script.collaborators.answer call j with
    | mk answer after =>
      rw [made] at first
      change after.fetches = _ at first
      cases answer with
      | none => cases recorded : call.record? <;> simp [first, recorded]
      | some answer => cases recorded : call.record? <;> simp [ih, first, recorded]

/-- What a session sends is a request for a URL that is confined to its tracker: a transport
may do as it likes with all others. -/
theorem Session.get_congr {m : Type → Type} [Monad m] {transport transport' : Http.Transport m}
    (session : Session) (path : String) (query : List (String × String))
    (same : ∀ url, Confined session.tracker.baseUrl url →
      transport (session.request url query) = transport' (session.request url query)) :
    session.get transport path query = session.get transport' path query := by
  unfold Session.get Http.send
  cases resolved : resolveUrl session.tracker.baseUrl path with
  | error e => rfl
  | ok url => simp only [same url (resolveUrl_confined resolved)]

/-- A path is resolved to a URL that is confined to the base, or refused, which happens to
exactly the absolute URLs outside; and resolving twice is resolving once. Every read of a
run is made at the tracker that was loaded for the webhook, so all that it requests is
confined to the base URL of that tracker. -/
theorem requests_stay_confined :
    (∀ baseUrl path : String,
      (∀ url, resolveUrl baseUrl path = .ok url → Confined baseUrl url) ∧
      ((∃ e, resolveUrl baseUrl path = .error e) ↔ Schemed path ∧ ¬ Under baseUrl path) ∧
      (∀ url scheme authority, Http.Url.HasOrigin baseUrl.toList scheme authority →
        Schemed baseUrl → resolveUrl baseUrl path = .ok url →
        resolveUrl baseUrl url = .ok url)) ∧
    (∀ {σ : Type} (c : Collaborators σ) (s : σ) (sender : UserId) (w : Webhook)
      (session : Session) (path : String) (query : List (String × String)) answer,
      ⟨.fetch session path query, answer⟩ ∈ (w.relay sender).trace c s →
      ⟨.loadInstance w.instanceId, some (.ok session.tracker)⟩ ∈ (w.relay sender).trace c s ∧
      ∀ {m : Type → Type} [Monad m] (transport transport' : Http.Transport m),
        (∀ url, Confined session.tracker.baseUrl url →
          transport (session.request url query) = transport' (session.request url query)) →
        session.get transport path query = session.get transport' path query) ∧
    (∀ (script : Rehearsal.Script) (j : Rehearsal.Journal) (sender : UserId) (w : Webhook)
      (record : Rehearsal.FetchRecord),
      record ∈ (j.since ((w.relay sender).exec script.collaborators j).2).fetches →
      ∃ tracker, script.store.instance? w.instanceId = .ok tracker ∧
        Confined tracker.baseUrl record.url) := by
  refine ⟨fun baseUrl path => ⟨fun url => resolveUrl_confined, resolveUrl_eq_error_iff,
    fun url scheme authority origin => resolveUrl_resolved origin⟩, ?_, ?_⟩
  · intro σ c s sender w session path query answer member
    exact ⟨relay_fetch_tracker member rfl, fun transport transport' same =>
      session.get_congr path query same⟩
  · intro script j sender w record written
    simp only [Rehearsal.Journal.since, fetches_exec, List.drop_left, List.mem_filterMap] at written
    obtain ⟨x, member, recorded⟩ := written
    obtain ⟨session, path, read, resolved⟩ := Call.record?_eq_some_iff.mp recorded
    obtain ⟨_, loaded⟩ := trace_answer (relay_fetch_tracker member read)
    refine ⟨session.tracker, ?_, resolveUrl_confined resolved⟩
    simp only [Rehearsal.Script.collaborators, Rehearsal.faulted, Option.some.injEq] at loaded
    split at loaded
    · cases loaded
    · exact loaded

/-- The collaborators that keep to a script and look up in the records of a seed. -/
def Rehearsal.Script.recorded (script : Script) (seed : Seed) : Collaborators Journal where
  answer
    | .loadInstance id, j =>
      (some (faulted (id ∈ script.faults.instances) (Store.found .tracker id.text
        ((lastWith? Instance.id seed.instances id).map Instance.normalized))), j)
    | .loadUser id account, j =>
      (some (faulted (account ∈ script.faults.accounts) (Store.found .user account.text
        ((lastWith? UserRecord.accountKey seed.users (id, account)).map (·.user)))), j)
    | .loadConnection id user, j =>
      (some (faulted (user ∈ script.faults.users) (Store.found .connection user.text
        ((lastWith? UserRecord.userKey seed.users (id, user)).map (·.connection)))), j)
    | .loadSubscriptions id, j =>
      (some (faulted (id ∈ script.faults.subscriptions)
        (.ok (seed.subscriptions.filter (·.instanceId == id)))), j)
    | call, j => script.collaborators.answer call j

/-- A store that was made of a seed answers from its records. -/
theorem Rehearsal.Script.collaborators_eq_recorded {script : Script} {seed : Seed}
    (made : script.store = Store.recorded seed []) :
    script.collaborators = script.recorded seed := by
  unfold recorded collaborators
  congr 1
  funext call j
  cases call with
  | loadInstance id =>
    simp only [made, Store.instance?, Store.instances_recorded]
  | loadUser id account =>
    simp only [made, Store.userOf, Store.users_recorded]
    rfl
  | loadConnection id user =>
    simp only [made, Store.connection, Store.connections_recorded]
  | loadSubscriptions id =>
    simp only [made, Store.subscriptionsTo_recorded]
  | _ => rfl

/-- A tracker with one account. -/
def commentSeed : Seed where
  instances := [⟨⟨"tracker"⟩, "https://t/", .cloud⟩]
  users := [⟨⟨"tracker"⟩, ⟨"u1"⟩, ⟨⟨"ann"⟩, "Ann", .bearer "token", .enabled⟩⟩]
  subscriptions := [subscribeComments "town" []]

/-- A rehearsal at this tracker, which has the issue and the comment. -/
def commentScript : Rehearsal.Script where
  store := .recorded commentSeed []
  faults := ⟨[], [], [], []⟩
  replies := [("https://t/rest/api/2/issue/P-1", .json (.object [])),
    ("https://t/c/7", .json (.object []))]
  deny := false
  failingUsers := []
  failingChannels := []
  crashingChannels := []
  sender := ⟨"bot"⟩

/-- The link of a comment is read where it lies under the base URL, at the tracker of the
webhook, and the same link on another server is refused. A rehearsal writes down that the comment
was read, after what it has read before. -/
theorem comment_link_confined :
    Http.Url.HasOrigin "https://t/".toList "https".toList "t".toList ∧ Schemed "https://t/" ∧
      resolveUrl "https://t/" "https://t/c/7" = .ok "https://t/c/7" ∧
      Confined "https://t/" "https://t/c/7" ∧
      (∃ e, resolveUrl "https://t/" "https://t.example/c/7" = .error e) ∧
      ∃ session answer,
        ⟨.fetch session "https://t/c/7" [], answer⟩ ∈
          (commentWebhook.relay ⟨"bot"⟩).trace (.constant .null []) () ∧
        ⟨.loadInstance commentWebhook.instanceId, some (.ok session.tracker)⟩ ∈
          (commentWebhook.relay ⟨"bot"⟩).trace (.constant .null []) () ∧
      let earlier : Rehearsal.Journal := ⟨0, [⟨"https://t/c/6", []⟩], [], []⟩
      let later := ((commentWebhook.relay ⟨"bot"⟩).exec commentScript.collaborators earlier).2
      ⟨"https://t/c/7", []⟩ ∈ (earlier.since later).fetches ∧
        ∃ tracker, commentScript.store.instance? commentWebhook.instanceId = .ok tracker ∧
          Confined tracker.baseUrl "https://t/c/7" := by
  obtain ⟨resolving, reading, writing⟩ := requests_stay_confined
  obtain ⟨inside, -, again⟩ := resolving "https://t/" "https://t/c/7"
  have origin : Http.Url.HasOrigin "https://t/".toList "https".toList "t".toList :=
    ⟨by decide, by decide, by simp [Http.Url.endsAuthority, Http.Url.isSlash], ['/'], by decide,
      by simp [Http.Url.endsAuthority, Http.Url.isSlash]⟩
  have schemed : Schemed "https://t/" := by unfold Schemed; decide
  have resolved : resolveUrl "https://t/" "https://t/c/7" = .ok "https://t/c/7" := by decide +kernel
  have twice := again _ _ _ origin schemed resolved
  have refused : (resolveUrl "https://t/" "https://t.example/c/7").isOk = false := by
    decide +kernel
  have elsewhere : ∃ e, resolveUrl "https://t/" "https://t.example/c/7" = .error e := by
    cases answer : resolveUrl "https://t/" "https://t.example/c/7" with
    | error e => exact ⟨e, rfl⟩
    | ok url =>
      rw [answer] at refused
      cases refused
  let earlier : Rehearsal.Journal := ⟨0, [⟨"https://t/c/6", []⟩], [], []⟩
  have written : ⟨"https://t/c/7", []⟩ ∈ (earlier.since
      ((commentWebhook.relay ⟨"bot"⟩).exec commentScript.collaborators earlier).2).fetches := by
    rw [Rehearsal.Script.collaborators_eq_recorded rfl]
    decide +kernel
  have read : ((commentWebhook.relay ⟨"bot"⟩).trace (.constant .null []) ()).any (fun x =>
      match x.call with
      | .fetch _ path query => path == "https://t/c/7" && query == []
      | _ => false) = true := by decide +kernel
  obtain ⟨⟨call, answer⟩, member, fetched⟩ := List.any_eq_true.mp read
  cases call with
  | fetch session path query =>
    simp only [Bool.and_eq_true, beq_iff_eq] at fetched
    obtain ⟨rfl, rfl⟩ := fetched
    obtain ⟨loaded, -⟩ := reading _ () _ _ session "https://t/c/7" [] answer member
    exact ⟨origin, schemed, twice, inside _ resolved, elsewhere, session, answer, member, loaded,
      written, writing commentScript earlier ⟨"bot"⟩ commentWebhook _ written⟩
  | _ => cases fetched

end Herald
