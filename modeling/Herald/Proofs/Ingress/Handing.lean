import Herald.Ingress.Basic
import Herald.Proofs.Pool.Drain

/-!
# Handing webhooks over

A request that brings a webhook is answered at once or waits for room in the queue. While it
waits the queue is changed by others, who may also close it, and the request meets it in one
state after the other until it is answered (`Reception`). What it does to the queue itself it
does with its answer.

Main statements: where a request waits (`handle_eq_waits_iff`), and how it is answered and
what it has put into the queue then (`webhook_handed_over`).
-/

namespace Herald

/-- There is a worker left for the queue, but no room in it. -/
structure Pool.IsFull (p : Pool) : Prop where
  manned : p.isClosed = false
  crowded : p.capacity ≤ p.waiting.length

namespace Ingress

namespace Request

/-- The characters of a value that can be read. -/
def Readable (value : String) : Prop :=
  ∀ c ∈ value.toList, c = '\t' ∨ ' ' ≤ c ∧ c ≤ '~'

theorem isReadable_iff {value : String} : isReadable value = true ↔ Readable value := by
  simp [isReadable, Readable]

theorem isReadable_eq_false_iff {value : String} : isReadable value = false ↔ ¬ Readable value := by
  rw [← isReadable_iff, Bool.not_eq_true]

/-- The value of the first header of a name, in whatever case the name is written. -/
def First (r : Request) (name value : String) : Prop :=
  ∃ before written after, r.headers = before ++ (written, value) :: after ∧
    written.toLower = name.toLower ∧ ∀ header ∈ before, header.1.toLower ≠ name.toLower

/-- What a request gives under the name of a header. A first value that cannot be read counts
as none, whatever follows it. -/
inductive Gives (r : Request) (name : String) : Option String → Prop
  | absent (nowhere : ∀ header ∈ r.headers, header.1.toLower ≠ name.toLower) : Gives r name none
  | readable {value : String} (first : r.First name value) (readable : Readable value) :
      Gives r name (some value)
  | unreadable {value : String} (first : r.First name value) (unreadable : ¬ Readable value) :
      Gives r name none

theorem find?_header_eq_some_iff {r : Request} {name value : String} :
    (r.headers.find? fun header => header.1.toLower == name.toLower).map (·.2) = some value ↔
      r.First name value := by
  rw [Option.map_eq_some_iff]
  constructor
  · intro given
    obtain ⟨⟨written, value⟩, found, rfl⟩ := given
    obtain ⟨same, before, after, split, others⟩ := List.find?_eq_some_iff_append.mp found
    refine ⟨before, written, after, split, beq_iff_eq.mp same, fun header member => ?_⟩
    simpa using others header member
  · intro given
    obtain ⟨before, written, after, split, same, others⟩ := given
    refine ⟨(written, value), List.find?_eq_some_iff_append.mpr ⟨beq_iff_eq.mpr same, before, after,
      split, fun header member => ?_⟩, rfl⟩
    simpa using others header member

theorem header?_eq_iff {r : Request} {name : String} {value? : Option String} :
    r.header? name = value? ↔ r.Gives name value? := by
  unfold header?
  constructor
  · intro same
    subst same
    cases found : (r.headers.find? fun header => header.1.toLower == name.toLower).map (·.2) with
    | none =>
      refine .absent fun header member => ?_
      rw [Option.map_eq_none_iff, List.find?_eq_none] at found
      simpa using found header member
    | some value =>
      have first := find?_header_eq_some_iff.mp found
      by_cases readable : Readable value
      · rw [Option.filter_some_pos (isReadable_iff.mpr readable)]
        exact .readable first readable
      · rw [Option.filter_some_neg (isReadable_eq_false_iff.mpr readable)]
        exact .unreadable first readable
  · intro given
    cases given with
    | absent nowhere =>
      rw [List.find?_eq_none.mpr (by simpa using nowhere)]
      rfl
    | readable first readable =>
      rw [find?_header_eq_some_iff.mpr first]
      exact Option.filter_some_pos (isReadable_iff.mpr readable)
    | unreadable first unreadable =>
      rw [find?_header_eq_some_iff.mpr first]
      exact Option.filter_some_neg (isReadable_eq_false_iff.mpr unreadable)

/-- The request is for webhooks, and its query and its body can be read. -/
structure Brings (r : Request) (parameters : Parameters) (signature : Option String) : Prop where
  path : r.path = "/webhook"
  method : r.method = "POST"
  query : Parameters.ofQuery? r.query = some parameters
  body : r.body.length ≤ maxBody
  signature : r.Gives Signature.headerName signature

end Request

/-- The instance that the query names, without blanks around it. Empty where it names none. -/
def Parameters.id (parameters : Parameters) : String :=
  Text.trimmed (parameters.instanceId.getD "")

theorem vet_eq {secret : String} {parameters : Parameters} {signature : Option String}
    {body : Bytes} :
    vet secret parameters signature body =
      if Signature.authenticate body signature parameters.secret secret then
        if parameters.id = "" then .error .missingInstance else .ok ⟨⟨parameters.id⟩, body⟩
      else .error .unauthorized := by
  unfold vet Parameters.id
  by_cases genuine : Signature.authenticate body signature parameters.secret secret = true
  · rw [if_pos genuine, if_pos genuine]
    cases parameters.instanceId with
    | none => rfl
    | some given =>
      rw [Option.map_some, Option.getD_some]
      by_cases blank : Text.trimmed given = ""
      · rw [Option.filter_some_neg (by simp [blank]), if_pos blank]
      · rw [Option.filter_some_pos (by simp [blank]), if_neg blank]
  · rw [if_neg genuine, if_neg genuine]

/-- Where there is room for a webhook it is accepted, and where nobody is left it is not. -/
theorem hand_eq_answered_iff {q after : Pool} {w : Webhook} {answer : Answer} :
    hand q w = .answered answer after ↔
      (q.isClosed = true ∧ answer = Refusal.queueClosed.answer ∧ after = q) ∨
      (q.isClosed = false ∧ q.waiting.length < q.capacity ∧ answer = .accepted ∧
        after = { q with waiting := q.waiting ++ [w] }) := by
  unfold hand
  cases tried : q.enqueue w with
  | ok later =>
    obtain ⟨manned, room, rfl⟩ := Pool.enqueue_eq_ok_iff.mp tried
    simp [manned, room, eq_comm]
  | error e =>
    rcases Pool.enqueue_eq_error_iff.mp tried with ⟨closed, rfl⟩ | ⟨manned, crowded, rfl⟩
    · simp [closed, eq_comm]
    · simp [manned, Nat.not_lt.mpr crowded]

theorem hand_eq_waits_iff {q : Pool} {w w' : Webhook} :
    hand q w = .waits w' ↔ q.IsFull ∧ w' = w := by
  unfold hand
  cases tried : q.enqueue w with
  | ok later =>
    obtain ⟨manned, room, -⟩ := Pool.enqueue_eq_ok_iff.mp tried
    have roomy : ¬ q.IsFull := fun full => Nat.not_lt.mpr full.crowded room
    simp [roomy]
  | error e =>
    rcases Pool.enqueue_eq_error_iff.mp tried with ⟨closed, rfl⟩ | ⟨manned, crowded, rfl⟩
    · have left : ¬ q.IsFull := fun full => by simp [full.manned] at closed
      simp [left]
    · have full : q.IsFull := ⟨manned, crowded⟩
      simp [full, eq_comm]

theorem exists_hand_eq_answered_iff {q : Pool} {w : Webhook} :
    (∃ answer after, hand q w = .answered answer after) ↔ ¬ q.IsFull := by
  cases handed : hand q w with
  | answered answer after =>
    have settled : ¬ q.IsFull := fun full => by
      rw [hand_eq_waits_iff.mpr ⟨full, rfl⟩] at handed
      cases handed
    simp [settled]
  | waits w' => simp [(hand_eq_waits_iff.mp handed).1]

/-- A webhook that waits meets the queue in some states one after the other, the last of them
the one in which its request is answered. -/
inductive Admission (w : Webhook) : List Pool → Answer → Pool → Prop
  | answered {q after : Pool} {answer : Answer} (now : hand q w = .answered answer after) :
      Admission w [q] answer after
  | waits {q after : Pool} {later : List Pool} {answer : Answer} (still : hand q w = .waits w)
      (rest : Admission w later answer after) : Admission w (q :: later) answer after

/-- A request that is handled in some states of the queue one after the other, with its answer
and the queue that it leaves. Between two states others may do to the queue what they like. -/
inductive Reception (secret : String) (r : Request) : List Pool → Answer → Pool → Prop
  | answered {q after : Pool} {answer : Answer}
      (now : handle secret q r = .answered answer after) : Reception secret r [q] answer after
  | waits {q after : Pool} {later : List Pool} {answer : Answer} {w : Webhook}
      (full : handle secret q r = .waits w) (rest : Admission w later answer after) :
      Reception secret r (q :: later) answer after

/-- A webhook waits for as long as the queue is full. -/
theorem admission_iff {w : Webhook} {before : List Pool} {q after : Pool} {answer : Answer} :
    Admission w (before ++ [q]) answer after ↔
      (∀ p ∈ before, p.IsFull) ∧ hand q w = .answered answer after := by
  constructor
  · intro admitted
    induction before with
    | nil =>
      cases admitted with
      | answered now => exact ⟨List.forall_mem_nil _, now⟩
      | waits _ rest => cases rest
    | cons p rest ih =>
      generalize states : (p :: rest) ++ [q] = all at admitted
      cases admitted with
      | answered now => simp at states
      | waits still later =>
        cases states
        obtain ⟨full, now⟩ := ih later
        exact ⟨List.forall_mem_cons.mpr ⟨(hand_eq_waits_iff.mp still).1, full⟩, now⟩
  · intro given
    obtain ⟨full, now⟩ := given
    induction before with
    | nil => exact .answered now
    | cons p rest ih =>
      obtain ⟨first, others⟩ := List.forall_mem_cons.mp full
      exact .waits (hand_eq_waits_iff.mpr ⟨first, rfl⟩) (ih others)

/-- A request whose webhook passes is handled as the webhook is handed over. -/
theorem reception_iff_admission {secret : String} {r : Request} {w : Webhook}
    (passes : ∀ p, handle secret p r = hand p w) {states : List Pool} {answer : Answer}
    {after : Pool} : Reception secret r states answer after ↔ Admission w states answer after := by
  constructor
  · intro received
    cases received with
    | answered now => exact .answered (passes _ ▸ now)
    | waits full rest =>
      rw [passes] at full
      obtain ⟨-, rfl⟩ := hand_eq_waits_iff.mp full
      exact .waits full rest
  · intro admitted
    cases admitted with
    | answered now => exact .answered (passes _ ▸ now)
    | waits still rest => exact .waits (passes _ ▸ still) rest

/-- A request whose webhook does not pass is answered at once. -/
theorem reception_iff_refused {secret : String} {r : Request} {refusal : Refusal}
    (refused : ∀ p, handle secret p r = .answered refusal.answer p) {before : List Pool}
    {q after : Pool} {answer : Answer} :
    Reception secret r (before ++ [q]) answer after ↔
      before = [] ∧ answer = refusal.answer ∧ after = q := by
  constructor
  · intro received
    generalize states : before ++ [q] = all at received
    cases received with
    | answered now =>
      rw [refused] at now
      cases now
      obtain ⟨rfl, same⟩ := List.append_eq_singleton_iff.mp states |>.resolve_right (by simp)
      cases same
      exact ⟨rfl, rfl, rfl⟩
    | waits full _ =>
      rw [refused] at full
      cases full
  · intro given
    obtain ⟨rfl, rfl, rfl⟩ := given
    exact .answered (refused _)

/-- What the answer to a webhook says and what it leaves in the queue, by whether the webhook
is genuine, the instance that it names, and whether anybody is left to take it. -/
structure Verdict (genuine : Prop) (w : Webhook) (q : Pool) (answer : Answer) (after : Pool) :
    Prop where
  forged : ¬ genuine → answer.status = 401
  unnamed : genuine → w.instanceId.text = "" → answer.status = 400
  closed : genuine → w.instanceId.text ≠ "" → q.isClosed = true → answer.status = 503
  accepted : genuine → w.instanceId.text ≠ "" → q.isClosed = false → answer.status = 202
  enqueued : genuine ∧ w.instanceId.text ≠ "" ∧ q.isClosed = false →
    after = { q with waiting := q.waiting ++ [w] }
  room : after ≠ q → q.waiting.length < q.capacity
  otherwise : ¬ (genuine ∧ w.instanceId.text ≠ "" ∧ q.isClosed = false) → after = q
  unchanged : answer.status ≠ 202 → after = q

section Webhook

variable {r : Request} {parameters : Parameters} {signature : Option String}

theorem handle_eq_receive (brings : r.Brings parameters signature) (secret : String) (p : Pool) :
    handle secret p r = receive secret p parameters signature r.body := by
  unfold handle
  rw [if_pos brings.path, if_pos brings.method, brings.query]
  dsimp only
  rw [if_neg (Nat.not_lt.mpr brings.body), Request.header?_eq_iff.mpr brings.signature]

/-- Before anything else a webhook must be genuine, then it must name an instance, and then it
is handed over. -/
theorem handle_eq (brings : r.Brings parameters signature) (secret : String) (p : Pool) :
    handle secret p r =
      if Signature.authenticate r.body signature parameters.secret secret then
        if parameters.id = "" then .answered Refusal.missingInstance.answer p
        else hand p ⟨⟨parameters.id⟩, r.body⟩
      else .answered Refusal.unauthorized.answer p := by
  rw [handle_eq_receive brings, receive, vet_eq]
  by_cases genuine : Signature.authenticate r.body signature parameters.secret secret = true
  · rw [if_pos genuine, if_pos genuine]
    by_cases unnamed : parameters.id = ""
    · rw [if_pos unnamed, if_pos unnamed]
    · rw [if_neg unnamed, if_neg unnamed]
  · rw [if_neg genuine, if_neg genuine]

/-- What is done with a webhook does not depend on the queue, unless it is handed over. -/
theorem handle_cases (brings : r.Brings parameters signature) (secret : String) :
    let genuine := Signature.authenticate r.body signature parameters.secret secret = true
    (genuine ∧ parameters.id ≠ "" ∧ ∀ p, handle secret p r = hand p ⟨⟨parameters.id⟩, r.body⟩) ∨
      (genuine ∧ parameters.id = "" ∧
        ∀ p, handle secret p r = .answered Refusal.missingInstance.answer p) ∨
      (¬ genuine ∧ ∀ p, handle secret p r = .answered Refusal.unauthorized.answer p) := by
  intro genuine
  have handled := handle_eq brings secret
  by_cases proved : genuine
  · by_cases unnamed : parameters.id = ""
    · exact .inr (.inl ⟨proved, unnamed, fun p => by rw [handled, if_pos proved, if_pos unnamed]⟩)
    · exact .inl ⟨proved, unnamed, fun p => by rw [handled, if_pos proved, if_neg unnamed]⟩
  · exact .inr (.inr ⟨proved, fun p => by rw [handled, if_neg proved]⟩)

theorem brings_of_waits {secret : String} {p : Pool} {w : Webhook}
    (waits : handle secret p r = .waits w) :
    ∃ parameters, r.Brings parameters (r.header? Signature.headerName) := by
  unfold handle at waits
  split at waits
  · rename_i path
    split at waits
    · rename_i method
      split at waits
      · cases waits
      · rename_i parameters query
        split at waits
        · cases waits
        · rename_i body
          exact ⟨parameters, path, method, query, Nat.not_lt.mp body,
            Request.header?_eq_iff.mp rfl⟩
    · cases waits
  · split at waits
    · split at waits
      · cases waits
      · split at waits <;> cases waits
    · cases waits

/-- A request waits with nothing but a genuine webhook that names an instance, and only for
room in the queue. -/
theorem handle_eq_waits_iff {secret : String} {p : Pool} {w : Webhook} :
    handle secret p r = .waits w ↔ ∃ parameters signature, r.Brings parameters signature ∧
      Signature.authenticate r.body signature parameters.secret secret = true ∧
        parameters.id ≠ "" ∧ p.IsFull ∧ w = ⟨⟨parameters.id⟩, r.body⟩ := by
  constructor
  · intro waits
    obtain ⟨parameters, brings⟩ := brings_of_waits waits
    rcases handle_cases brings secret with ⟨genuine, named, handled⟩ | ⟨-, -, handled⟩ | ⟨-, handled⟩
    · rw [handled, hand_eq_waits_iff] at waits
      exact ⟨parameters, _, brings, genuine, named, waits⟩
    · rw [handled] at waits
      cases waits
    · rw [handled] at waits
      cases waits
  · intro given
    obtain ⟨parameters, signature, brings, genuine, named, full, rfl⟩ := given
    rw [handle_eq brings, if_pos genuine, if_neg named]
    exact hand_eq_waits_iff.mpr ⟨full, rfl⟩

theorem verdict_of_reception (brings : r.Brings parameters signature) {secret : String}
    {before : List Pool} {q after : Pool} {answer : Answer}
    (received : Reception secret r (before ++ [q]) answer after) :
    Verdict (Signature.authenticate r.body signature parameters.secret secret = true)
      ⟨⟨parameters.id⟩, r.body⟩ q answer after := by
  rcases handle_cases brings secret with ⟨genuine, named, handed⟩ | ⟨genuine, unnamed, refused⟩ |
    ⟨forged, refused⟩
  · obtain ⟨-, now⟩ := admission_iff.mp ((reception_iff_admission handed).mp received)
    rcases hand_eq_answered_iff.mp now with ⟨closed, rfl, rfl⟩ | ⟨manned, room, rfl, rfl⟩
    · constructor <;> simp [genuine, named, closed, Refusal.answer, Refusal.status]
    · constructor <;> simp [genuine, named, manned, room, Answer.accepted]
  · obtain ⟨-, rfl, rfl⟩ := (reception_iff_refused refused).mp received
    constructor <;> simp [genuine, unnamed, Refusal.answer, Refusal.status]
  · obtain ⟨-, rfl, rfl⟩ := (reception_iff_refused refused).mp received
    constructor <;> simp [forged, Refusal.answer, Refusal.status]

/-- In the states before the last a request has waited, and in the last one it does not. -/
theorem exists_reception_iff (brings : r.Brings parameters signature) {secret : String}
    {before : List Pool} {q : Pool} :
    (∃ answer after, Reception secret r (before ++ [q]) answer after) ↔
      (before ≠ [] → Signature.authenticate r.body signature parameters.secret secret = true ∧
        parameters.id ≠ "") ∧
      (∀ p ∈ before, p.IsFull) ∧
      (Signature.authenticate r.body signature parameters.secret secret = true →
        parameters.id ≠ "" → ¬ q.IsFull) := by
  constructor
  · intro answered
    obtain ⟨answer, after, received⟩ := answered
    rcases handle_cases brings secret with ⟨genuine, named, handed⟩ | ⟨-, unnamed, refused⟩ |
      ⟨forged, refused⟩
    · obtain ⟨full, now⟩ := admission_iff.mp ((reception_iff_admission handed).mp received)
      have settled := exists_hand_eq_answered_iff.mp ⟨answer, after, now⟩
      exact ⟨fun _ => ⟨genuine, named⟩, full, fun _ _ => settled⟩
    · obtain ⟨rfl, -, -⟩ := (reception_iff_refused refused).mp received
      exact ⟨fun waited => absurd rfl waited, List.forall_mem_nil _, fun _ named => absurd unnamed named⟩
    · obtain ⟨rfl, -, -⟩ := (reception_iff_refused refused).mp received
      exact ⟨fun waited => absurd rfl waited, List.forall_mem_nil _,
        fun genuine => absurd genuine forged⟩
  · intro given
    obtain ⟨passes, full, settled⟩ := given
    rcases handle_cases brings secret with ⟨genuine, named, handed⟩ | ⟨-, unnamed, refused⟩ |
      ⟨forged, refused⟩
    · obtain ⟨answer, after, now⟩ := exists_hand_eq_answered_iff.mpr (settled genuine named)
      exact ⟨answer, after, (reception_iff_admission handed).mpr (admission_iff.mpr ⟨full, now⟩)⟩
    · have first : before = [] :=
        Classical.byContradiction fun waited => (passes waited).2 unnamed
      exact ⟨_, q, (reception_iff_refused refused).mpr ⟨first, rfl, rfl⟩⟩
    · have first : before = [] :=
        Classical.byContradiction fun waited => forged (passes waited).1
      exact ⟨_, q, (reception_iff_refused refused).mpr ⟨first, rfl, rfl⟩⟩

/-- When a webhook waits for room, workers can make room for it. -/
theorem reception_of_full (brings : r.Brings parameters signature) {secret : String}
    (genuine : Signature.authenticate r.body signature parameters.secret secret = true)
    (named : parameters.id ≠ "") {σ : Type} (c : Collaborators σ) (sender : UserId) {p : Pool}
    (full : p.IsFull) (capacity : 0 < p.capacity) (s : σ) :
    ∃ q s' after, Pool.Works c sender (p, s) (q, s') ∧ Reception secret r [p, q] .accepted after := by
  obtain ⟨q, s', works, same, empty, manned⟩ :
      ∃ q s', Pool.Works c sender (p, s) (q, s') ∧ q.capacity = p.capacity ∧ q.waiting = [] ∧
        q.isClosed = false := Pool.works_empty full.manned s
  have room : q.waiting.length < q.capacity := by
    rw [empty, same]
    exact capacity
  have waits := handle_eq_waits_iff.mpr ⟨parameters, signature, brings, genuine, named, full, rfl⟩
  have accepted : hand q ⟨⟨parameters.id⟩, r.body⟩ = .answered .accepted _ :=
    hand_eq_answered_iff.mpr (.inr ⟨manned, room, rfl, rfl⟩)
  exact ⟨q, s', _, works, .waits waits (.answered accepted)⟩

end Webhook

/-- A webhook is put into the queue exactly where it is genuine, names an instance and
somebody is left to take it: once, as it came, and with the answer that accepts it. Otherwise
the answer says what is wrong, first of all that it is not genuine, and the queue is as it was.
A genuine webhook with an instance waits for as long as the queue is full and is not dropped:
it is answered in the first state in which the queue is not full, and workers can always bring
such a state about. -/
theorem webhook_handed_over {r : Request} {parameters : Parameters} {signature : Option String}
    (brings : r.Brings parameters signature) (secret : String) :
    let genuine := Signature.authenticate r.body signature parameters.secret secret = true
    let w : Webhook := ⟨⟨parameters.id⟩, r.body⟩
    (∀ before q answer after, Reception secret r (before ++ [q]) answer after →
      Verdict genuine w q answer after) ∧
    (∀ before q, (∃ answer after, Reception secret r (before ++ [q]) answer after) ↔
      (before ≠ [] → genuine ∧ parameters.id ≠ "") ∧ (∀ p ∈ before, p.IsFull) ∧
        (genuine → parameters.id ≠ "" → ¬ q.IsFull)) ∧
    ∀ (σ : Type) (c : Collaborators σ) (sender : UserId) (p : Pool) (s : σ),
      genuine → parameters.id ≠ "" → p.IsFull → 0 < p.capacity →
        ∃ q s' after, Pool.Works c sender (p, s) (q, s') ∧
          Reception secret r [p, q] .accepted after := by
  intro genuine w
  refine ⟨?_, ?_, ?_⟩
  · intro before q answer after received
    exact verdict_of_reception brings received
  · intro before q
    exact exists_reception_iff brings
  · intro σ c sender p s proved named full capacity
    exact reception_of_full brings proved named c sender full capacity s

/-- A request for webhooks with blanks around the instance, the secret in the query, and a
signature that cannot be read. -/
def spacedRequest : Request where
  method := "POST"
  target := "/webhook?instance_id=+acme+&secret=s3cret"
  headers := [("X-Hub-Signature", "sha256=é"), ("X-Hub-Signature", "sha256=00")]
  body := [0x7B, 0x7D]

/-- A pool with an idle worker and one place in the queue. -/
def smallPool (waiting : List Webhook) : Pool where
  capacity := 1
  waiting
  producers := 1
  workers := [.idle]
  finished := []

/-- The webhook waits for the only place, and takes it once it is free. -/
theorem spaced_request_waits :
    ∃ answer after,
      Reception "s3cret" spacedRequest [smallPool [⟨⟨"other"⟩, []⟩], smallPool []] answer after ∧
        answer.status = 202 ∧ after.waiting = [⟨⟨"acme"⟩, [0x7B, 0x7D]⟩] := by
  have first : spacedRequest.First Signature.headerName "sha256=é" :=
    ⟨[], "X-Hub-Signature", _, rfl, rfl, List.forall_mem_nil _⟩
  have unreadable : ¬ Request.Readable "sha256=é" :=
    Request.isReadable_eq_false_iff.mp (by decide +kernel)
  have brings : spacedRequest.Brings ⟨some " acme ", some "s3cret"⟩ none := by
    constructor
    · decide +kernel
    · rfl
    · decide +kernel
    · decide +kernel
    · exact .unreadable first unreadable
  have genuine :
      Signature.authenticate spacedRequest.body none (some "s3cret") "s3cret" = true := by
    decide +kernel
  have named : Parameters.id ⟨some " acme ", some "s3cret"⟩ = "acme" := by decide +kernel
  obtain ⟨verdicts, receptions, -⟩ := webhook_handed_over brings "s3cret"
  have full : ∀ p ∈ [smallPool [⟨⟨"other"⟩, []⟩]], p.IsFull :=
    List.forall_mem_singleton.mpr ⟨rfl, Nat.le_refl 1⟩
  have roomy : ¬ (smallPool []).IsFull := fun full => absurd full.crowded (by decide)
  obtain ⟨answer, after, received⟩ := (receptions [smallPool [⟨⟨"other"⟩, []⟩]] (smallPool [])).mpr
    ⟨fun _ => ⟨genuine, by rw [named]; decide⟩, full, fun _ _ => roomy⟩
  have verdict := verdicts _ _ _ _ received
  rw [named] at verdict
  refine ⟨answer, after, received, verdict.accepted genuine (by decide) rfl, ?_⟩
  rw [verdict.enqueued ⟨genuine, by decide, rfl⟩]
  rfl

/-- Handling a request while a worker runs all that waits is one way for it to be received. -/
theorem exchange_reception {σ : Type} (c : Collaborators σ) (sender : UserId) (secret : String)
    {pool : Pool} (capacity : 0 < pool.capacity) (r : Request) (s : σ) :
    ∃ later after,
      Reception secret r (pool :: later) (exchange c sender secret pool r s).1 after := by
  unfold exchange
  cases handled : handle secret pool r with
  | answered answer after => exact ⟨[], after, .answered handled⟩
  | waits w =>
    obtain ⟨-, -, -, -, -, full, -⟩ := handle_eq_waits_iff.mp handled
    obtain ⟨drained, s', emptied, manned, room⟩ : ∃ q s', pool.drain c sender s = (q, s') ∧
        q.isClosed = false ∧ q.waiting.length < q.capacity := by
      unfold Pool.drain
      rw [full.manned]
      exact ⟨_, _, rfl, full.manned, capacity⟩
    have accepted : hand drained w = .answered .accepted _ :=
      hand_eq_answered_iff.mpr (.inr ⟨manned, room, rfl, rfl⟩)
    dsimp only
    rw [emptied]
    dsimp only
    rw [Pool.enqueue_eq_ok_iff.mpr ⟨manned, room, rfl⟩]
    exact ⟨[drained], _, .waits handled (.answered accepted)⟩

end Ingress

end Herald
