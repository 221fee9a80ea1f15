import Herald.Proofs.Event.Merge
import Herald.Proofs.Run.Visibility

/-!
# Completing an issue

An issue that lacks nothing that matters is left alone. Any other is asked for once, and what
the answer has is filled in where it is missing; an answer that cannot be used leaves the issue
as it was.

Main statement: what an attempt asks, what it comes to and how it leaves the issue, the first
time and again (`expansion_settled`).
-/

namespace Herald

open Run

namespace Issue

/-- The issue as an attempt to complete it leaves it: as it was, unless fields were filled in. -/
def after (issue : Issue) : Option (Except Failure (Option Issue)) → Issue
  | some (.ok completed?) => completed?.getD issue
  | _ => issue

/-- What an attempt to complete an issue comes to and how it leaves the issue, by what became of
its one request. -/
inductive Expansion (issue : Issue) :
    Option (Except ApiError Json) → Option (Except Failure (Option Issue)) → Issue → Prop
  | refused (err : ApiError) :
      Expansion issue (some (.error err)) (some (.error (.api .issueExpansion err))) issue
  | unreadable {body : Json} (malformed : IssueFields.decode body = none) :
      Expansion issue (some (.ok body)) (some (.error (.parse .malformed))) issue
  | filled {body : Json} {fields : IssueFields} (decoded : IssueFields.decode body = some fields) :
      Expansion issue (some (.ok body))
        (some (.ok (some { issue with fields := issue.fields.fillMissing fields })))
        { issue with fields := issue.fields.fillMissing fields }
  | lost : Expansion issue none none issue

end Issue

variable {σ : Type} {c : Collaborators σ} {s : σ} {session : Session} {issue : Issue}

namespace Session

/-- An attempt to complete an issue: the issue as it leaves it, and the state in which it leaves
the collaborators. -/
def attempted (session : Session) (c : Collaborators σ) (issue : Issue) (s : σ) : Issue × σ :=
  let (result, s) := (session.expand? issue).run.exec c s
  (issue.after result, s)

theorem attempted_of_complete (complete : issue.fields.isComplete = true) :
    session.attempted c issue s = (issue, s) := by
  unfold attempted
  rw [run_expand?_of_complete complete]
  rfl

theorem trace_expand?_of_incomplete (incomplete : issue.fields.isComplete = false) :
    (session.expand? issue).run.trace c s =
      [⟨session.issueCall issue, (c.answer (session.issueCall issue) s).1⟩] := by
  rw [run_expand?_of_incomplete incomplete, trace]
  cases c.answer (session.issueCall issue) s with
  | mk answer after => cases answer <;> rfl

theorem exec_expand?_of_incomplete (incomplete : issue.fields.isComplete = false) :
    ((session.expand? issue).run.exec c s).1 =
      (c.answer (session.issueCall issue) s).1.map issue.settled := by
  rw [run_expand?_of_incomplete incomplete, exec]
  cases c.answer (session.issueCall issue) s with
  | mk answer after => cases answer <;> rfl

/-- The one request decides what becomes of the issue. -/
theorem attempted_of_incomplete (incomplete : issue.fields.isComplete = false) :
    (session.attempted c issue s).1 =
      issue.after ((c.answer (session.issueCall issue) s).1.map issue.settled) :=
  congrArg issue.after (exec_expand?_of_incomplete incomplete)

end Session

namespace Issue

theorem settled_expansion (issue : Issue) (answer? : Option (Except ApiError Json)) :
    issue.Expansion answer? (answer?.map issue.settled)
      (issue.after (answer?.map issue.settled)) := by
  rcases answer? with _ | err | body
  · exact .lost
  · exact .refused err
  · cases decoded : IssueFields.decode body with
    | none =>
      have settled : issue.settled (.ok body) = .error (.parse .malformed) := by
        simp [Issue.settled, decoded]
      rw [Option.map_some, settled]
      exact .unreadable decoded
    | some fields =>
      have settled : issue.settled (.ok body) =
          .ok (some { issue with fields := issue.fields.fillMissing fields }) := by
        simp [Issue.settled, decoded]
      rw [Option.map_some, settled]
      exact .filled decoded

variable {answer? : Option (Except ApiError Json)}
  {result : Option (Except Failure (Option Issue))} {left : Issue}

/-- Whatever is known of an issue stays. -/
theorem Expansion.kept (expansion : issue.Expansion answer? result left) :
    left.id = issue.id ∧ left.key = issue.key ∧ left.link = issue.link ∧
      issue.fields.KeptIn left.fields := by
  cases expansion with
  | refused err => exact ⟨rfl, rfl, rfl, .refl _⟩
  | unreadable malformed => exact ⟨rfl, rfl, rfl, .refl _⟩
  | filled decoded => exact ⟨rfl, rfl, rfl, IssueFields.keptIn_fillMissing _ _⟩
  | lost => exact ⟨rfl, rfl, rfl, .refl _⟩

/-- The same answer has nothing more to give. -/
theorem Expansion.again (expansion : issue.Expansion answer? result left) :
    left.after (answer?.map left.settled) = left := by
  cases expansion with
  | refused err => rfl
  | unreadable malformed => simp [Issue.settled, malformed, after]
  | filled decoded => simp [Issue.settled, decoded, after, IssueFields.fillMissing_again]
  | lost => rfl

end Issue

/-- An issue that lacks nothing that matters is left alone, and nothing is asked. Any other is
asked for once; a request that fails, or an answer that cannot be read, leaves it as it was, and
an answer that can be read fills in what is missing. Whatever comes of it, the issue stays the
same and keeps what is known of it. If the same answer comes again, a second attempt leaves the
issue as the first one did, and asks again exactly if something that matters is missing still. -/
theorem expansion_settled (c : Collaborators σ) (s : σ) (session : Session) (issue : Issue) :
    (issue.fields.isComplete = true →
      (session.expand? issue).run.trace c s = [] ∧
      (session.expand? issue).run.exec c s = (some (.ok none), s) ∧
      session.attempted c issue s = (issue, s)) ∧
    (issue.fields.isComplete = false →
      (session.expand? issue).run.trace c s =
        [⟨session.issueCall issue, (c.answer (session.issueCall issue) s).1⟩] ∧
      issue.Expansion (c.answer (session.issueCall issue) s).1
        ((session.expand? issue).run.exec c s).1 (session.attempted c issue s).1) ∧
    (∀ left t, session.attempted c issue s = (left, t) →
      (left.id = issue.id ∧ left.key = issue.key ∧ left.link = issue.link ∧
        issue.fields.KeptIn left.fields) ∧
      ((c.answer (session.issueCall issue) t).1 = (c.answer (session.issueCall issue) s).1 →
        (session.attempted c left t).1 = left ∧
        (session.expand? left).run.trace c t =
          if left.fields.isComplete then []
          else [⟨session.issueCall issue, (c.answer (session.issueCall issue) s).1⟩])) := by
  refine ⟨fun complete => ?_, fun incomplete => ?_, fun left t attempt => ?_⟩
  · rw [Session.run_expand?_of_complete complete]
    exact ⟨rfl, rfl, Session.attempted_of_complete complete⟩
  · rw [Session.exec_expand?_of_incomplete incomplete, Session.attempted_of_incomplete incomplete]
    exact ⟨Session.trace_expand?_of_incomplete incomplete, issue.settled_expansion _⟩
  · cases complete : issue.fields.isComplete with
    | true =>
      rw [Session.attempted_of_complete complete] at attempt
      cases attempt
      refine ⟨⟨rfl, rfl, rfl, .refl _⟩, fun _ => ?_⟩
      rw [Session.attempted_of_complete complete, Session.run_expand?_of_complete complete,
        if_pos complete]
      exact ⟨rfl, rfl⟩
    | false =>
      have settled : left =
          issue.after ((c.answer (session.issueCall issue) s).1.map issue.settled) := by
        rw [← Session.attempted_of_incomplete complete, attempt]
      have expansion := issue.settled_expansion (c.answer (session.issueCall issue) s).1
      rw [← settled] at expansion
      refine ⟨expansion.kept, fun same => ?_⟩
      obtain ⟨-, key, -, -⟩ := expansion.kept
      cases still : left.fields.isComplete with
      | true =>
        rw [Session.attempted_of_complete still, Session.run_expand?_of_complete still]
        exact ⟨rfl, rfl⟩
      | false =>
        rw [Session.attempted_of_incomplete still, Session.trace_expand?_of_incomplete still]
        -- The key is what the issue is asked for by.
        unfold Session.issueCall at same expansion ⊢
        rw [key, same]
        exact ⟨expansion.again, rfl⟩

/-- An issue of which the labels are known. -/
def labelledIssue : Issue :=
  ⟨"1", ⟨"P-1"⟩, "https://t/1", { IssueFields.none with labels := ["mine"] }⟩

/-- Every issue is answered with a summary and labels, and with nothing else. -/
def Collaborators.summarizing : Collaborators Unit where
  answer
    | .fetch _ _ (_ :: _), s =>
      (some (.ok (.object [("fields", .object [("summary", .string "Slow"),
        ("labels", .array [.string "theirs"])])])), s)
    | call, s => (constant .null []).answer call s

/-- The summary is filled in and the labels stay, the first time; the second time the same is
asked again, since the project is not known still, and nothing changes. -/
theorem labelled_issue_settled :
    let session : Session := ⟨⟨⟨"tracker"⟩, "https://t", .cloud⟩,
      ⟨⟨"ann"⟩, "ann", .bearer "token", .disabled⟩⟩
    ∃ left, session.attempted .summarizing labelledIssue () = (left, ()) ∧
      left.fields.summary = some "Slow" ∧ left.fields.labels = ["mine"] ∧
      labelledIssue.fields.KeptIn left.fields ∧
      (session.attempted .summarizing left ()).1 = left ∧
      ((session.expand? labelledIssue).run.trace .summarizing ()).map Exchange.call =
        [session.issueCall labelledIssue] ∧
      ((session.expand? left).run.trace .summarizing ()).map Exchange.call =
        [session.issueCall labelledIssue] := by
  intro session
  obtain ⟨-, asked, again⟩ := expansion_settled .summarizing () session labelledIssue
  obtain ⟨first, -⟩ := asked (by decide)
  let left := (session.attempted .summarizing labelledIssue ()).1
  obtain ⟨⟨-, -, -, kept⟩, second⟩ := again left () rfl
  obtain ⟨same, later⟩ := second rfl
  have found : left.fields.summary = some "Slow" ∧ left.fields.labels = ["mine"] ∧
      left.fields.isComplete = false := by decide +kernel
  obtain ⟨summary, labels, incomplete⟩ := found
  refine ⟨left, rfl, summary, labels, kept, same, ?_, ?_⟩
  · rw [first]
    rfl
  · rw [later, incomplete]
    rfl

end Herald
