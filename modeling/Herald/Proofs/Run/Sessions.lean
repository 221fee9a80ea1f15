import Herald.Proofs.Run.Passage

/-!
# As whom a run acts

A session is sought by looking up the user of an account, then the connection of that
user, and then asking for it.

Main statement: what each way of seeking a session comes to (`sessionOf?_seeking`).
-/

namespace Herald

open Run

/-- What a look-up that was answered with an error comes to. -/
def StoreError.absence {α : Type} (err : StoreError) : Except Failure (Option α) :=
  if err.isNotFound then .ok none else .error (.store err)

/-- The ways in which a session is sought for an account, each with what comes of it: none
where the run is taken down. -/
inductive Instance.Seeking (tracker : Instance) (account : AccountId) :
    List Exchange → Option (Except Failure (Option Session)) → Prop
  | unknown (err : StoreError) :
      Seeking tracker account [⟨.loadUser tracker.id account, some (.error err)⟩]
        (some err.absence)
  | unconnected (user : UserId) (err : StoreError) :
      Seeking tracker account [⟨.loadUser tracker.id account, some (.ok user)⟩,
        ⟨.loadConnection tracker.id user, some (.error err)⟩] (some err.absence)
  | refused (user : UserId) (connection : Connection) (err : ApiError) :
      Seeking tracker account [⟨.loadUser tracker.id account, some (.ok user)⟩,
        ⟨.loadConnection tracker.id user, some (.ok connection)⟩,
        ⟨.openSession ⟨tracker, connection⟩, some (.error err)⟩]
        (some (.error (.api .clientSetup err)))
  | opened (user : UserId) (connection : Connection) :
      Seeking tracker account (Session.opening ⟨tracker, connection⟩ account user)
        (some (.ok (some ⟨tracker, connection⟩)))
  | userLost : Seeking tracker account [⟨.loadUser tracker.id account, none⟩] none
  | connectionLost (user : UserId) :
      Seeking tracker account [⟨.loadUser tracker.id account, some (.ok user)⟩,
        ⟨.loadConnection tracker.id user, none⟩] none
  | sessionLost (user : UserId) (connection : Connection) :
      Seeking tracker account [⟨.loadUser tracker.id account, some (.ok user)⟩,
        ⟨.loadConnection tracker.id user, some (.ok connection)⟩,
        ⟨.openSession ⟨tracker, connection⟩, none⟩] none

namespace Instance

variable {trace : List Exchange}

/-- Without a record nothing more is asked. -/
theorem path_recorded?_bind {α β : Type} {answer : Run (Except StoreError α)}
    {f : Option α → Attempt (Option β)} {result : Option (Except Failure (Option β))}
    (path : (recorded? answer >>= f).run.Path trace result) (without : f none = pure none) :
    (∃ a first rest, answer.Path first (some (.ok a)) ∧ (f (some a)).run.Path rest result ∧
      trace = first ++ rest) ∨
    (∃ err, answer.Path trace (some (.error err)) ∧ result = some err.absence) ∨
    (answer.Path trace none ∧ result = none) := by
  rw [ExceptT.run_bind, run_recorded?, bind_assoc] at path
  rcases path_bind.mp path with ⟨err | a, first, rest, asked, next, rfl⟩ | lost
  · have ended : (Run.done err.absence).Path rest result := by
      unfold StoreError.absence
      dsimp only at next
      cases missing : err.isNotFound with
      | true =>
        rw [missing] at next
        change (f none).run.Path rest result at next
        rw [without] at next
        exact next
      | false =>
        rw [missing] at next
        exact next
    obtain ⟨rfl, rfl⟩ := path_done.mp ended
    rw [List.append_nil]
    exact .inr (.inl ⟨err, asked, rfl⟩)
  · exact .inl ⟨a, first, rest, asked, next, rfl⟩
  · exact .inr (.inr lost)

theorem sessionOf?_seeking {tracker : Instance} {account : AccountId}
    {result : Option (Except Failure (Option Session))}
    (path : (tracker.sessionOf? account).run.Path trace result) :
    tracker.Seeking account trace result := by
  unfold sessionOf? at path
  rcases path_recorded?_bind path rfl with
    ⟨user, first, rest, asked, next, rfl⟩ | ⟨err, asked, rfl⟩ | ⟨asked, rfl⟩
  · rw [path_call] at asked
    subst asked
    rcases path_recorded?_bind next rfl with
      ⟨connection, second, last, asked, opening, rfl⟩ | ⟨err, asked, rfl⟩ | ⟨asked, rfl⟩
    · rw [path_call] at asked
      subst asked
      rw [ExceptT.run_bind, Attempt.run_api, bind_assoc, call_bind] at opening
      rcases path_ask.mp opening with ⟨err | granted, none, rfl, ended⟩ | ⟨rfl, rfl⟩
      · obtain ⟨rfl, rfl⟩ := path_done.mp ended
        exact .refused user connection err
      · obtain ⟨rfl, rfl⟩ := path_done.mp ended
        exact .opened user connection
      · exact .sessionLost user connection
    · rw [path_call] at asked
      subst asked
      exact .unconnected user err
    · rw [path_call] at asked
      subst asked
      exact .connectionLost user
  · rw [path_call] at asked
    subst asked
    exact .unknown err
  · rw [path_call] at asked
    subst asked
    exact .userLost

end Instance

end Herald
