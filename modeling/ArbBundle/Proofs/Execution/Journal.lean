import ArbBundle.Execution.Journal
import ArbBundle.Proofs.Timed

/-!
# Journal — what a session keeps of its calls and events

- `Session.perform_of`: a call leaves its entry behind, and the services as the answer leaves them
- `Session.report_apply`: an event leaves its entry behind, and nothing else
- `Journal.submissions`: the calls that put a bundle on its way
- `Journal.quiet_called`: other calls show neither among the submissions nor among the events
-/

namespace ArbBundle

namespace Call

def isSubmission : Call → Bool
  | .sendAndAwait _ _ _ => true
  | _ => false

end Call

namespace Journal

variable {j j' : Journal} {time : Nat}

theorem calls_append : calls (j ++ j') = calls j ++ calls j' := by
  simp [calls, timedCalls]

def submissions (j : Journal) : List Call :=
  j.calls.filter Call.isSubmission

theorem submissions_append : submissions (j ++ j') = submissions j ++ submissions j' := by
  simp [submissions, calls_append]

theorem events_append : events (j ++ j') = events j ++ events j' := by
  simp [events]

theorem events_map_called (calls : List (Nat × Call)) :
    events (calls.map fun c => ⟨c.1, .called c.2⟩) = [] := by
  induction calls with
  | nil => rfl
  | cons c rest ih => exact ih

theorem calls_map_called (made : List (Nat × Call)) :
    calls (made.map fun c => ⟨c.1, .called c.2⟩) = made.map Prod.snd := by
  induction made with
  | nil => rfl
  | cons c rest ih => exact congrArg (c.2 :: ·) ih

/-- Calls that put no bundle on its way leave neither an event nor a submission behind. -/
theorem quiet_called (j : Journal) (made : List (Nat × Call))
    (h : (made.map Prod.snd).filter Call.isSubmission = []) :
    let after := j ++ made.map fun c => ⟨c.1, .called c.2⟩
    after.events = j.events ∧ after.submissions = j.submissions := by
  refine ⟨?_, ?_⟩
  · rw [events_append, events_map_called, List.append_nil]
  · rw [submissions_append, submissions, submissions, calls_map_called, h, List.append_nil]

@[simp] theorem submissions_called {call : Call} :
    submissions [⟨time, .called call⟩] = [call].filter Call.isSubmission := rfl

@[simp] theorem submissions_reported {event : Event} :
    submissions [⟨time, .reported event⟩] = [] := rfl

@[simp] theorem submissions_map_reported {β : Type} (event : β → Event) (items : List β) :
    submissions (items.map fun item => ⟨time, .reported (event item)⟩) = [] := by
  induction items with
  | nil => rfl
  | cons item rest ih => exact ih

end Journal

namespace Session

variable {σ α : Type} {limit : Option Nat} {services : σ} {journal : Journal} {time : Nat}

@[simp] theorem report_apply (event : Event) :
    report event limit (⟨⟨services, journal⟩, time⟩ : Moment (Session σ)) =
      (some (), ⟨⟨services, journal ++ [⟨time, .reported event⟩]⟩, time⟩) := rfl

/-- A call is noted when it is made, whether or not an answer follows. -/
theorem perform_apply (call : Call) (answer : Timed σ α) :
    perform call answer limit (⟨⟨services, journal⟩, time⟩ : Moment (Session σ)) =
      ((answer limit ⟨services, time⟩).1,
        ⟨⟨(answer limit ⟨services, time⟩).2.state, journal ++ [⟨time, .called call⟩]⟩,
          (answer limit ⟨services, time⟩).2.now⟩) := rfl

theorem perform_of {answer : Timed σ α} {result : Option α} {m : Moment σ} (call : Call)
    (h : answer limit ⟨services, time⟩ = (result, m)) :
    perform call answer limit (⟨⟨services, journal⟩, time⟩ : Moment (Session σ)) =
      (result, ⟨⟨m.state, journal ++ [⟨time, .called call⟩]⟩, m.now⟩) := by
  rw [perform_apply, h]

theorem yields_perform_bind {β : Type} {call : Call} {answer : Timed σ α}
    {f : α → Timed (Session σ) β} {Q : Option β → Moment (Session σ) → Prop}
    (hopen : ∀ m, answer limit ⟨services, time⟩ = (none, m) →
      Q none ⟨⟨m.state, journal ++ [⟨time, .called call⟩]⟩, m.now⟩)
    (h : ∀ a m, answer limit ⟨services, time⟩ = (some a, m) →
      (f a).Yields limit ⟨⟨m.state, journal ++ [⟨time, .called call⟩]⟩, m.now⟩ Q) :
    (perform call answer >>= f).Yields limit ⟨⟨services, journal⟩, time⟩ Q := by
  unfold Timed.Yields
  rcases hanswer : answer limit ⟨services, time⟩ with ⟨_ | a, m⟩
  · rw [Timed.bind_of_none (perform_of call hanswer)]
    exact hopen m hanswer
  · rw [Timed.bind_of_some (perform_of call hanswer)]
    exact h a m hanswer

theorem yields_report_bind {β : Type} {event : Event} {f : Unit → Timed (Session σ) β}
    {Q : Option β → Moment (Session σ) → Prop}
    (h : (f ()).Yields limit ⟨⟨services, journal ++ [⟨time, .reported event⟩]⟩, time⟩ Q) :
    (report event >>= f).Yields limit ⟨⟨services, journal⟩, time⟩ Q :=
  h

/-- Events that are told one after the other stand in the journal in that order. -/
theorem forM_report_apply {β : Type} (event : β → Event) (items : List β) :
    (items.forM fun item => report (event item)) limit
        (⟨⟨services, journal⟩, time⟩ : Moment (Session σ)) =
      (some (), ⟨⟨services, journal ++ items.map fun item => ⟨time, .reported (event item)⟩⟩,
        time⟩) := by
  induction items generalizing journal with
  | nil => simp
  | cons item rest ih =>
      rw [List.forM_eq_forM] at ih ⊢
      rw [List.forM_cons, Timed.bind_of_some (report_apply _), ih]
      simp

end Session
end ArbBundle
