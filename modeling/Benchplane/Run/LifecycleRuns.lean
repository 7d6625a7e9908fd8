import Benchplane.Run.Lifecycle

/-!
# Sequences of transitions

The lifecycle as the object that a run keeps and changes: any sequence of calls, the
accepted and the rejected ones mixed.  The events that the calls return, behind the
first one, are a journal of the run.
-/

namespace Benchplane

/-- The arguments of a call of `transition`. -/
structure TransitionCall where
  target : RunState
  recordedAt : String
  failure : Option FailureRecord

namespace Lifecycle

/-- `Lifecycle::transition` on the object, in the order of the source. -/
def perform (call : TransitionCall) :
    ExceptT LifecycleError (StateM Lifecycle) LifecycleEvent := do
  let lifecycle ← get
  if ¬ isValidTransition lifecycle.state call.target then
    throw (.invalidTransition lifecycle.state call.target)
  else do
    let event : LifecycleEvent :=
      { runId := lifecycle.runId
        sequence := lifecycle.nextSequence
        recordedAt := call.recordedAt
        fromState := some lifecycle.state
        toState := call.target
        attemptNumber := lifecycle.attemptNumber
        failure := call.failure }
    modify fun lifecycle => { lifecycle with state := call.target }
    modify fun lifecycle => { lifecycle with nextSequence := lifecycle.nextSequence + 1 }
    pure event

/-- The result of one call and the object after it. -/
def outcome (lifecycle : Lifecycle) (call : TransitionCall) :
    Except LifecycleError LifecycleEvent × Lifecycle :=
  (perform call).run.run lifecycle

/-- The results of a sequence of calls and the object after them. -/
def outcomes (lifecycle : Lifecycle) :
    List TransitionCall → List (Except LifecycleError LifecycleEvent) × Lifecycle
  | [] => ([], lifecycle)
  | call :: rest =>
      let (result, next) := lifecycle.outcome call
      let (results, last) := next.outcomes rest
      (result :: results, last)

/-- The events of the accepted calls. -/
def accepted (results : List (Except LifecycleError LifecycleEvent)) : List LifecycleEvent :=
  results.filterMap Except.toOption

/-- The calls without the rejected ones. -/
def withoutRejected (calls : List TransitionCall)
    (results : List (Except LifecycleError LifecycleEvent)) : List TransitionCall :=
  (calls.zip results).filterMap fun entry => if entry.2.isOk then some entry.1 else none

/-! ## One call -/

/-- A call that is allowed returns the event of the transition, and the object is the
machine after it. -/
theorem outcome_of_transition {lifecycle lifecycle' : Lifecycle} {call : TransitionCall}
    {event : LifecycleEvent}
    (h : lifecycle.transition call.target call.recordedAt call.failure = .ok (event, lifecycle')) :
    lifecycle.outcome call = (.ok event, lifecycle') := by
  unfold transition at h
  split at h
  · rename_i hvalid
    obtain ⟨rfl, rfl⟩ := Prod.mk.inj (Except.ok.inj h)
    show StateT.run (m := Id) (ExceptT.run
      (if ¬ isValidTransition lifecycle.state call.target = true then _ else _)) lifecycle = _
    rw [if_neg (not_not_intro hvalid)]
    rfl
  · contradiction

/-- A call that is not allowed is rejected and changes nothing. -/
theorem outcome_of_refused {lifecycle : Lifecycle} {call : TransitionCall} {error : LifecycleError}
    (h : lifecycle.transition call.target call.recordedAt call.failure = .error error) :
    lifecycle.outcome call = (.error error, lifecycle) := by
  unfold transition at h
  split at h
  · contradiction
  · rename_i hinvalid
    obtain rfl := Except.error.inj h
    show StateT.run (m := Id) (ExceptT.run
      (if ¬ isValidTransition lifecycle.state call.target = true then _ else _)) lifecycle = _
    rw [if_pos hinvalid]
    rfl

/-- A call is accepted or rejected; a rejected one changes nothing. -/
theorem outcome_cases (lifecycle : Lifecycle) (call : TransitionCall) :
    (∃ event lifecycle',
      lifecycle.transition call.target call.recordedAt call.failure = .ok (event, lifecycle') ∧
      lifecycle.outcome call = (.ok event, lifecycle')) ∨
    ∃ error, lifecycle.outcome call = (.error error, lifecycle) := by
  cases h : lifecycle.transition call.target call.recordedAt call.failure with
  | ok stepped =>
      obtain ⟨event, lifecycle'⟩ := stepped
      exact Or.inl ⟨event, lifecycle', rfl, outcome_of_transition h⟩
  | error error => exact Or.inr ⟨error, outcome_of_refused h⟩

/-! ## Sequences of calls -/

section

variable {lifecycle lifecycle' : Lifecycle} {call : TransitionCall} {rest : List TransitionCall}

theorem outcomes_cons {result : Except LifecycleError LifecycleEvent}
    (h : lifecycle.outcome call = (result, lifecycle')) :
    lifecycle.outcomes (call :: rest) =
      (result :: (lifecycle'.outcomes rest).1, (lifecycle'.outcomes rest).2) := by
  rw [outcomes, h]

@[simp] theorem accepted_ok_cons (event : LifecycleEvent)
    (results : List (Except LifecycleError LifecycleEvent)) :
    accepted (.ok event :: results) = event :: accepted results := rfl

@[simp] theorem accepted_error_cons (error : LifecycleError)
    (results : List (Except LifecycleError LifecycleEvent)) :
    accepted (.error error :: results) = accepted results := rfl

@[simp] theorem withoutRejected_ok_cons (event : LifecycleEvent)
    (results : List (Except LifecycleError LifecycleEvent)) :
    withoutRejected (call :: rest) (.ok event :: results) =
      call :: withoutRejected rest results := rfl

@[simp] theorem withoutRejected_error_cons (error : LifecycleError)
    (results : List (Except LifecycleError LifecycleEvent)) :
    withoutRejected (call :: rest) (.error error :: results) = withoutRejected rest results := rfl

end

/-- The events of a sequence of calls continue the journal. -/
theorem Follows.outcomes {lifecycle : Lifecycle} {events : List LifecycleEvent}
    (h : lifecycle.Follows events) (calls : List TransitionCall) :
    (lifecycle.outcomes calls).2.Follows (events ++ accepted (lifecycle.outcomes calls).1) := by
  induction calls generalizing lifecycle events with
  | nil =>
      show lifecycle.Follows (events ++ [])
      rw [List.append_nil]
      exact h
  | cons call rest ih =>
      rcases outcome_cases lifecycle call with ⟨event, lifecycle', hstep, houtcome⟩ |
        ⟨error, houtcome⟩
      · rw [outcomes_cons houtcome, accepted_ok_cons, List.append_cons]
        exact ih (h.transition hstep)
      · rw [outcomes_cons houtcome, accepted_error_cons]
        exact ih h

/-- The events of a sequence of calls belong to the run and its attempt. -/
theorem identity_of_mem_accepted {lifecycle : Lifecycle} {calls : List TransitionCall}
    {event : LifecycleEvent} (h : event ∈ accepted (lifecycle.outcomes calls).1) :
    event.runId = lifecycle.runId ∧ event.attemptNumber = lifecycle.attemptNumber := by
  induction calls generalizing lifecycle with
  | nil => contradiction
  | cons call rest ih =>
      rcases outcome_cases lifecycle call with ⟨first, lifecycle', hstep, houtcome⟩ |
        ⟨error, houtcome⟩
      · rw [outcomes_cons houtcome, accepted_ok_cons] at h
        obtain ⟨hfirst, hrun, hattempt⟩ := transition_identity hstep
        rcases List.mem_cons.mp h with rfl | hlater
        · exact hfirst
        · rw [← hrun, ← hattempt]
          exact ih hlater
      · rw [outcomes_cons houtcome, accepted_error_cons] at h
        exact ih h

/-- The rejected calls can be left out. -/
theorem outcomes_withoutRejected (lifecycle : Lifecycle) (calls : List TransitionCall) :
    lifecycle.outcomes (withoutRejected calls (lifecycle.outcomes calls).1) =
      ((accepted (lifecycle.outcomes calls).1).map .ok, (lifecycle.outcomes calls).2) := by
  induction calls generalizing lifecycle with
  | nil => rfl
  | cons call rest ih =>
      rcases outcome_cases lifecycle call with ⟨event, lifecycle', hstep, houtcome⟩ |
        ⟨error, houtcome⟩
      · rw [outcomes_cons houtcome, withoutRejected_ok_cons, outcomes_cons houtcome, ih,
          accepted_ok_cons, List.map_cons]
      · rw [outcomes_cons houtcome, withoutRejected_error_cons, ih, accepted_error_cons]

end Lifecycle

/-! ## Walks -/

/-- Later events are further from `created`. -/
theorem IsJournal.rank_lt {events : List LifecycleEvent} (h : IsJournal events) {i j : Nat}
    (hij : i < j) (hj : j < events.length) :
    events[i].toState.rank < events[j].toState.rank := by
  induction j with
  | zero => omega
  | succ j ih =>
      have hstep := rank_lt_of_isValidTransition (h.chained j hj).2
      have hcases : i < j ∨ i = j := by omega
      rcases hcases with hbefore | rfl
      · have hearlier := ih hbefore (by omega)
        omega
      · exact hstep

/-- A terminal state has no successor. -/
theorem isTerminal_eq_false_of_isValidTransition {source target : RunState}
    (h : isValidTransition source target = true) : source.isTerminal = false := by
  cases source <;> cases target <;> first | rfl | contradiction

/-- A terminal state is entered from `finalizing` only. -/
theorem eq_finalizing_of_isValidTransition {source target : RunState}
    (h : isValidTransition source target = true) (hterminal : target.isTerminal = true) :
    source = .finalizing := by
  cases source <;> cases target <;> first | rfl | contradiction

/-- A bounded walk through the lifecycle of one attempt of a run. -/
structure IsWalk (runId : String) (attemptNumber : UInt32) (events : List LifecycleEvent) :
    Prop where
  journal : IsJournal events
  identity : ∀ event ∈ events, event.runId = runId ∧ event.attemptNumber = attemptNumber
  bounded : events.length ≤ 6
  once : (events.map (·.toState)).Nodup
  ends : ∀ i (h : i < events.length), events[i].toState.isTerminal = true →
    i + 1 = events.length
  enters : ∀ event ∈ events, event.toState.isTerminal = true →
    event.fromState = some .finalizing

/-- A journal of one attempt is a walk. -/
theorem IsJournal.isWalk {runId : String} {attemptNumber : UInt32} {events : List LifecycleEvent}
    (h : IsJournal events)
    (hidentity : ∀ event ∈ events, event.runId = runId ∧ event.attemptNumber = attemptNumber) :
    IsWalk runId attemptNumber events := by
  constructor
  case journal => exact h
  case identity => exact hidentity
  case bounded => exact h.length_le
  case once =>
    -- the rank grows along the journal, so no state comes twice
    apply List.pairwise_map.mpr
    apply List.pairwise_iff_getElem.mpr
    intro i j hi hj hij heq
    have hrank := h.rank_lt hij hj
    rw [heq] at hrank
    omega
  case ends =>
    intro i hi hterminal
    -- a terminal state has no next one
    by_contra hmore
    have hnext := isTerminal_eq_false_of_isValidTransition (h.chained i (by omega)).2
    rw [hterminal] at hnext
    contradiction
  case enters =>
    intro event hevent hterminal
    obtain ⟨i, hi, rfl⟩ := List.getElem_of_mem hevent
    cases i with
    | zero =>
        rw [(h.starts hi).2] at hterminal
        contradiction
    | succ i =>
        obtain ⟨hfrom, hvalid⟩ := h.chained i hi
        rw [hfrom, eq_finalizing_of_isValidTransition hvalid hterminal]

/-- Every sequence of calls on a new lifecycle returns a bounded walk behind the first
event; a rejected call changes nothing, and without the rejected calls the events are
the same. -/
theorem Lifecycle.isWalk_outcomes (runId recordedAt : String) (attemptNumber : UInt32)
    (calls : List TransitionCall) :
    let lifecycle := (Lifecycle.new runId recordedAt attemptNumber).1
    let created := (Lifecycle.new runId recordedAt attemptNumber).2
    IsWalk runId attemptNumber (created :: accepted (lifecycle.outcomes calls).1) ∧
    (∀ before call after error, calls = before ++ call :: after →
      ((lifecycle.outcomes before).2.outcome call).1 = .error error →
      ((lifecycle.outcomes before).2.outcome call).2 = (lifecycle.outcomes before).2) ∧
    lifecycle.outcomes (withoutRejected calls (lifecycle.outcomes calls).1) =
      ((accepted (lifecycle.outcomes calls).1).map .ok, (lifecycle.outcomes calls).2) := by
  intro lifecycle created
  have hfollows := (Lifecycle.follows_new runId recordedAt attemptNumber).outcomes calls
  refine ⟨hfollows.journal.isWalk ?_, ?_, outcomes_withoutRejected lifecycle calls⟩
  · intro event hevent
    rcases List.mem_cons.mp hevent with rfl | hlater
    · exact ⟨rfl, rfl⟩
    · exact identity_of_mem_accepted hlater
  · intro before call _ error _ hrejected
    rcases outcome_cases (lifecycle.outcomes before).2 call with
      ⟨event, lifecycle', -, houtcome⟩ | ⟨error', houtcome⟩
    · rw [houtcome] at hrejected
      contradiction
    · rw [houtcome]

end Benchplane
