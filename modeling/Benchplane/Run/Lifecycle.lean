import Benchplane.Schema.Evidence
import Mathlib.Tactic.Common

/-!
# The lifecycle of a run

The state machine that numbers the events of a run, and what a journal of its
events is: numbered without a gap, starting at `created`, each event leading on
from the one before by an allowed transition.
-/

namespace Benchplane

inductive LifecycleError where
  | invalidTransition (source target : RunState)

structure Lifecycle where
  runId : String
  state : RunState
  nextSequence : UInt64
  attemptNumber : UInt32

/-- `is_valid_transition`. -/
def isValidTransition : RunState → RunState → Bool
  | .created, .preparing => true
  | .preparing, .running => true
  | .preparing, .finalizing => true
  | .running, .collecting => true
  | .running, .finalizing => true
  | .collecting, .finalizing => true
  | .finalizing, .succeeded => true
  | .finalizing, .failed => true
  | .finalizing, .interrupted => true
  | _, _ => false

namespace Lifecycle

/-- `Lifecycle::new`: the machine and its first event. -/
def new (runId recordedAt : String) (attemptNumber : UInt32) : Lifecycle × LifecycleEvent :=
  (⟨runId, .created, 2, attemptNumber⟩,
    ⟨runId, 1, recordedAt, none, .created, attemptNumber, none⟩)

/-- `Lifecycle::transition`: the event and the machine after it. -/
def transition (lifecycle : Lifecycle) (target : RunState) (recordedAt : String)
    (failure : Option FailureRecord) : Except LifecycleError (LifecycleEvent × Lifecycle) :=
  if isValidTransition lifecycle.state target then
    .ok ({ runId := lifecycle.runId
           sequence := lifecycle.nextSequence
           recordedAt := recordedAt
           fromState := some lifecycle.state
           toState := target
           attemptNumber := lifecycle.attemptNumber
           failure := failure },
      { lifecycle with state := target, nextSequence := lifecycle.nextSequence + 1 })
  else .error (.invalidTransition lifecycle.state target)

end Lifecycle

/-! ## Journals -/

/-- A journal without gaps. -/
structure IsJournal (events : List LifecycleEvent) : Prop where
  numbered : ∀ i (h : i < events.length), events[i].sequence.toNat = i + 1
  starts : ∀ h : 0 < events.length, events[0].fromState = none ∧ events[0].toState = .created
  chained : ∀ i (h : i + 1 < events.length), events[i + 1].fromState = some events[i].toState ∧
    isValidTransition events[i].toState events[i + 1].toState = true

theorem IsJournal.nil : IsJournal [] := by
  constructor <;> simp

/-- A machine that goes on from the last event of a journal. -/
structure Lifecycle.Follows (lifecycle : Lifecycle) (events : List LifecycleEvent) : Prop where
  journal : IsJournal events
  last : ∃ event, events.getLast? = some event ∧ event.toState = lifecycle.state
  next : lifecycle.nextSequence.toNat = events.length + 1

/-- How far a state is from `created`. -/
def RunState.rank : RunState → Nat
  | .created => 0
  | .preparing => 1
  | .running => 2
  | .collecting => 3
  | .finalizing => 4
  | .succeeded | .failed | .interrupted => 5

theorem RunState.rank_le (state : RunState) : state.rank ≤ 5 := by
  cases state <;> simp [RunState.rank]

theorem rank_lt_of_isValidTransition {source target : RunState}
    (h : isValidTransition source target = true) : source.rank < target.rank := by
  cases source <;> cases target <;> simp_all [isValidTransition, RunState.rank]

/-- Transitions only go up, so a journal is short. -/
theorem IsJournal.le_rank {events : List LifecycleEvent} (hjournal : IsJournal events)
    {i : Nat} (h : i < events.length) : i ≤ events[i].toState.rank := by
  induction i with
  | zero => exact Nat.zero_le _
  | succ i ih =>
      have hbefore := ih (by omega)
      have hstep := rank_lt_of_isValidTransition (hjournal.chained i h).2
      omega

theorem IsJournal.length_le {events : List LifecycleEvent} (hjournal : IsJournal events) :
    events.length ≤ 6 := by
  by_contra hlong
  have hseventh : 6 < events.length := by omega
  have hrank := hjournal.le_rank hseventh
  have hbound := RunState.rank_le events[6].toState
  omega

/-- A new machine follows its first event. -/
theorem Lifecycle.follows_new (runId recordedAt : String) (attemptNumber : UInt32) :
    (Lifecycle.new runId recordedAt attemptNumber).1.Follows
      [(Lifecycle.new runId recordedAt attemptNumber).2] where
  journal := by
    constructor
    · intro i h
      obtain rfl : i = 0 := by simpa using h
      rfl
    · intro _
      exact ⟨rfl, rfl⟩
    · intro i h
      simp at h
  last := ⟨_, rfl, rfl⟩
  next := rfl

/-- What an allowed transition gives. -/
theorem Lifecycle.transition_eq_ok {lifecycle lifecycle' : Lifecycle} {target : RunState}
    {recordedAt : String} {failure : Option FailureRecord} {event : LifecycleEvent}
    (h : lifecycle.transition target recordedAt failure = .ok (event, lifecycle')) :
    isValidTransition lifecycle.state target = true ∧ event.toState = target ∧
      event.recordedAt = recordedAt ∧ lifecycle'.state = target := by
  unfold Lifecycle.transition at h
  split at h
  · rename_i hvalid
    obtain ⟨rfl, rfl⟩ := Prod.mk.inj (Except.ok.inj h)
    exact ⟨hvalid, rfl, rfl, rfl⟩
  · contradiction

/-- A transition stays with the run and its attempt. -/
theorem Lifecycle.transition_identity {lifecycle lifecycle' : Lifecycle} {target : RunState}
    {recordedAt : String} {failure : Option FailureRecord} {event : LifecycleEvent}
    (h : lifecycle.transition target recordedAt failure = .ok (event, lifecycle')) :
    (event.runId = lifecycle.runId ∧ event.attemptNumber = lifecycle.attemptNumber) ∧
      lifecycle'.runId = lifecycle.runId ∧
      lifecycle'.attemptNumber = lifecycle.attemptNumber := by
  unfold Lifecycle.transition at h
  split at h
  · obtain ⟨rfl, rfl⟩ := Prod.mk.inj (Except.ok.inj h)
    exact ⟨⟨rfl, rfl⟩, rfl, rfl⟩
  · contradiction

/-- An allowed transition is taken. -/
theorem Lifecycle.exists_transition {lifecycle : Lifecycle} {target : RunState}
    (h : isValidTransition lifecycle.state target = true) (recordedAt : String)
    (failure : Option FailureRecord) :
    ∃ event lifecycle', lifecycle.transition target recordedAt failure = .ok (event, lifecycle') := by
  unfold Lifecycle.transition
  rw [if_pos h]
  exact ⟨_, _, rfl⟩

/-- A transition adds one event that continues the journal. -/
theorem Lifecycle.Follows.transition {lifecycle lifecycle' : Lifecycle}
    {events : List LifecycleEvent} {target : RunState} {recordedAt : String}
    {failure : Option FailureRecord} {event : LifecycleEvent} (h : lifecycle.Follows events)
    (hstep : lifecycle.transition target recordedAt failure = .ok (event, lifecycle')) :
    lifecycle'.Follows (events ++ [event]) := by
  unfold Lifecycle.transition at hstep
  split at hstep
  · rename_i hvalid
    obtain ⟨rfl, rfl⟩ := Prod.mk.inj (Except.ok.inj hstep)
    obtain ⟨last, hlast, hstate⟩ := h.last
    have hlength := h.journal.length_le
    have hnext := h.next
    have hpositive : 0 < events.length := by
      rw [List.getLast?_eq_getElem?] at hlast
      obtain ⟨hbound, -⟩ := List.getElem?_eq_some_iff.mp hlast
      omega
    -- the last event has led to the state that the lifecycle is in
    have hlastIndex : ∀ i (hi : i < events.length), i + 1 = events.length →
        events[i].toState = lifecycle.state := by
      intro i hi hend
      rw [List.getLast?_eq_getElem?] at hlast
      obtain ⟨_, hget⟩ := List.getElem?_eq_some_iff.mp hlast
      obtain rfl : i = events.length - 1 := by omega
      rw [hget, hstate]
    refine ⟨⟨?_, ?_, ?_⟩, ⟨_, List.getLast?_concat .., rfl⟩, ?_⟩
    -- the events so far keep their numbers, the new one has the next
    · intro i hi
      by_cases hold : i < events.length
      · rw [List.getElem_append_left hold]
        exact h.journal.numbered i hold
      · obtain rfl : i = events.length := by simp at hi; omega
        simpa using hnext
    · intro _
      rw [List.getElem_append_left hpositive]
      exact h.journal.starts hpositive
    -- and their neighbours, to which the new one adds the last
    · intro i hi
      by_cases hold : i + 1 < events.length
      · rw [List.getElem_append_left hold, List.getElem_append_left (by omega)]
        exact h.journal.chained i hold
      · have hend : i + 1 = events.length := by simp at hi; omega
        have hbefore : i < events.length := by omega
        rw [List.getElem_append_left hbefore, hlastIndex i hbefore hend]
        simp only [hend, List.getElem_concat_length]
        exact ⟨trivial, hvalid⟩
    · rw [UInt64.toNat_add, hnext]
      simp only [List.length_append, List.length_singleton, UInt64.toNat_one]
      omega
  · contradiction

end Benchplane
