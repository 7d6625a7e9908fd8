import Benchplane.Runtime.Scheduling

/-!
# Reaping the helper

The helper may be reaped by a poll of the loop, by the first or the second wait of the
termination, or by its fallback.  Whatever the operating system answers, the call that
reaps it is the last one on its process ID, and every way out of the execution has made
such a call.
-/

namespace Benchplane

open Library

/-! ## Calls on the process -/

/-- The child that a call has reaped for its caller. -/
def ProcessCall.reaped? : ProcessCall → Option ReapedChild
  | .wait4 _ (.reaped child) => some child
  | .wait4 _ _ | .kill | .wait => none

/-- A call behind which the process may be gone.  The answer of the fallback `wait` is not
looked at. -/
def ProcessCall.mayReap : ProcessCall → Bool
  | .wait4 _ (.reaped _) | .wait => true
  | .wait4 _ _ | .kill => false

/-- A call that waits for the process to end. -/
def ProcessCall.blocks : ProcessCall → Bool
  | .wait4 true _ | .wait => true
  | .wait4 false _ | .kill => false

/-- The calls of an execution, the newest first, with what it reports. -/
structure ReapsOnce (calls : List ProcessCall) (resources : Option ProcessResources) : Prop where
  once : calls.countP (·.mayReap) ≤ 1
  last : ∀ newer call older, calls = newer ++ call :: older → call.mayReap = true → newer = []
  settled : ∃ call ∈ calls, call.reaped?.isSome = true ∨ call.blocks = true
  accounted : ∀ usage, resources = some usage →
    ∃ child, child.resources = .ok usage ∧ ∃ call ∈ calls, call.reaped? = some child

/-- No call may have reaped the process. -/
def Unreaped (calls : List ProcessCall) : Prop := ∀ call ∈ calls, call.mayReap = false

theorem Unreaped.countP_eq_zero {calls : List ProcessCall} (h : Unreaped calls) :
    calls.countP (·.mayReap) = 0 := by
  rw [List.countP_eq_zero]
  intro call hmem
  simp [h call hmem]

/-- Calls of which only the newest one can have reaped the process. -/
theorem reapsOnce_of_cons {call : ProcessCall} {older : List ProcessCall}
    {resources : Option ProcessResources} (hunreaped : Unreaped older)
    (hsettled : ∃ other ∈ call :: older, other.reaped?.isSome = true ∨ other.blocks = true)
    (haccounted : ∀ usage, resources = some usage →
      ∃ child, child.resources = .ok usage ∧ call.reaped? = some child) :
    ReapsOnce (call :: older) resources where
  once := by
    rw [List.countP_cons, hunreaped.countP_eq_zero]
    split <;> omega
  last newer other behind hcalls hreaps := by
    cases newer with
    | nil => rfl
    | cons first newer =>
        -- the call would be one of the older ones
        obtain ⟨-, rfl⟩ := List.cons.inj hcalls
        have hquiet := hunreaped other (by simp)
        rw [hquiet] at hreaps
        contradiction
  settled := hsettled
  accounted usage husage := by
    obtain ⟨child, hchild, hcall⟩ := haccounted usage husage
    exact ⟨child, hchild, call, List.mem_cons_self, hcall⟩

/-! ## The loop -/

section

variable {codec : Codec} {protocol : ChildProtocol} {validate : Validator}

/-- The loop has polled until its child was reaped, or has not reaped it yet. -/
def Supervision.Polls (state : Supervision) : Prop :=
  match state.exitStatus with
  | none => Unreaped state.calls
  | some child => ∃ older, state.calls = .wait4 false (.reaped child) :: older ∧ Unreaped older

theorem polls_start : Supervision.start.Polls := fun _ hmem => absurd hmem List.not_mem_nil

/-- What is received is no call on the process. -/
theorem receive_calls {received : Received} {state state' : Supervision} {ends : Bool}
    (h : receive codec protocol validate received state = .ok (state', ends)) :
    state'.calls = state.calls ∧ state'.exitStatus = state.exitStatus := by
  cases received with
  | disconnected =>
      obtain ⟨rfl, -⟩ := Prod.mk.inj (Except.ok.inj h)
      exact ⟨rfl, rfl⟩
  | timeout =>
      obtain ⟨rfl, -⟩ := Prod.mk.inj (Except.ok.inj h)
      exact ⟨rfl, rfl⟩
  | event event =>
      cases event with
      | error message => contradiction
      | done =>
          obtain ⟨rfl, -⟩ := Prod.mk.inj (Except.ok.inj h)
          exact ⟨rfl, rfl⟩
      | line line =>
          simp only [receive, receiveLine, bind_eq_ok_iff, rejectIf_eq_ok] at h
          obtain ⟨-, -, -, -, h⟩ := h
          split at h
          · obtain ⟨rfl, -⟩ := Prod.mk.inj (Except.ok.inj h)
            exact ⟨rfl, rfl⟩
          · simp only [bind_eq_ok_iff, mapFailure_eq_ok, pure_eq_ok_iff, Prod.mk.injEq] at h
            obtain ⟨record, -, -, -, rfl, -⟩ := h
            exact ⟨rfl, rfl⟩

theorem Supervision.Polls.of_same {state state' : Supervision} (h : state.Polls)
    (hcalls : state'.calls = state.calls) (hexit : state'.exitStatus = state.exitStatus) :
    state'.Polls := by
  unfold Supervision.Polls
  rw [hcalls, hexit]
  exact h

/-- A poll is made only as long as the child has not been reaped. -/
theorem Supervision.Polls.pollExit {state : Supervision} (h : state.Polls) (answer : WaitResult) :
    (pollExit protocol answer state).1.Polls := by
  unfold Benchplane.pollExit
  cases hexit : state.exitStatus with
  | some child => simpa [Supervision.Polls, hexit] using h
  | none =>
      have hunreaped : Unreaped state.calls := by simpa [Supervision.Polls, hexit] using h
      have hmore : ∀ call : ProcessCall, call.mayReap = false → Unreaped (call :: state.calls) := by
        intro call hcall other hmem
        rcases List.mem_cons.mp hmem with rfl | hold
        · exact hcall
        · exact hunreaped other hold
      cases answer with
      | running => exact hmore _ rfl
      | reaped child => exact ⟨state.calls, rfl, hunreaped⟩
      | error message => exact hmore _ rfl

theorem Supervision.Polls.superviseTurn {state : Supervision} (h : state.Polls) (turn : Turn) :
    (superviseTurn codec protocol validate turn state).1.Polls := by
  unfold Benchplane.superviseTurn
  split
  · exact h
  · rename_i state' hreceive
    exact h.of_same (receive_calls hreceive).1 (receive_calls hreceive).2
  · rename_i state' hreceive
    exact (h.of_same (receive_calls hreceive).1 (receive_calls hreceive).2).pollExit turn.poll

/-- The loop ends with its child reaped by the last call, or not reaped at all. -/
theorem polls_supervise {turns : List Turn} {state : Supervision} (h : state.Polls) :
    (supervise codec protocol validate turns state).state.Polls :=
  supervise_keeps (fun turn _ _ hstate => hstate.superviseTurn turn) h

/-! ## The whole execution -/

/-- The resources of a completed execution are those of the reaped child. -/
theorem resources_completedSuccess {state : Supervision} {child : ReapedChild}
    {usage : ProcessResources}
    (h : (completedSuccess protocol state child.resources).resources = some usage) :
    child.resources = .ok usage := by
  unfold completedSuccess at h
  split at h
  · exact toOption_eq_some.mp h
  · split at h
    · rename_i resources hresources
      rw [hresources, ← Option.some.inj h]
    · contradiction

/-- The termination behind calls that have not reaped the helper. -/
theorem reapsOnce_terminateAndReap (helper : HelperBehaviour) {calls : List ProcessCall}
    (h : Unreaped calls) :
    ReapsOnce ((terminateAndReap helper).2 ++ calls) (terminateAndReap helper).1.toOption := by
  have hmore : ∀ {older : List ProcessCall} (call : ProcessCall), call.mayReap = false →
      Unreaped older → Unreaped (call :: older) := by
    intro older call hcall holder other hmem
    rcases List.mem_cons.mp hmem with rfl | hold
    · exact hcall
    · exact holder other hold
  unfold terminateAndReap
  cases hpoll : helper.terminationPoll with
  | reaped child =>
      exact reapsOnce_of_cons h ⟨_, List.mem_cons_self, Or.inl rfl⟩ fun usage husage =>
        ⟨child, toOption_eq_some.mp husage, rfl⟩
  | error message =>
      -- killed and waited for without its usage
      exact reapsOnce_of_cons (hmore .kill rfl (hmore (.wait4 false _) rfl h))
        ⟨_, List.mem_cons_self, Or.inr rfl⟩ fun usage husage => by contradiction
  | running =>
      have hkilled : Unreaped (.kill :: .wait4 false .running :: calls) :=
        hmore .kill rfl (hmore (.wait4 false _) rfl h)
      cases hwait : helper.terminationWait with
      | reaped child =>
          exact reapsOnce_of_cons hkilled ⟨_, List.mem_cons_self, Or.inl rfl⟩ fun usage husage =>
            ⟨child, toOption_eq_some.mp husage, rfl⟩
      | running =>
          exact reapsOnce_of_cons hkilled ⟨_, List.mem_cons_self, Or.inr rfl⟩ fun usage husage => by
            contradiction
      | error message =>
          exact reapsOnce_of_cons (hmore (.wait4 true _) rfl hkilled)
            ⟨_, List.mem_cons_self, Or.inr rfl⟩ fun usage husage => by contradiction

end

/-- A started helper is reaped at most once, by the last call on its process ID; every way
out of the execution has reaped it or has waited for it; and the resources are those of
the reap. -/
theorem execute_reapsOnce (codec : Codec) (protocol : ChildProtocol) (validate : Validator)
    (helper : HelperBehaviour) (hfits : protocol.FitsTransport) (hspawn : helper.spawn = .ok ()) :
    ReapsOnce (ChildSupervisor.execute codec protocol validate helper).2
      (ChildSupervisor.execute codec protocol validate helper).1.resources := by
  have hbound : ¬ (protocol.expectedMetadataRecords + protocol.expectedRecords) *
      protocol.maxRecordBytes > protocol.maxStdoutBytes := Nat.not_lt.mpr hfits
  have hloop : (supervise codec protocol validate helper.turns .start).state.Polls :=
    polls_supervise polls_start
  -- a child that was reaped in the loop is not waited for again
  have hreaped : ∀ {state : Supervision} {child : ReapedChild} {resources},
      state.Polls → state.exitStatus = some child →
      (∀ usage, resources = some usage → child.resources = .ok usage) →
      ReapsOnce state.calls resources := by
    intro state child resources hpolls hexit hresources
    unfold Supervision.Polls at hpolls
    rw [hexit] at hpolls
    obtain ⟨older, hcalls, holder⟩ := hpolls
    rw [hcalls]
    exact reapsOnce_of_cons holder ⟨_, List.mem_cons_self, Or.inl rfl⟩ fun usage husage =>
      ⟨child, hresources usage husage, rfl⟩
  unfold ChildSupervisor.execute
  rw [if_neg hbound, hspawn]
  cases hend : supervise codec protocol validate helper.turns .start with
  | completed state reaped =>
      rw [hend] at hloop
      have hexit := exitStatus_of_completed hend
      cases hsuccess : reaped.status.success with
      | true =>
          simp only [hsuccess, if_true]
          exact hreaped hloop hexit fun usage husage => resources_completedSuccess husage
      | false =>
          simp only [hsuccess, Bool.false_eq_true, if_false]
          exact hreaped hloop hexit fun usage husage => toOption_eq_some.mp husage
  | failed state failure =>
      rw [hend] at hloop
      cases hexit : state.exitStatus with
      | some child =>
          simp only [hexit, List.nil_append]
          exact hreaped hloop hexit fun usage husage => toOption_eq_some.mp husage
      | none =>
          simp only [hexit]
          -- otherwise the termination reaps it
          have hunreaped : Unreaped state.calls := by
            simpa [SupervisionEnd.state, Supervision.Polls, hexit] using hloop
          exact reapsOnce_terminateAndReap helper hunreaped

theorem execute_reapsOnce_twoRecords :
    ReapsOnce [.wait4 false (.reaped SampleHelper.child), .wait4 false .running,
      .wait4 false .running] (some ⟨1500, 4096⟩) := by
  have hfits : SampleHelper.protocol.FitsTransport := by
    unfold ChildProtocol.FitsTransport
    decide
  have hcalls : (ChildSupervisor.execute SampleHelper.codec SampleHelper.protocol
      (fun _ _ => .ok ()) SampleHelper.helper).2 =
        [.wait4 false (.reaped SampleHelper.child), .wait4 false .running, .wait4 false .running] ∧
      (ChildSupervisor.execute SampleHelper.codec SampleHelper.protocol (fun _ _ => .ok ())
        SampleHelper.helper).1.resources = some ⟨1500, 4096⟩ := by
    decide +kernel
  have hreaped := execute_reapsOnce SampleHelper.codec SampleHelper.protocol (fun _ _ => .ok ())
    SampleHelper.helper hfits rfl
  rwa [hcalls.1, hcalls.2] at hreaped

end Benchplane
