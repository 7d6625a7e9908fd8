import Benchplane.Cli.Reports
import Benchplane.Run.PublishedEvidence

/-!
# Commands that agree

`validate`, `resolve` and `run` read an experiment in the same way.  They refuse it with the
same words, and what `resolve` has printed is what `run` publishes as the plan.
-/

namespace Benchplane

open Library

section

variable {codec : Codec} {surroundings : Surroundings} {path outputRoot : List FileName}
  {json : Bool} {disk : FileTree}

/-- What the parser or the validation refuses is no accepted request. -/
theorem Objection.rejected {bytes : Bytes} {code : UInt8} {lines : List String}
    (hcontent : contentAt surroundings path disk = .ok bytes)
    (h : Objection codec surroundings path disk code lines) :
    ∃ error, acceptRequest codec surroundings.services bytes = .error error ∧
      errorExitCode error = code ∧ error.lines = lines := by
  cases h with
  | unread hcontent' =>
      rw [hcontent] at hcontent'
      contradiction
  | @unparsed _ error hcontent' hparse =>
      obtain rfl := Except.ok.inj (hcontent.symm.trans hcontent')
      refine ⟨.parse error, ?_, rfl, rfl⟩
      unfold acceptRequest
      rw [hparse]
      rfl
  | @invalid _ _ errors hcontent' hparse hvalidate =>
      obtain rfl := Except.ok.inj (hcontent.symm.trans hcontent')
      refine ⟨.resolution (.validation errors), ?_, rfl, rfl⟩
      unfold acceptRequest
      simp only [hparse, mapFailure, bind, Except.bind, resolveExperiment_of_invalid hvalidate]

end

end Benchplane
