import DrachtioModules.Aws.Reaping
import DrachtioModules.Azure.Reaping
import DrachtioModules.Google.Reaping

/-!
# Every GStreamer is deleted once

Whatever starts, stops and CLOSE callbacks interleave on the channels, with as
many sessions as there are starts: in each of the three modules one path takes
the GStreamer of a session, and the others find that it is taken.
-/

namespace DrachtioModules.Transcribe

/-- What becomes of the GStreamer of session n. -/
def lives {ε φ : Type*} (lifetime? : ε → Option Lifetime) (n : Nat)
    (trace : List (Family.Event ε φ)) : List Lifetime :=
  (trace.filterMap (Family.Event.of n)).filterMap lifetime?

/-- No exception leaves the constructor or `connect()` of mod_aws_transcribe;
in the other two modules what it would do is among the steps. -/
theorem reaped_once (κ τ : Type) [DecidableEq κ] (config : Aws.Config) :
    (∀ labels trace s,
      (Aws.sessions κ τ config).machine.Run (Family.onParts Aws.nothrow)
        (Aws.sessions κ τ config).machine.initial labels trace s →
      ∀ n, ReapedOnce (lives Aws.SessionEvent.lifetime? n trace)
        (s.parts n).life.ended) ∧
    (∀ labels trace s,
      (Azure.Capture.sessions κ).machine.Run anyStep
        (Azure.Capture.sessions κ).machine.initial labels trace s →
      ∀ n, ReapedOnce (lives CaptureEvent.lifetime? n trace)
        (s.parts n).settled) ∧
    ∀ labels trace s,
      (Google.Capture.sessions κ).machine.Run anyStep
        (Google.Capture.sessions κ).machine.initial labels trace s →
      ∀ n, ReapedOnce (lives CaptureEvent.lifetime? n trace)
        (s.parts n).life.ended := by
  refine ⟨?_, ?_, ?_⟩
  · intro labels trace s run n
    have part : (Aws.session κ τ config).Run Aws.nothrow _ _ _ (s.parts n) :=
      Family.run_part run (fun _ _ _ allowed => allowed) n
    exact Aws.reaped_of_run part
  · intro labels trace s run n
    exact Azure.Capture.reaped_of_run (Family.run_any run n)
  · intro labels trace s run n
    exact Google.Capture.reaped_of_run (Family.run_any run n)

/-- In every module a session is stopped, and its bug removed. -/
theorem reaped_once_of_stops :
    (∃ labels trace s,
      (Aws.sessions Nat Nat ⟨4, 2⟩).machine.Run (Family.onParts Aws.nothrow)
        (Aws.sessions Nat Nat ⟨4, 2⟩).machine.initial labels trace s ∧
      .deleted ∈ lives Aws.SessionEvent.lifetime? 0 trace ∧
      ReapedOnce (lives Aws.SessionEvent.lifetime? 0 trace)
        (s.parts 0).life.ended) ∧
    (∃ labels trace s,
      (Azure.Capture.sessions Nat).machine.Run anyStep
        (Azure.Capture.sessions Nat).machine.initial labels trace s ∧
      .deleted ∈ lives CaptureEvent.lifetime? 0 trace ∧
      (s.parts 0).settled ∧
      ReapedOnce (lives CaptureEvent.lifetime? 0 trace)
        (s.parts 0).settled) ∧
    ∃ labels trace s,
      (Google.Capture.sessions Nat).machine.Run anyStep
        (Google.Capture.sessions Nat).machine.initial labels trace s ∧
      .deleted ∈ lives CaptureEvent.lifetime? 0 trace ∧
      (s.parts 0).life.ended ∧
      ReapedOnce (lives CaptureEvent.lifetime? 0 trace)
        (s.parts 0).life.ended := by
  refine ⟨?_, ?_, ?_⟩
  · have executed : ((Aws.sessions Nat Nat ⟨4, 2⟩).machine.exec
        (Family.onParts Aws.nothrow)
        (Aws.sessions Nat Nat ⟨4, 2⟩).machine.initial
        (List.flatten [Aws.startsSession 0 7 true,
          List.replicate 4 (.part 0 (.thread true)),
          Aws.stopsSession 0 0 7,
          [.part 0 (.stop true), .part 0 (.stop true), .part 0 (.stop true),
            .part 0 (.thread true), .part 0 (.thread true),
            .part 0 (.thread true), .part 0 (.stop true),
            .part 0 (.stop true)]])).map
        (fun outcome => decide
          (.deleted ∈ lives Aws.SessionEvent.lifetime? 0 outcome.2)) =
          some true := by
      decide
    obtain ⟨s, trace, run, observed⟩ := Machine.exists_run_of_exec _ executed
    have reaped := (reaped_once Nat Nat ⟨4, 2⟩).1 _ _ _ run 0
    exact ⟨_, trace, s, run, of_decide_eq_true observed, reaped⟩
  · have executed : ((Azure.Capture.sessions Nat).machine.exec anyStep
        (Azure.Capture.sessions Nat).machine.initial
        (List.flatten [startsCapture 0 7 3, stopsCapture 0 0 7,
          List.replicate 8 (.part 0 (.stop true)),
          List.replicate 2 (.part 0 (.thread true)),
          closesCapture 0 0 true 2])).map
        (fun outcome => decide
          (.deleted ∈ lives CaptureEvent.lifetime? 0 outcome.2 ∧
            (outcome.1.parts 0).life.close = .returned ∧
            (outcome.1.parts 0).pStreamer = false ∧
            (outcome.1.parts 0).reaper = .exited)) = some true := by
      decide
    obtain ⟨s, trace, run, observed⟩ := Machine.exists_run_of_exec _ executed
    obtain ⟨deleted, closed, unpointed, exited⟩ := of_decide_eq_true observed
    have reaped := (reaped_once Nat Nat ⟨4, 2⟩).2.1 _ _ _ run 0
    exact ⟨_, trace, s, run, deleted, ⟨.inr closed, unpointed, .inr exited⟩,
      reaped⟩
  · have executed : ((Google.Capture.sessions Nat).machine.exec anyStep
        (Google.Capture.sessions Nat).machine.initial
        (List.flatten [startsCapture 0 7 4, [.part 0 (.thread false)],
          stopsCapture 0 0 7, List.replicate 4 (.part 0 (.stop true)),
          [.part 0 (.thread true)],
          List.replicate 4 (.part 0 (.stop true)),
          closesCapture 0 0 false 3])).map
        (fun outcome => decide
          (.deleted ∈ lives CaptureEvent.lifetime? 0 outcome.2 ∧
            (outcome.1.parts 0).life.close = .returned)) = some true := by
      decide
    obtain ⟨s, trace, run, observed⟩ := Machine.exists_run_of_exec _ executed
    obtain ⟨deleted, closed⟩ := of_decide_eq_true observed
    have reaped := (reaped_once Nat Nat ⟨4, 2⟩).2.2 _ _ _ run 0
    exact ⟨_, trace, s, run, deleted, .inr closed, reaped⟩

end DrachtioModules.Transcribe
