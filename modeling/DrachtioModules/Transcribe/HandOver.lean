import DrachtioModules.Aws.HandOver
import DrachtioModules.Azure.HandOver

/-!
# The hand-over from buffered to live audio

In both modules the drain of the pre-connect buffer passes on what the buffer
kept, then every frame accepted since goes straight on, and nothing is left
behind.
-/

namespace DrachtioModules.Transcribe

theorem handedOver_aws {τ : Type} {config : Aws.Config}
    {s : Aws.State τ} {before after : List (Aws.Event τ)}
    (unsent : Aws.enqueuedBytes before = [])
    (draining : Aws.Draining (keptBytes config.prebufChunkSize 15
      (Aws.acceptedBytes before)) after s) :
    HandedOver config.prebufChunkSize (Aws.acceptedBytes before)
      (Aws.enqueuedBytes before) (Aws.acceptedBytes after)
      (Aws.enqueuedBytes after) (Aws.drainOver s) s.audioBuffer
      s.prebufStaging := by
  constructor
  · exact unsent
  · rw [← draining.ordered]
    exact List.prefix_append _ _
  · intro ended
    obtain ⟨items, staging⟩ := draining.stage.empty (draining.connected ended)
    rw [← draining.ordered, Aws.heldBytes,
      SimpleBuffer.chunks_nil_iff.mpr items, staging]
    simp
  · exact fun ended => draining.stage.empty (draining.connected ended)

/-- Before `m_connected` is set the callback that drains is on the way. -/
theorem ordered_azure {kept : Bytes} {s : Azure.State}
    {trace : List Azure.Event} (draining : Azure.Draining kept trace s) :
    Azure.pushedBytes trace <+: kept ++ Azure.acceptedBytes trace := by
  cases connected : s.connected with
  | true =>
      have whole := (draining.drained connected).pushed
      simp [whole]
  | false =>
      obtain ⟨n, holder⟩ := draining.begun connected
      have stage := draining.stage n
      cases here : s.handlers n with
      | draining =>
          rw [here] at stage
          rw [← show _ = kept ++ _ from stage, List.append_assoc]
          exact List.prefix_append _ _
      | flushing =>
          rw [here] at stage
          rw [← stage.2]
          exact List.prefix_append _ _
      | publishing =>
          rw [here] at stage
          simp [stage.2]
      | failing | notifying =>
          rw [here] at stage
          exact stage.elim
      | _ =>
          rw [here] at holder
          cases holder

theorem handedOver_azure {s : Azure.State} {before after : List Azure.Event}
    (unsent : Azure.pushedBytes before = [])
    (draining : Azure.Draining (keptBytes Azure.chunkSize 15
      (Azure.acceptedBytes before)) after s) :
    HandedOver Azure.chunkSize (Azure.acceptedBytes before)
      (Azure.pushedBytes before) (Azure.acceptedBytes after)
      (Azure.pushedBytes after) (Azure.drainOver s) s.audioBuffer
      s.prebufStaging := by
  have drained := fun ended => draining.drained (draining.connected ended)
  constructor
  · exact unsent
  · exact ordered_azure draining
  · exact fun ended => (drained ended).pushed
  · exact fun ended => ⟨(drained ended).items, (drained ended).staging⟩

/-- In every interleaving of mod_aws_transcribe, and in every one of
mod_azure_transcribe in which no write fails and nobody sets `m_finished`:
without a drain nothing is sent (and an OnStreamReady that found the session has
not returned), and from the drain on what is sent is what the
buffer kept followed by the frames accepted since, all of it once the drain is
over. -/
theorem handed_over :
    (∀ (τ : Type) (config : Aws.Config) (labels : List (Aws.Act τ))
      (trace : List (Aws.Event τ)) (s : Aws.State τ),
      (Aws.machine τ config).Run anyStep (.fresh τ config) labels trace s →
        (Aws.machine τ config).Run (fun state label =>
            !Aws.takesBuffer state label) (.fresh τ config) labels trace s ∧
          (.onStreamReady true ∈ labels → s.streamReady ≠ .returned) ∧
          Aws.enqueuedBytes trace = [] ∨
        ∃ before after, trace = before ++ after ∧
          (Aws.machine τ config).Cut anyStep Aws.takesBuffer (.fresh τ config)
            labels before after s ∧
          HandedOver config.prebufChunkSize (Aws.acceptedBytes before)
            (Aws.enqueuedBytes before) (Aws.acceptedBytes after)
            (Aws.enqueuedBytes after) (Aws.drainOver s) s.audioBuffer
            s.prebufStaging) ∧
    (∀ (config : Azure.Config) (labels : List Azure.Act)
      (trace : List Azure.Event) (s : Azure.State),
      (Azure.machine config).Run Azure.unbroken (.fresh config) labels trace s →
        (Azure.machine config).Run (fun state label =>
            Azure.unbroken state label && !Azure.takesBuffer state label)
            (.fresh config) labels trace s ∧
          Azure.pushedBytes trace = [] ∨
        ∃ before after, trace = before ++ after ∧
          (Azure.machine config).Cut Azure.unbroken Azure.takesBuffer
            (.fresh config) labels before after s ∧
          HandedOver Azure.chunkSize (Azure.acceptedBytes before)
            (Azure.pushedBytes before) (Azure.acceptedBytes after)
            (Azure.pushedBytes after) (Azure.drainOver s) s.audioBuffer
            s.prebufStaging) := by
  constructor
  · intro τ config labels trace s run
    rcases run.cut Aws.takesBuffer with without | ⟨before, after, split, cut⟩
    · refine .inl ⟨without, fun located returned => ?_,
        (Aws.buffering_of_run without).silent⟩
      rcases Aws.undrained_of_run without located with called | locking
      · rw [returned] at called
        cases called
      · rw [returned] at locking
        cases locking
    · obtain ⟨unsent, draining⟩ := Aws.draining_of_cut cut
      exact .inr ⟨before, after, split, cut, handedOver_aws unsent draining⟩
  · intro config labels trace s run
    rcases run.cut Azure.takesBuffer with without | ⟨before, after, split, cut⟩
    · exact .inl ⟨without, (Azure.buffering_of_run without).silent⟩
    · obtain ⟨unsent, draining⟩ := Azure.draining_of_cut cut
      exact .inr ⟨before, after, split, cut, handedOver_azure unsent draining⟩

/-- A frame of one and a half chunks before the drain and one after it. -/
theorem handed_over_of_drain :
    (∃ labels before after s,
      (Aws.machine Unit ⟨400, 2⟩).Cut anyStep Aws.takesBuffer
          (.fresh Unit ⟨400, 2⟩) labels before after s ∧
        s.streamReady = .returned ∧
        Aws.acceptedBytes (before ++ after) = [1, 2, 3, 4] ∧
        Aws.enqueuedBytes after = [1, 2, 3, 4] ∧
        HandedOver 2 (Aws.acceptedBytes before) (Aws.enqueuedBytes before)
          (Aws.acceptedBytes after) (Aws.enqueuedBytes after) (Aws.drainOver s)
          s.audioBuffer s.prebufStaging) ∧
    ∃ labels before after s,
      (Azure.machine ⟨false, false⟩).Cut Azure.unbroken Azure.takesBuffer
          (.fresh ⟨false, false⟩) labels before after s ∧
        s.handlers 0 = .returned false ∧
        Azure.acceptedBytes (before ++ after) = [1, 2, 3, 4] ∧
        Azure.pushedBytes after = [1, 2, 3, 4] ∧
        HandedOver 320 (Azure.acceptedBytes before) (Azure.pushedBytes before)
          (Azure.acceptedBytes after) (Azure.pushedBytes after)
          (Azure.drainOver s) s.audioBuffer s.prebufStaging := by
  constructor
  · let labels : List (Aws.Act Unit) :=
      List.flatten [
        [.connect, .write [1, 2, 3], .media, .media, .onStreamReady true],
        List.replicate 7 .streamReady, [.write [4], .media, .media]]
    have executed : ((Aws.machine Unit ⟨400, 2⟩).exec anyStep
        (.fresh Unit ⟨400, 2⟩) labels).map (fun outcome =>
          decide (outcome.1.streamReady = .returned) &&
            (decide (Aws.acceptedBytes outcome.2 = [1, 2, 3, 4]) &&
              decide (Aws.enqueuedBytes outcome.2 = [1, 2, 3, 4]))) =
            some true := by
      decide
    obtain ⟨s, trace, run, all⟩ := Machine.exists_run_of_exec _ executed
    simp only [Bool.and_eq_true, decide_eq_true_eq] at all
    obtain ⟨returned, accepted, sent⟩ := all
    rcases handed_over.1 Unit ⟨400, 2⟩ labels trace s run with
      ⟨_, _, unsent⟩ | ⟨before, after, rfl, cut, handed⟩
    · simp [unsent] at sent
    · rw [Aws.enqueuedBytes_append, handed.unsent] at sent
      exact ⟨labels, before, after, s, cut, returned, accepted, sent, handed⟩
  · let labels : List Azure.Act :=
      List.flatten [
        [.start .ok, .attach, .write [1, 2, 3], .media true true,
          .media true true, .signal .sessionStarted],
        List.replicate 4 (.handler 0 true true),
        [.write [4], .media true true, .media true true]]
    have executed : ((Azure.machine ⟨false, false⟩).exec Azure.unbroken
        (.fresh ⟨false, false⟩) labels).map (fun outcome =>
          decide (outcome.1.handlers 0 = .returned false) &&
            (decide (Azure.acceptedBytes outcome.2 = [1, 2, 3, 4]) &&
              decide (Azure.pushedBytes outcome.2 = [1, 2, 3, 4]))) =
            some true := by
      decide
    obtain ⟨s, trace, run, all⟩ := Machine.exists_run_of_exec _ executed
    simp only [Bool.and_eq_true, decide_eq_true_eq] at all
    obtain ⟨returned, accepted, sent⟩ := all
    rcases handed_over.2 ⟨false, false⟩ labels trace s run with
      ⟨_, unsent⟩ | ⟨before, after, rfl, cut, handed⟩
    · simp [unsent] at sent
    · rw [Azure.pushedBytes_append, handed.unsent] at sent
      exact ⟨labels, before, after, s, cut, returned, accepted, sent, handed⟩

end DrachtioModules.Transcribe
