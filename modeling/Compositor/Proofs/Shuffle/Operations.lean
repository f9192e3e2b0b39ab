import Compositor.Proofs.Shuffle.Frame

/-!
# Operations of alike engines

Every operation gives the same result on alike engines and leaves them alike. So do setting an
engine up and taking it down.
-/

set_option autoImplicit false

namespace Compositor

/-! ## Cleaning up -/

namespace Strategy

theorem drain_effects (device : Device) (progress : Progress) :
    Device.Effects device (drain device progress).2.2 := by
  have finished := Device.Effects.ofSteps device.finish_steps
  unfold drain
  cases outcome : device.finish with
  | mk answer after =>
      rw [outcome] at finished
      cases answer <;> exact finished

theorem cleanup_effects (strategy : Strategy) (device : Device) (progress : Progress) :
    Device.Effects device (strategy.cleanup device progress).2.2 := by
  unfold cleanup
  cases strategy with
  | fenceGated =>
      dsimp only
      split <;> exact .refl
  | blockingFinish =>
      have drained := drain_effects device progress
      dsimp only
      split
      · exact .refl
      · split
        · exact .refl
        · cases outcome : drain device progress with
          | mk answer rest =>
              rw [outcome] at drained
              cases answer <;> exact drained

theorem cleanup_alike (strategy : Strategy) {left right : Device} (alike : left.Alike right)
    (progress : Progress) :
    Agree (Agree Device.Alike) (strategy.cleanup left progress)
      (strategy.cleanup right progress) := by
  unfold cleanup
  cases strategy with
  | fenceGated =>
      dsimp only
      rw [← alike.fences]
      split
      · exact ⟨rfl, rfl, alike⟩
      · exact ⟨rfl, rfl, alike⟩
  | blockingFinish =>
      obtain ⟨answer, ⟨before, first⟩, ⟨_, second⟩, drained, draining, rfl, same⟩ :=
        (drain_alike alike progress).split
      dsimp only
      rw [drained, draining]
      split
      · exact ⟨rfl, rfl, alike⟩
      · split
        · exact ⟨rfl, rfl, alike⟩
        · cases answer with
          | error error => exact ⟨rfl, rfl, same⟩
          | ok => exact ⟨rfl, rfl, same⟩

end Strategy

/-! ## Operations -/

namespace Engine.Alike

variable {left right : Engine}

theorem bind (alike : left.Alike right) (buffer : Buffer) :
    Agree Engine.Alike (left.bind buffer) (right.bind buffer) := by
  obtain ⟨result, first, second, bound, binding, same⟩ := (alike.poll.bindTexture buffer).split
  unfold Engine.bind
  rw [← alike.lost, bound, binding]
  split
  · exact ⟨rfl, alike⟩
  · cases result with
    | error cause => exact ⟨rfl, same.noteFailure cause.isFatal⟩
    | ok handle => exact ⟨rfl, same⟩

theorem unbind (alike : left.Alike right) (buffer : BufferId) :
    (left.unbind buffer).Alike (right.unbind buffer) := by
  have polled := alike.poll
  have leaving := List.Perm.of_eq (congrArg Option.toList (polled.unbind_eq buffer))
  exact (polled.unbound buffer).retire leaving (polled.unbind_known buffer)

theorem invalidate (alike : left.Alike right) (buffer : BufferId) :
    (left.invalidate buffer).Alike (right.invalidate buffer) := by
  have polled := alike.poll
  have apart := left.poll.outputs.invalidate_perm buffer
  have leaving : left.poll.device.Knows (left.poll.outputs.invalidate buffer).1.toList :=
    polled.honest.outputs.subset fun _ member => apart.subset (List.mem_append_left _ member)
  have staying : left.poll.device.Knows (left.poll.outputs.invalidate buffer).2.entries :=
    polled.honest.outputs.subset fun _ member => apart.subset (List.mem_append_right _ member)
  unfold Engine.invalidate
  dsimp only
  rw [← polled.outputs]
  exact (polled.withOutputs staying).retire (.refl _) leaving

theorem setProtected (alike : left.Alike right) (wantsSecure : Bool) :
    Agree Engine.Alike (left.setProtected wantsSecure) (right.setProtected wantsSecure) := by
  have switched := alike.switchTo (.ofProtected wantsSecure)
  exact ⟨congrArg (fun contexts => contexts.active.isSecure) switched.contexts, switched⟩

theorem flush (alike : left.Alike right) :
    Agree Engine.Alike left.flush right.flush := by
  unfold Engine.flush
  by_cases dead : left.lost = true
  · rw [if_pos dead, if_pos (alike.lost.symm.trans dead)]
    exact ⟨rfl, alike⟩
  · rw [if_neg dead, if_neg (alike.lost ▸ dead)]
    dsimp only
    rw [← alike.progress]
    exact (alike.withProgress left.progress.begin).submit left.progress.begin.lastIssued

theorem finish (alike : left.Alike right) : Agree Engine.Alike left.finish right.finish := by
  have effects := Device.Effects.ofSteps left.device.finish_steps
  obtain ⟨answer, first, second, finished, finishing, same⟩ := alike.device.finish.split
  rw [finished] at effects
  have worked := alike.work effects same
  unfold Engine.finish
  by_cases dead : left.lost = true
  · rw [if_pos dead, if_pos (alike.lost.symm.trans dead)]
    exact ⟨rfl, alike⟩
  · rw [if_neg dead, if_neg (alike.lost ▸ dead), finished, finishing]
    cases answer with
    | false => exact ⟨rfl, worked.markLost⟩
    | true => exact ⟨rfl, worked.markIdle⟩

theorem cleanup (alike : left.Alike right) : Agree Engine.Alike left.cleanup right.cleanup := by
  have effects := left.strategy.cleanup_effects left.device left.progress
  obtain ⟨answer, ⟨progress, first⟩, ⟨_, second⟩, cleaned, cleaning, rfl, same⟩ :=
    (left.strategy.cleanup_alike alike.device left.progress).split
  have recleaned : right.strategy.cleanup right.device right.progress =
      (answer, progress, second) := by
    cases alike with
    | varied => exact cleaning
  rw [cleaned] at effects
  have worked := (alike.work effects same).withProgress progress
  unfold Engine.cleanup
  rw [cleaned, recleaned]
  cases answer with
  | error error => exact ⟨rfl, worked.markLost.collect⟩
  | ok released => exact ⟨rfl, worked.collect⟩

theorem await (alike : left.Alike right) (fence : Fence) :
    Agree Engine.Alike (left.await fence) (right.await fence) := alike.awaitAny (some fence)

theorem watchTracer (alike : left.Alike right) (elapsed : Nat) :
    (left.watchTracer elapsed).Alike (right.watchTracer elapsed) := by
  have watched := alike.withTracer
    (left.tracer.map fun tracer => tracer.watch left.device.fences elapsed)
  have fences := alike.device.fences
  cases alike with
  | varied =>
      rw [Engine.watchTracer, Engine.watchTracer, ← fences]
      exact watched

end Engine.Alike

/-! ## Setting up and taking down -/

namespace Contexts

theorem finishAll_alike (contexts : Contexts) {left right : Device} (alike : left.Alike right) :
    Agree Device.Alike (contexts.finishAll left) (contexts.finishAll right) := by
  unfold finishAll
  generalize true = usable
  induction contexts.modes generalizing usable left right with
  | nil => exact ⟨rfl, alike⟩
  | cons mode modes ih =>
      obtain ⟨drained, first, second, finished, finishing, same⟩ := alike.finish.split
      rw [List.foldl_cons, List.foldl_cons]
      dsimp only
      rw [finished, finishing]
      exact ih same (usable && drained)

theorem establish_alike {left right : Device} (alike : left.Alike right)
    (capabilities : Capabilities) (wantsSecure : Bool) :
    establish left capabilities wantsSecure = establish right capabilities wantsSecure := by
  unfold establish
  rw [alike.openContext .normal, alike.openContext .secure]

end Contexts

namespace Engine

/-- A new engine holds nothing, so any two orders will do. -/
theorem create_alike {left right : Device} (alike : left.Alike right)
    (registered : left.Registered) (capabilities : Capabilities) (options : EngineOptions)
    (order other : ReleaseOrder) :
    Tally Eq Engine.Alike (create left capabilities options order)
      (create right capabilities options other) := by
  unfold create
  rw [← Contexts.establish_alike alike]
  cases options.check.mapError EngineError.validation with
  | error error => exact .error rfl
  | ok =>
      cases Contexts.establish left capabilities options.enableSecure with
      | error error => exact .error rfl
      | ok contexts => exact .ok (.varied ⟨registered, .nil left⟩ alike (.refl _))

theorem Alike.teardown {left right : Engine} (alike : left.Alike right) :
    left.teardown.Alike right.teardown := by
  have effects := Device.Effects.ofSteps (left.contexts.finishAll_steps left.device)
  have finished := left.contexts.finishAll_alike alike.device
  have emptied := ((alike.work effects finished.state).withTracer none).markIdle.emptyCaches
  have destroyed := emptied.destroyAll emptied.parked emptied.honest.parked
  cases alike with
  | varied => exact destroyed

end Engine

end Compositor
