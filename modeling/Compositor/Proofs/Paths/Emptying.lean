import Compositor.Proofs.Paths.Operations

/-!
# Emptying an engine as a path of moves

A switch of the active mode and a teardown drain the device first. Nothing that the engine holds is
in use then, so retiring it destroys it, and the engine ends with no image at all. This is the only
way to another mode, so no image outlives its context.
-/

set_option autoImplicit false

namespace Compositor

variable {engine : Engine} {hand : List Image} {recorded : List ImageHandle}

namespace Engine

/-- The engine holds no image, and the device owes it nothing. -/
structure Emptied (engine : Engine) : Prop where
  textures : engine.textures.entries = []
  outputs : engine.outputs.entries = []
  retired : engine.retired.parked = []
  inFlight : engine.progress.inFlight = []
  completed : engine.progress.completed = engine.progress.lastIssued

theorem Emptied.owned (emptied : engine.Emptied) : engine.owned = [] := by
  simp [Engine.owned, emptied.textures, emptied.outputs, emptied.retired]

theorem emptyCaches_textures (engine : Engine) : engine.emptyCaches.textures.entries = [] :=
  engine.textures.drain_entries

theorem emptyCaches_outputs (engine : Engine) : engine.emptyCaches.outputs.entries = [] := rfl

/-- Where everything has completed, emptying the caches parks nothing. -/
theorem emptyCaches_parked (paced : Moment.Paced ⟨engine, [], recorded⟩)
    (idle : engine.progress.completed = engine.progress.lastIssued) :
    engine.emptyCaches.retired.parked = engine.retired.parked := by
  have drained := (Moves.drainCaches engine [] recorded).paced paced
  refine retire_parked fun image member => drained.complete_of_idle idle ?_
  exact List.mem_append_right _ (List.mem_append_left _ member)

theorem emptied_of_idle (paced : Moment.Paced ⟨engine, [], recorded⟩)
    (idle : engine.progress.completed = engine.progress.lastIssued)
    (inFlight : engine.progress.inFlight = []) : engine.emptyCaches.collect.Emptied where
  textures := engine.emptyCaches_textures
  outputs := engine.emptyCaches_outputs
  retired := by
    rw [collect_parked, emptyCaches_parked paced idle, List.filter_eq_nil_iff]
    intro image member
    have complete := paced.complete_of_idle idle
      (List.mem_append_left [] (List.mem_append_right _ member))
    have kept : engine.emptyCaches.progress = engine.progress := rfl
    rw [kept, complete]
    simp
  inFlight := inFlight
  completed := idle

/-! ## Switching -/

/-- What asking for a mode left behind. -/
inductive Switches (engine : Engine) (recorded : List ImageHandle) (mode : Mode) : Engine → Prop
    where
  | kept : engine.contexts.active = mode ∨ engine.lost = true ∨
        engine.contexts.has mode = false →
      Switches engine recorded mode engine
  | failed : engine.device.finish.1 = false →
      Switches engine recorded mode { engine with device := engine.device.finish.2 }.markLost
  | switched {after : Engine} :
      engine.contexts.active ≠ mode → engine.contexts.has mode = true →
      engine.device.finish.1 = true → after.Emptied →
      after.contexts = engine.contexts.activate mode → after.lost = engine.lost →
      after.progress.recording = engine.progress.recording →
      Moves ⟨engine, [], recorded⟩ ⟨after, [], recorded⟩ →
      Switches engine recorded mode after

theorem switchTo_switches (rested : Moment.Rested ⟨engine, [], recorded⟩) (mode : Mode) :
    Switches engine recorded mode (engine.switchTo mode) := by
  unfold switchTo
  split
  · rename_i stays
    exact .kept (by simpa using stays)
  · rename_i changes
    simp only [not_or, Bool.not_eq_true, Bool.not_eq_false] at changes
    obtain ⟨other, usable, available⟩ := changes
    obtain ⟨closed, -⟩ := rested.closed usable
    cases outcome : engine.device.finish with
    | mk drained device =>
        have same : device = engine.device.finish.2 := by rw [outcome]
        cases drained with
        | false =>
            rw [same]
            exact .failed (by rw [outcome])
        | true =>
            have path := Moves.drained engine [] recorded (by rw [outcome])
            rw [← same] at path
            let idle : Engine := { engine with device, progress := engine.progress.markIdle }
            have paced : Moment.Paced ⟨idle, [], recorded⟩ := path.paced rested.paced
            have completed := rested.paced.progress.markIdle_completed closed
            have emptied := emptied_of_idle paced completed rfl
            have owned := path.owned rested.owned
            have away : Moves _ _ := path.trans (Moves.emptyCaches owned)
            have collected : Moves _ _ := away.trans (Moves.collect (away.owned rested.owned))
            refine .switched other available (by rw [outcome])
              ⟨emptied.textures, emptied.outputs, emptied.retired, emptied.inFlight,
                emptied.completed⟩ rfl rfl rfl ?_
            exact collected.tail (.activate available emptied.owned)

theorem switchTo_reaches (rested : Moment.Rested ⟨engine, [], recorded⟩) (mode : Mode) :
    Reaches ⟨engine, [], recorded⟩ (engine.switchTo mode) := by
  have switches := switchTo_switches rested mode
  generalize engine.switchTo mode = after at switches
  cases switches with
  | kept => exact (Leads.refl rested.closed).reaches
  | failed failed =>
      exact (Leads.ofLost (Moves.undrained engine [] recorded failed) rfl rfl).reaches
  | switched _ _ _ _ _ lost recording moves =>
      refine ⟨recorded, moves, fun usable => ?_⟩
      obtain ⟨none, nothing⟩ := rested.closed (lost.symm.trans usable)
      exact ⟨recording.trans none, nothing⟩

theorem setProtected_reaches (rested : Moment.Rested ⟨engine, [], recorded⟩) (wantsSecure : Bool) :
    Reaches ⟨engine, [], recorded⟩ (engine.setProtected wantsSecure).2 :=
  switchTo_reaches rested _

/-- What a frame does once its mode was asked for. -/
theorem drawSwitched_concludes (rested : Moment.Rested ⟨engine, [], recorded⟩)
    (request : FrameRequest) :
    Concludes ⟨engine, [], recorded⟩
      (if engine.lost then (.error .contextLost, engine)
        else if engine.contexts.active ≠ request.mode then (.error .protectedUnavailable, engine)
        else engine.compose request) := by
  split
  · exact ⟨.refl rested.closed, fun _ => nofun⟩
  · rename_i usable
    split
    · exact ⟨.refl rested.closed, fun _ => nofun⟩
    · obtain ⟨closed, nothing⟩ := rested.closed (by simpa using usable)
      dsimp only at nothing
      subst nothing
      exact compose_concludes rested.owned closed request

theorem draw_ends (rested : Moment.Rested ⟨engine, [], recorded⟩) (request : FrameRequest) :
    Reaches ⟨engine, [], recorded⟩ (engine.draw request).2 ∧
      Unrefused (engine.draw request).1 := by
  unfold draw
  split
  · exact ⟨(Leads.refl rested.closed).reaches, fun _ => nofun⟩
  · have awaited := (awaitAny_leads rested request.inputFence).reaches
    cases outcome : engine.awaitAny request.inputFence with
    | mk signaled waited =>
        rw [outcome] at awaited
        cases signaled with
        | false => exact ⟨awaited, fun _ => nofun⟩
        | true =>
            obtain ⟨_, path, waitedRested⟩ := awaited.rested rested
            obtain ⟨_, switching, switched⟩ :=
              (switchTo_reaches waitedRested request.mode).rested waitedRested
            have concludes := drawSwitched_concludes switched request
            exact ⟨concludes.leads.reaches.after (path.trans switching), concludes.unrefused⟩

end Engine

/-! ## Taking an engine down -/

namespace Contexts

theorem finishAll_eq (contexts : Contexts) (device : Device) :
    (contexts.finishAll device).2 = device.finish.2 ∨
      (contexts.finishAll device).2 = device.finish.2.finish.2 := by
  obtain ⟨active, hasSecure⟩ := contexts
  cases hasSecure with
  | false => exact .inl rfl
  | true => exact .inr rfl

theorem finishAll_steps (contexts : Contexts) (device : Device) :
    Device.Steps device (contexts.finishAll device).2 := by
  have first := Device.finish_steps device
  rcases contexts.finishAll_eq device with same | same
  · rw [same]
    exact first
  · rw [same]
    exact first.trans (Device.finish_steps device.finish.2)

theorem finishAll_idle (contexts : Contexts) (device : Device) :
    (contexts.finishAll device).2.lost = true ∨
      History.Drained (contexts.finishAll device).2.events := by
  have idle : ∀ device : Device, device.finish.2.lost = true ∨
      History.Drained device.finish.2.events := by
    intro device
    cases drained : device.finish.1 with
    | false => exact .inl (Device.finish_failed drained)
    | true => exact .inr (Device.finish_drained drained)
  rcases contexts.finishAll_eq device with same | same <;> rw [same] <;> exact idle _

end Contexts

theorem Moves.destroyParked (owned : Moment.Owned ⟨engine, [], recorded⟩)
    (safe : ∀ image ∈ engine.retired.parked,
      engine.progress.isComplete image.lastUsed = true ∨ engine.device.lost = true) :
    Moves ⟨engine, [], recorded⟩
      ⟨{ engine with
        retired := .empty
        device := engine.contexts.destroyAll engine.device engine.retired.parked },
        [], recorded⟩ := by
  have taken : Moves ⟨engine, [], recorded⟩
      ⟨{ engine with retired := .empty }, engine.retired.parked ++ [], recorded⟩ := by
    refine .single (.shift owned.shelved ?_)
    rw [List.perm_iff_count]
    intro image
    simp only [Engine.owned, RetireQueue.empty, List.count_append, List.count_nil]
    omega
  have destroyed : Moves ⟨{ engine with retired := .empty }, engine.retired.parked ++ [], recorded⟩
      ⟨{ engine with
        retired := .empty
        device := engine.contexts.destroyAll engine.device engine.retired.parked },
        [], recorded⟩ :=
    Moves.destroyAll
      (fun image member =>
        owned.hasOwner (List.mem_append_left [] (List.mem_append_right _ member)))
      safe
  exact taken.trans destroyed

namespace Engine

/-- The engine once it has waited for its device for the last time. -/
def awaited (engine : Engine) : Engine :=
  { engine with
    device := (engine.contexts.finishAll engine.device).2
    tracer := none
    progress := engine.progress.markIdle }

theorem awaited_moves (engine : Engine) (recorded : List ImageHandle) :
    Moves ⟨engine, [], recorded⟩ ⟨engine.awaited, [], recorded⟩ := by
  have waited : Moves ⟨engine, [], recorded⟩
      ⟨{ engine with device := (engine.contexts.finishAll engine.device).2 }, [], recorded⟩ :=
    .ofDevice (engine.contexts.finishAll_steps engine.device)
  exact (waited.tail (.idle (engine.contexts.finishAll_idle engine.device))).tail
    (.note none engine.framesDrawn engine.progress.cleaned)

/-- The last state of an engine that was taken down: it holds nothing. -/
structure Dismantled (engine last : Engine) (recorded later : List ImageHandle) : Prop where
  moves : Moves ⟨engine, [], recorded⟩ ⟨last, [], later⟩
  owned : last.owned = []
  inFlight : last.progress.inFlight = []
  recorded : last.device.lost = false → later = []
  lastIssued : last.progress.lastIssued = engine.progress.lastIssued

theorem teardown_dismantled (rested : Moment.Rested ⟨engine, [], recorded⟩) :
    ∃ last, last.device = engine.teardown ∧ engine.Dismantled last recorded recorded := by
  have idle := awaited_moves engine recorded
  have emptied : Moves ⟨engine, [], recorded⟩ ⟨engine.awaited.emptyCaches, [], recorded⟩ :=
    idle.trans (Moves.emptyCaches (idle.owned rested.owned))
  have safe : ∀ image ∈ engine.awaited.emptyCaches.retired.parked,
      engine.awaited.emptyCaches.progress.isComplete image.lastUsed = true ∨
        engine.awaited.emptyCaches.device.lost = true := by
    intro image member
    cases usable : engine.lost with
    | true => exact .inr (emptied.continues.lost (rested.paced.lost usable))
    | false =>
        have completed := rested.paced.progress.markIdle_completed (rested.closed usable).1
        exact .inl ((emptied.paced rested.paced).complete_of_idle completed
          (List.mem_append_left [] (List.mem_append_right _ member)))
  have path : Moves ⟨engine, [], recorded⟩ ⟨_, [], recorded⟩ :=
    emptied.trans (Moves.destroyParked (emptied.owned rested.owned) safe)
  refine ⟨_, rfl, path, ?_, rfl, fun usable => ?_, rfl⟩
  · simp [Engine.owned, emptyCaches_textures, emptyCaches_outputs, RetireQueue.empty]
  · cases before : engine.lost with
    | false => exact (rested.closed before).2
    | true =>
        have lost := path.continues.lost (rested.paced.lost before)
        exact absurd (usable.symm.trans lost) (by simp)

end Engine

end Compositor
