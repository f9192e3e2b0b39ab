import Compositor.Device.Context
import Compositor.Proofs.History
import Mathlib.Logic.Relation

/-!
# Steps of a device

What happens to a device between the calls that make, use or destroy images and that submit work:
it is scripted, it is lost, fences settle, requests arrive, and it is drained. All such steps leave
the images alone.
-/

set_option autoImplicit false

namespace Compositor.Device

/-- Nothing visible happened: fences of callers may have come, gone or settled, and imports may be
treated differently from now on. -/
structure Quiet (before after : Device) : Prop where
  options : after.options = before.options
  issued : after.issued = before.issued
  live : after.live = before.live
  pending : after.pending = before.pending
  lost : after.lost = before.lost
  events : after.events = before.events
  fences : ∀ fence, before.fences.origin? fence = some .device →
    after.fences.cells[fence.index]? = before.fences.cells[fence.index]?

/-- A step that concerns neither an image nor a submission of an engine. -/
inductive Step : Device → Device → Prop where
  | quiet {before after : Device} : Quiet before after → Step before after
  | lose {device : Device} : Step device device.lose
  | signal {device : Device} {done waiting : List Fence} :
      device.pending = done ++ waiting →
      Step device { device.settle .signaled done with pending := waiting }
  | request {device : Device} {mode : Mode} {kind : ImageKind} {request : ImportRequest} :
      Step device (device.log (.requested mode kind request))
  | finish {device : Device} : Step device device.acceptFinish.2

abbrev Steps : Device → Device → Prop := Relation.ReflTransGen Step

theorem Quiet.refl (device : Device) : Quiet device device :=
  ⟨rfl, rfl, rfl, rfl, rfl, rfl, fun _ _ => rfl⟩

theorem Quiet.trans {first second third : Device} (left : Quiet first second)
    (right : Quiet second third) : Quiet first third where
  options := right.options.trans left.options
  issued := right.issued.trans left.issued
  live := right.live.trans left.live
  pending := right.pending.trans left.pending
  lost := right.lost.trans left.lost
  events := right.events.trans left.events
  fences := fun fence created => by
    have cell := left.fences fence created
    have kept : second.fences.origin? fence = some .device := by
      rw [Fences.origin?, cell]
      exact created
    exact (right.fences fence kept).trans cell

/-! ## Scripted steps -/

theorem quiet_reject (device : Device) (buffer : BufferId) :
    Quiet device (device.rejectImports buffer) :=
  ⟨rfl, rfl, rfl, rfl, rfl, rfl, fun _ _ => rfl⟩

theorem quiet_allow (device : Device) (buffer : BufferId) :
    Quiet device (device.allowImports buffer) :=
  ⟨rfl, rfl, rfl, rfl, rfl, rfl, fun _ _ => rfl⟩

theorem quiet_schedule (device : Device) (call : ContextCall) (passing : Nat) :
    Quiet device (device.scheduleLoss call passing) :=
  ⟨rfl, rfl, rfl, rfl, rfl, rfl, fun _ _ => rfl⟩

theorem quiet_countDown (device : Device) (call : ContextCall) :
    Quiet device (device.countDown call) :=
  ⟨rfl, rfl, rfl, rfl, rfl, rfl, fun _ _ => rfl⟩

theorem create_getElem? (fences : Fences) (origin : FenceOrigin) (status : FenceStatus)
    {fence : Fence} (exists_ : fence.index < fences.cells.size) :
    (fences.create origin status).2.cells[fence.index]? = fences.cells[fence.index]? := by
  simp [Fences.create, Array.getElem?_push, Nat.ne_of_lt exists_]

theorem origin_lt_size {fences : Fences} {fence : Fence} {origin : FenceOrigin}
    (created : fences.origin? fence = some origin) : fence.index < fences.cells.size := by
  rcases Nat.lt_or_ge fence.index fences.cells.size with inside | outside
  · exact inside
  · simp [Fences.origin?, Array.getElem?_eq_none outside] at created

theorem quiet_create (device : Device) (origin : FenceOrigin) (status : FenceStatus) :
    Quiet device { device with fences := (device.fences.create origin status).2 } where
  options := rfl
  issued := rfl
  live := rfl
  pending := rfl
  lost := rfl
  events := rfl
  fences := fun _ created => create_getElem? _ _ _ (origin_lt_size created)

/-- Callers cannot settle the fences of the device. -/
theorem settleByCaller_getElem? {fences : Fences} {outcome : FenceStatus} {settled fence : Fence}
    (created : fences.origin? fence = some .device) :
    (fences.settleByCaller outcome settled).cells[fence.index]? = fences.cells[fence.index]? := by
  unfold Fences.settleByCaller
  split
  · rename_i isCallers
    have different : settled.index ≠ fence.index := by
      intro same
      have origins : fences.origin? settled = fences.origin? fence := by
        simp [Fences.origin?, same]
      rw [isCallers, created] at origins
      cases origins
    simp [Fences.settle, Array.getElem?_modify, different]
  · rfl

theorem quiet_settleFence (device : Device) (outcome : FenceStatus) (fence : Fence) :
    Quiet device (device.settleFence outcome fence) where
  options := rfl
  issued := rfl
  live := rfl
  pending := rfl
  lost := rfl
  events := rfl
  fences := fun _ created => settleByCaller_getElem? created

theorem signalNext_step (device : Device) : Step device device.signalNext.2 := by
  unfold signalNext
  cases found : device.pending with
  | nil => exact .quiet (.refl device)
  | cons fence rest =>
      have split : device.pending = [fence] ++ rest := found
      exact .signal split

theorem signalAll_step (device : Device) : Step device device.signalAll :=
  .signal (List.append_nil _).symm

theorem arrive_steps (device : Device) (call : ContextCall) :
    Steps device (device.arrive call) := by
  have counted : Steps device (device.countDown call) := .single (.quiet (quiet_countDown _ _))
  unfold arrive
  dsimp only
  split
  · exact counted.tail .lose
  · exact counted

theorem arrive_quiet {device : Device} {call : ContextCall}
    (usable : (device.arrive call).lost = false) : Quiet device (device.arrive call) := by
  unfold arrive at usable ⊢
  dsimp only at usable ⊢
  split at usable
  · cases usable
  · rename_i undue
    rw [if_neg undue]
    exact quiet_countDown device call

theorem checkLost_steps (device : Device) : Steps device device.checkLost.2 :=
  arrive_steps device .checkLost

theorem checkLost_lost (device : Device) : device.checkLost.2.lost = device.checkLost.1 := rfl

theorem await_steps (device : Device) (fence : Fence) : Steps device (device.await fence).2 := by
  unfold await
  dsimp only
  split
  · exact .single .lose
  · exact .refl

theorem finish_steps (device : Device) : Steps device device.finish.2 :=
  (arrive_steps device .finish).tail .finish

theorem finish_failed {device : Device} (failed : device.finish.1 = false) :
    device.finish.2.lost = true := by
  unfold finish acceptFinish at failed ⊢
  split
  · assumption
  · rename_i usable
    rw [if_neg usable] at failed
    cases failed

theorem finish_usable {device : Device} (drained : device.finish.1 = true) :
    (device.arrive .finish).lost = false := by
  unfold finish acceptFinish at drained
  split at drained
  · cases drained
  · rename_i usable
    simpa using usable

theorem acceptFinish_drained {device : Device} (usable : device.lost = false) :
    History.Drained device.acceptFinish.2.events := by
  unfold acceptFinish
  rw [if_neg (by simp [usable])]
  exact .inr ⟨rfl, .inl rfl⟩

theorem finish_drained {device : Device} (drained : device.finish.1 = true) :
    History.Drained device.finish.2.events :=
  acceptFinish_drained (finish_usable drained)

/-! ## What no step changes -/

/-- The events that a step adds concern no image. -/
structure Extends (before after : Device) : Prop where
  issued : after.issued = before.issued
  live : after.live = before.live
  lost : before.lost = true → after.lost = true
  events : ∃ added : History, after.events = added ++ before.events ∧
    ∀ event ∈ added, event.isInert = true ∧ event.isFlush = false

theorem Extends.refl (device : Device) : Extends device device :=
  ⟨rfl, rfl, id, [], rfl, by simp⟩

theorem Extends.trans {first second third : Device} (left : Extends first second)
    (right : Extends second third) : Extends first third := by
  obtain ⟨before, beforeEq, beforeInert⟩ := left.events
  obtain ⟨after, afterEq, afterInert⟩ := right.events
  refine ⟨right.issued.trans left.issued, right.live.trans left.live,
    right.lost ∘ left.lost, after ++ before, ?_, ?_⟩
  · rw [afterEq, beforeEq, List.append_assoc]
  · intro event member
    rcases List.mem_append.mp member with late | early
    · exact afterInert event late
    · exact beforeInert event early

namespace Extends

variable {before after : Device}

theorem created (extension : Extends before after) :
    History.created after.events = History.created before.events := by
  obtain ⟨added, events, quiet⟩ := extension.events
  rw [events, History.inert_append_created fun event member => (quiet event member).1]

theorem destroyed (extension : Extends before after) :
    History.destroyed after.events = History.destroyed before.events := by
  obtain ⟨added, events, quiet⟩ := extension.events
  rw [events, History.inert_append_destroyed fun event member => (quiet event member).1]

theorem draws (extension : Extends before after) : after.draws = before.draws := by
  obtain ⟨added, events, quiet⟩ := extension.events
  have none : added.filterMap DeviceEvent.draw? = [] :=
    List.filterMap_eq_nil_iff.mpr fun event member =>
      DeviceEvent.draw?_of_isInert (quiet event member).1
  simp [Device.draws, history, eventsSince, events, List.filterMap_reverse, none]

theorem misuses (extension : Extends before after) : after.misuses = before.misuses := by
  obtain ⟨added, events, quiet⟩ := extension.events
  have none : added.filterMap DeviceEvent.misuse? = [] :=
    List.filterMap_eq_nil_iff.mpr fun event member =>
      DeviceEvent.misuse?_of_isInert (quiet event member).1
  simp [Device.misuses, history, eventsSince, events, List.filterMap_reverse, none]

end Extends

theorem Step.extends {before after : Device} (step : Step before after) :
    Extends before after := by
  cases step with
  | quiet same =>
      exact ⟨same.issued, same.live, fun lost => same.lost.trans lost, [], same.events, by simp⟩
  | lose =>
      exact ⟨rfl, rfl, fun _ => rfl, [.lost, .settled .error before.pending], rfl,
        by simp [DeviceEvent.isInert, DeviceEvent.isFlush]⟩
  | signal =>
      exact ⟨rfl, rfl, id, [_], rfl, by simp [DeviceEvent.isInert, DeviceEvent.isFlush]⟩
  | request =>
      exact ⟨rfl, rfl, id, [_], rfl, by simp [DeviceEvent.isInert, DeviceEvent.isFlush]⟩
  | finish =>
      unfold acceptFinish
      split
      · exact ⟨rfl, rfl, id, [_], rfl, by simp [DeviceEvent.isInert, DeviceEvent.isFlush]⟩
      · exact ⟨rfl, rfl, id, [_, _], rfl, by simp [DeviceEvent.isInert, DeviceEvent.isFlush]⟩

theorem Steps.extends {before after : Device} (steps : Steps before after) :
    Extends before after := by
  induction steps with
  | refl => exact .refl before
  | tail _ step ih => exact ih.trans step.extends

end Compositor.Device
