import Compositor.Proofs.Device.Fences

/-!
# Effects on a device

Whatever an engine or a script does to a device is a series of a few effects. They keep the order of
the fences, a settled fence stays settled, and nothing is destroyed but at the request of a context.
-/

set_option autoImplicit false

namespace Compositor

/-- Destruction answers a request of a context at once. -/
def DeviceEvent.Prompted (event : DeviceEvent) (earlier : History) : Prop :=
  match event with
  | .destroyed handle => ∃ mode rest, earlier = .handed mode .destroy [handle] :: rest
  | _ => True

/-- Holds for the events that a device notes without anything else to it. -/
def DeviceEvent.isNote : DeviceEvent → Bool
  | .handed .. | .misused _ | .began .. | .drawn _ => true
  | _ => false

namespace Device

inductive Effect : Device → Device → Prop where
  | step {before after : Device} : Step before after → Effect before after
  | issue {device : Device} {mode : Mode} {kind : ImageKind} {buffer : BufferId} :
      Effect device (device.issue mode kind buffer).2
  | destroy {device : Device} {mode : Mode} {handle : ImageHandle} :
      Effect device (device.acceptDestroy mode handle)
  | note {device : Device} {event : DeviceEvent} : event.isNote = true →
      Effect device (device.log event)
  | flush {before after : Device} {fence : Option Fence} : Flushes before fence after →
      Effect before after

abbrev Effects : Device → Device → Prop := Relation.ReflTransGen Effect

theorem Effects.ofSteps {before after : Device} (steps : Steps before after) :
    Effects before after := by
  induction steps with
  | refl => exact .refl
  | tail _ step ih => exact ih.tail (.step step)

/-! ## Histories -/

theorem acceptDestroy_events (device : Device) (mode : Mode) (handle : ImageHandle) :
    ∃ event, (device.acceptDestroy mode handle).events =
        event :: .handed mode .destroy [handle] :: device.events ∧
      (event = .destroyed handle ∨ event.isNote = true) := by
  unfold acceptDestroy release
  split
  · exact ⟨_, rfl, .inr rfl⟩
  · exact ⟨_, rfl, .inl rfl⟩

theorem acceptDestroy_fences (device : Device) (mode : Mode) (handle : ImageHandle) :
    (device.acceptDestroy mode handle).fences = device.fences := by
  unfold acceptDestroy release
  split <;> rfl

theorem acceptDestroy_lost (device : Device) (mode : Mode) (handle : ImageHandle) :
    (device.acceptDestroy mode handle).lost = device.lost := by
  unfold acceptDestroy release
  split <;> rfl

theorem acceptDestroy_pending (device : Device) (mode : Mode) (handle : ImageHandle) :
    (device.acceptDestroy mode handle).pending = device.pending := by
  unfold acceptDestroy release
  split <;> rfl

theorem isInert_prompted {event : DeviceEvent} (inert : event.isInert = true)
    (earlier : History) : event.Prompted earlier := by
  cases event <;> first | exact trivial | cases inert

theorem isNote_prompted {event : DeviceEvent} (note : event.isNote = true)
    (earlier : History) : event.Prompted earlier := by
  cases event <;> first | exact trivial | cases note

theorem isNote_silent {event : DeviceEvent} (note : event.isNote = true) :
    event.concernsFences = false := by
  cases event <;> first | rfl | cases note

theorem Effect.events {before after : Device} (effect : Effect before after) :
    ∃ added : History, after.events = added ++ before.events := by
  cases effect with
  | step step =>
      obtain ⟨added, events, -⟩ := step.extends.events
      exact ⟨added, events⟩
  | issue => exact ⟨[_], rfl⟩
  | destroy =>
      obtain ⟨event, events, -⟩ := acceptDestroy_events before _ _
      exact ⟨[_, _], events⟩
  | note => exact ⟨[_], rfl⟩
  | flush flushes =>
      obtain ⟨added, events, -⟩ := flushes.events
      exact ⟨added ++ [.flushed _], by rw [events, List.append_assoc, List.singleton_append]⟩

theorem Effect.prompted {before after : Device} (effect : Effect before after)
    (prompted : History.Always DeviceEvent.Prompted before.events) :
    History.Always DeviceEvent.Prompted after.events := by
  cases effect with
  | step step =>
      obtain ⟨added, events, inert⟩ := step.extends.events
      rw [events]
      exact prompted.append fun event member => isInert_prompted (inert event member).1
  | issue => exact ⟨trivial, prompted⟩
  | @destroy mode handle =>
      obtain ⟨event, events, destroyed | note⟩ := acceptDestroy_events before mode handle
      · rw [events, destroyed]
        exact ⟨⟨mode, _, rfl⟩, trivial, prompted⟩
      · rw [events]
        exact ⟨isNote_prompted note _, trivial, prompted⟩
  | note note => exact ⟨isNote_prompted note _, prompted⟩
  | @flush _ fence flushes =>
      obtain ⟨added, events, inert⟩ := flushes.events
      rw [events]
      have flushed : History.Always DeviceEvent.Prompted (.flushed fence :: before.events) :=
        ⟨trivial, prompted⟩
      exact flushed.append fun event member => isInert_prompted (inert event member).1

/-! ## Fences -/

theorem Effect.fenced {before after : Device} (effect : Effect before after)
    (fenced : before.Fenced) : after.Fenced := by
  cases effect with
  | step step => exact fenced.step step
  | issue => exact (fenced.onImages _ _).log rfl
  | destroy => exact fenced.acceptDestroy _ _
  | note note => exact fenced.log (isNote_silent note)
  | flush flushes => exact fenced.flush flushes

/-- A fence of the device has settled. -/
def HasSettled (device : Device) (fence : Fence) (outcome : FenceStatus) : Prop :=
  outcome ≠ .pending ∧ device.fences.cells[fence.index]? = some ⟨outcome, .device⟩

namespace HasSettled

variable {device : Device} {fence : Fence} {outcome : FenceStatus}

theorem status (settled : device.HasSettled fence outcome) :
    device.fences.status fence = outcome := by
  simp [Fences.status, settled.2]

theorem settleAll (settled : device.HasSettled fence outcome) (other : FenceStatus)
    (fences : List Fence) : (device.settle other fences).HasSettled fence outcome :=
  ⟨settled.1, Fences.settleAll_settled settled.1 fences device.fences settled.2⟩

theorem create (settled : device.HasSettled fence outcome) (origin : FenceOrigin)
    (status : FenceStatus) :
    (device.fences.create origin status).2.cells[fence.index]? = some ⟨outcome, .device⟩ := by
  have created : device.fences.origin? fence = some .device := by
    simp [Fences.origin?, settled.2]
  rw [create_getElem? _ _ _ (origin_lt_size created)]
  exact settled.2

theorem acceptFinish (settled : device.HasSettled fence outcome) :
    device.acceptFinish.2.HasSettled fence outcome := by
  unfold Device.acceptFinish
  split
  · exact settled
  · exact settled.settleAll .signaled device.pending

end HasSettled

theorem Step.hasSettled {before after : Device} (step : Step before after) {fence : Fence}
    {outcome : FenceStatus} (settled : before.HasSettled fence outcome) :
    after.HasSettled fence outcome := by
  cases step with
  | quiet same =>
      refine ⟨settled.1, ?_⟩
      rw [same.fences fence (by simp [Fences.origin?, settled.2])]
      exact settled.2
  | lose => exact settled.settleAll .error before.pending
  | signal => exact settled.settleAll .signaled _
  | request => exact settled
  | finish => exact settled.acceptFinish

theorem Effect.hasSettled {before after : Device} (effect : Effect before after) {fence : Fence}
    {outcome : FenceStatus} (settled : before.HasSettled fence outcome) :
    after.HasSettled fence outcome := by
  cases effect with
  | step step => exact step.hasSettled settled
  | issue => exact settled
  | destroy =>
      unfold acceptDestroy release
      split <;> exact settled
  | note => exact settled
  | flush flushes =>
      cases flushes with
      | unfenced => exact settled
      | waiting => exact ⟨settled.1, settled.create .device .pending⟩
      | signaled =>
          have opened : before.opened.HasSettled fence outcome :=
            ⟨settled.1, settled.create .device .pending⟩
          exact opened.settleAll .signaled _

/-- A submission gave this fence, or it had settled when it was given. -/
def Owes (device : Device) (fence : Fence) : Prop :=
  (∃ used since, History.Submitted device.events (some fence) used since) ∨
    ∃ outcome, device.HasSettled fence outcome

theorem Effect.owes {before after : Device} (effect : Effect before after) {fence : Fence}
    (owes : before.Owes fence) : after.Owes fence := by
  rcases owes with ⟨used, since, earlier, split, same⟩ | ⟨outcome, settled⟩
  · obtain ⟨added, events⟩ := effect.events
    exact .inl ⟨used, added ++ since, earlier, by rw [events, split, List.append_assoc], same⟩
  · exact .inr ⟨outcome, effect.hasSettled settled⟩

/-- Where nothing is pending, every fence that was ever given has settled. -/
theorem Owes.status {device : Device} {fence : Fence} (owes : device.Owes fence)
    (fenced : device.Fenced) (idle : device.pending = []) :
    device.fences.status fence ≠ .pending := by
  rcases owes with ⟨used, since, submitted⟩ | ⟨outcome, settled⟩
  · rcases fenced.settled fence used since submitted with waits | ⟨outcome, told⟩
    · rw [idle] at waits
      cases waits
    · obtain ⟨earlier, split, -⟩ := submitted
      have known : History.Settled outcome fence device.events := by
        rw [split]
        exact told.within _
      have settled : device.HasSettled fence outcome := fenced.told outcome fence known
      rw [settled.status]
      exact settled.1
  · rw [settled.status]
    exact settled.1

/-! ## All effects -/

namespace Effects

variable {before after : Device}

theorem events (effects : Effects before after) :
    ∃ added : History, after.events = added ++ before.events := by
  induction effects with
  | refl => exact ⟨[], rfl⟩
  | tail _ effect ih =>
      obtain ⟨earlier, known⟩ := ih
      obtain ⟨later, told⟩ := effect.events
      exact ⟨later ++ earlier, by rw [told, known, List.append_assoc]⟩

theorem prompted (effects : Effects before after)
    (prompted : History.Always DeviceEvent.Prompted before.events) :
    History.Always DeviceEvent.Prompted after.events := by
  induction effects with
  | refl => exact prompted
  | tail _ effect ih => exact effect.prompted ih

theorem fenced (effects : Effects before after) (fenced : before.Fenced) : after.Fenced := by
  induction effects with
  | refl => exact fenced
  | tail _ effect ih => exact effect.fenced ih

theorem hasSettled (effects : Effects before after) {fence : Fence} {outcome : FenceStatus}
    (settled : before.HasSettled fence outcome) : after.HasSettled fence outcome := by
  induction effects with
  | refl => exact settled
  | tail _ effect ih => exact effect.hasSettled ih

theorem owes (effects : Effects before after) {fence : Fence} (owes : before.Owes fence) :
    after.Owes fence := by
  induction effects with
  | refl => exact owes
  | tail _ effect ih => exact effect.owes ih

end Effects

end Device

end Compositor
