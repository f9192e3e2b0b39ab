import Compositor.Proofs.Device.Effects

/-!
# The pending fences of a device

The pending fences are a queue: they settle from its front, and a flush puts a new one at its back.
Nothing waits on a device that signals at once, nor on one that was drained after its latest flush.
-/

set_option autoImplicit false

namespace Compositor

namespace Fences

theorem settle_origin? (fences : Fences) (outcome : FenceStatus) (settled fence : Fence) :
    (fences.settle outcome settled).origin? fence = fences.origin? fence := by
  unfold origin? settle
  rw [Array.getElem?_modify]
  split
  · cases fences.cells[fence.index]? with
    | none => rfl
    | some cell =>
        by_cases waits : cell.status = .pending <;> simp [waits]
  · rfl

theorem settleAll_origin? (outcome : FenceStatus) (fence : Fence) :
    ∀ (settled : List Fence) (fences : Fences),
      (fences.settleAll outcome settled).origin? fence = fences.origin? fence
  | [], _ => rfl
  | head :: rest, fences => by
      have later := settleAll_origin? outcome fence rest (fences.settle outcome head)
      rw [settle_origin?] at later
      exact later

end Fences

theorem History.Drained.of_cons {event : DeviceEvent} {earlier : History}
    (drained : Drained (event :: earlier)) (other : event ≠ .finished true) :
    event.isFlush = false ∧ Drained earlier :=
  drained.resolve_left other

namespace Device

variable {before after : Device}

/-! ## Fences of a device stay its own -/

/-- The device itself made this fence. -/
def Made (device : Device) (fence : Fence) : Prop := device.fences.origin? fence = some .device

theorem HasSettled.made {device : Device} {fence : Fence} {outcome : FenceStatus}
    (settled : device.HasSettled fence outcome) : device.Made fence := by
  simp [Made, Fences.origin?, settled.2]

theorem Fenced.made {device : Device} (fenced : device.Fenced) {fence : Fence}
    (waits : fence ∈ device.pending) : device.Made fence := by
  simp [Made, Fences.origin?, fenced.pending fence waits]

theorem nextFence_unmade (device : Device) : ¬device.Made device.nextFence := by
  intro made
  exact Nat.lt_irrefl _ (origin_lt_size made)

theorem made_settle {device : Device} {outcome : FenceStatus} {fences : List Fence} {fence : Fence}
    (made : device.Made fence) : (device.settle outcome fences).Made fence :=
  (Fences.settleAll_origin? outcome fence fences device.fences).trans made

theorem made_create {device : Device} {fence : Fence} (made : device.Made fence)
    (origin : FenceOrigin) (status : FenceStatus) :
    (device.fences.create origin status).2.origin? fence = some .device := by
  unfold Made Fences.origin? at made
  rw [Fences.origin?, create_getElem? _ _ _ (origin_lt_size made)]
  exact made

theorem Step.made (step : Step before after) {fence : Fence} (made : before.Made fence) :
    after.Made fence := by
  cases step with
  | quiet same =>
      unfold Made Fences.origin?
      rw [same.fences fence made]
      exact made
  | lose => exact made_settle made
  | signal => exact made_settle made
  | request => exact made
  | finish =>
      unfold acceptFinish
      split
      · exact made
      · exact made_settle made

theorem Effect.made (effect : Effect before after) {fence : Fence} (made : before.Made fence) :
    after.Made fence := by
  cases effect with
  | step step => exact step.made made
  | issue => exact made
  | destroy =>
      unfold acceptDestroy release
      split <;> exact made
  | note => exact made
  | flush flushes =>
      cases flushes with
      | unfenced => exact made
      | waiting => exact made_create made .device .pending
      | signaled =>
          have opened : before.opened.Made fence := made_create made .device .pending
          exact made_settle opened

theorem Effects.made (effects : Effects before after) {fence : Fence} (made : before.Made fence) :
    after.Made fence := by
  induction effects with
  | refl => exact made
  | tail _ effect ih => exact effect.made ih

/-! ## Fences leave the queue at its front -/

/-- The device has settled this fence. -/
def Resolved (device : Device) (fence : Fence) : Prop :=
  ∃ outcome, device.HasSettled fence outcome

theorem Resolved.made {device : Device} {fence : Fence} (resolved : device.Resolved fence) :
    device.Made fence := by
  obtain ⟨_, settled⟩ := resolved
  exact settled.made

theorem Resolved.status {device : Device} {fence : Fence} (resolved : device.Resolved fence) :
    device.fences.status fence ≠ .pending := by
  obtain ⟨outcome, settled⟩ := resolved
  rw [settled.status]
  exact settled.1

theorem Made.resolved {device : Device} {fence : Fence} (made : device.Made fence)
    (settled : device.fences.isPending fence = false) : device.Resolved fence := by
  obtain ⟨cell, found, origin⟩ := Option.map_eq_some_iff.mp made
  have final : cell.status ≠ .pending := by
    simpa [Fences.isPending, Fences.status, found] using settled
  exact ⟨cell.status, final, by rw [found, ← origin]⟩

/-- A fence that was given either waits or has settled. -/
theorem Fenced.resolved {device : Device} (fenced : device.Fenced) {fence : Fence}
    (given : .flushed (some fence) ∈ device.events) (absent : fence ∉ device.pending) :
    device.Resolved fence := by
  obtain ⟨since, earlier, split⟩ := List.append_of_mem given
  have submitted : History.Submitted device.events (some fence) (History.recorded earlier) since :=
    ⟨earlier, split, rfl⟩
  obtain ⟨outcome, settled⟩ := (fenced.settled _ _ _ submitted).resolve_left absent
  refine ⟨outcome, fenced.told outcome fence ?_⟩
  rw [split]
  exact settled.within _

theorem Fenced.isPending_iff {device : Device} (fenced : device.Fenced) {fence : Fence}
    (given : .flushed (some fence) ∈ device.events) :
    device.fences.isPending fence = true ↔ fence ∈ device.pending := by
  constructor
  · intro waits
    by_contra absent
    exact (fenced.resolved given absent).status (by simpa [Fences.isPending] using waits)
  · exact fenced.isPending

theorem Effect.resolved (effect : Effect before after) {fence : Fence}
    (resolved : before.Resolved fence) : after.Resolved fence := by
  obtain ⟨outcome, settled⟩ := resolved
  exact ⟨outcome, effect.hasSettled settled⟩

theorem Effects.resolved (effects : Effects before after) {fence : Fence}
    (resolved : before.Resolved fence) : after.Resolved fence := by
  induction effects with
  | refl => exact resolved
  | tail _ effect ih => exact effect.resolved ih

theorem Fenced.resolves {device : Device} (fenced : device.Fenced) {outcome : FenceStatus}
    (final : outcome ≠ .pending) {done : List Fence} (waited : done ⊆ device.pending) :
    ∀ fence ∈ done, (device.settle outcome done).Resolved fence := fun fence member =>
  ⟨outcome, final,
    Fences.settleAll_mem final done device.fences member (fenced.pending fence (waited member))⟩

/-- Some fences at the front of the queue have settled; the others still wait. -/
def Drains (before after : Device) : Prop :=
  ∃ done, before.pending = done ++ after.pending ∧ ∀ fence ∈ done, after.Resolved fence

theorem Drains.of_same (same : after.pending = before.pending) : Drains before after :=
  ⟨[], same.symm, by simp⟩

theorem Fenced.acceptFinish_drains {device : Device} (fenced : device.Fenced) :
    Drains device device.acceptFinish.2 := by
  unfold Device.acceptFinish
  split
  · exact .of_same rfl
  · have finished : (device.log (.finished true)).Fenced := fenced.log rfl
    exact ⟨device.pending, (List.append_nil _).symm,
      finished.resolves (by decide) (List.Subset.refl _)⟩

theorem acceptFinish_pending {device : Device} (usable : device.lost = false) :
    device.acceptFinish.2.pending = [] := by
  unfold acceptFinish
  rw [if_neg (by simp [usable])]
  rfl

theorem Step.drains (step : Step before after) (fenced : before.Fenced) : Drains before after := by
  cases step with
  | quiet same => exact .of_same same.pending
  | lose =>
      exact ⟨before.pending, (List.append_nil _).symm,
        fenced.resolves (by decide) (List.Subset.refl _)⟩
  | signal split =>
      refine ⟨_, split, fenced.resolves (by decide) ?_⟩
      rw [split]
      exact List.subset_append_left _ _
  | request => exact .of_same rfl
  | finish => exact fenced.acceptFinish_drains

theorem Steps.drains (steps : Steps before after) (fenced : before.Fenced) :
    Drains before after := by
  induction steps with
  | refl => exact .of_same rfl
  | @tail middle after path step ih =>
      obtain ⟨first, front, settled⟩ := ih
      have middleFenced := Steps.fenced path fenced
      obtain ⟨second, next, later⟩ := step.drains middleFenced
      refine ⟨first ++ second, by rw [front, next, List.append_assoc], fun fence member => ?_⟩
      rcases List.mem_append.mp member with early | late
      · exact (Effect.step step).resolved (settled fence early)
      · exact later fence late

/-- A flush lets nothing settle that waited before it. -/
theorem Flushes.pending_subset {fence : Option Fence} (flushes : Flushes before fence after) :
    before.pending ⊆ after.pending := by
  cases flushes with
  | unfenced | signaled => exact List.Subset.refl _
  | waiting => exact List.subset_append_left _ _

/-! ## When nothing waits -/

structure Timely (device : Device) : Prop where
  immediate : device.options.autoSignal = true → device.pending = []
  drained : History.Drained device.events → device.pending = []

namespace Timely

variable {device : Device}

theorem new (options : DeviceOptions) : (Device.new options).Timely :=
  ⟨fun _ => rfl, fun _ => rfl⟩

/-- A call that lets no fence wait keeps the queue empty, unless it ends what was drained. -/
theorem log (timely : device.Timely) {event : DeviceEvent} (other : event ≠ .finished true) :
    (device.log event).Timely :=
  ⟨timely.immediate, fun drained => timely.drained (drained.of_cons other).2⟩

theorem idle (device : Device) (nothing : device.pending = []) : device.Timely :=
  ⟨fun _ => nothing, fun _ => nothing⟩

theorem signal (timely : device.Timely) {done waiting : List Fence}
    (split : device.pending = done ++ waiting) :
    ({ device.settle .signaled done with pending := waiting } : Device).Timely := by
  have rest : device.pending = [] → waiting = [] := fun nothing => by
    rw [nothing] at split
    exact (List.append_eq_nil_iff.mp split.symm).2
  exact ⟨fun signals => rest (timely.immediate signals), fun drained =>
    rest (timely.drained (drained.of_cons (by simp)).2)⟩

theorem acceptFinish (timely : device.Timely) : device.acceptFinish.2.Timely := by
  unfold Device.acceptFinish
  split
  · exact timely.log (by simp)
  · exact idle _ rfl

theorem step (timely : before.Timely) (step : Step before after) : after.Timely := by
  cases step with
  | quiet same =>
      refine ⟨fun signals => ?_, fun drained => ?_⟩
      · rw [same.options] at signals
        exact same.pending.trans (timely.immediate signals)
      · rw [same.events] at drained
        exact same.pending.trans (timely.drained drained)
  | lose => exact idle _ rfl
  | signal split => exact timely.signal split
  | request => exact timely.log (by simp)
  | finish => exact timely.acceptFinish

theorem acceptDestroy (timely : device.Timely) (mode : Mode) (handle : ImageHandle) :
    (device.acceptDestroy mode handle).Timely := by
  have handed : (device.log (.handed mode .destroy [handle])).Timely := timely.log (by simp)
  unfold Device.acceptDestroy release
  split
  · exact handed.log (by simp)
  · exact ⟨handed.immediate, fun drained => handed.drained (drained.of_cons (by simp)).2⟩

theorem flush {fence : Option Fence} (timely : before.Timely)
    (flushes : Flushes before fence after) : after.Timely := by
  have undrained : ∀ {given : Option Fence} {earlier : History},
      ¬History.Drained (.flushed given :: earlier) := by
    intro given earlier drained
    cases (drained.of_cons (by simp)).1
  cases flushes with
  | unfenced => exact ⟨timely.immediate, fun drained => absurd drained undrained⟩
  | signaled _ signals =>
      exact ⟨timely.immediate, fun _ => timely.immediate signals⟩
  | waiting _ waits =>
      exact ⟨fun signals => absurd (waits.symm.trans signals) (by simp),
        fun drained => absurd drained undrained⟩

theorem effect (timely : before.Timely) (effect : Effect before after) : after.Timely := by
  cases effect with
  | step step => exact timely.step step
  | issue => exact ⟨timely.immediate, fun drained => timely.drained (drained.of_cons (by simp)).2⟩
  | destroy => exact timely.acceptDestroy _ _
  | note note =>
      refine timely.log fun same => ?_
      rw [same] at note
      cases note
  | flush flushes => exact timely.flush flushes

theorem effects (timely : before.Timely) (effects : Effects before after) : after.Timely := by
  induction effects with
  | refl => exact timely
  | tail _ effect ih => exact ih.effect effect

end Timely

end Device

end Compositor
