import Compositor.Proofs.Device.Step

/-!
# Fences of a device

A fence that a flush gave is pending until its settling stands in the history. Nothing but the loss
of the device lets a fence fail, and a lost device has no pending fence.
-/

set_option autoImplicit false

namespace Compositor

namespace Fences

theorem settle_getElem? (fences : Fences) (outcome : FenceStatus) {settled fence : Fence}
    (different : fence ≠ settled) :
    (fences.settle outcome settled).cells[fence.index]? = fences.cells[fence.index]? := by
  have apart : settled.index ≠ fence.index := by
    intro same
    apply different
    cases fence
    cases settled
    simp_all
  simp [settle, Array.getElem?_modify, apart]

theorem settleAll_getElem? (outcome : FenceStatus) {fence : Fence} :
    ∀ (settled : List Fence) (fences : Fences), fence ∉ settled →
      (fences.settleAll outcome settled).cells[fence.index]? = fences.cells[fence.index]?
  | [], _, _ => rfl
  | head :: rest, fences, outside => by
      rw [List.mem_cons, not_or] at outside
      have later := settleAll_getElem? outcome rest (fences.settle outcome head) outside.2
      rw [settle_getElem? fences outcome outside.1] at later
      exact later

theorem settle_self (fences : Fences) (outcome : FenceStatus) {fence : Fence} {cell : FenceCell}
    (found : fences.cells[fence.index]? = some cell) :
    (fences.settle outcome fence).cells[fence.index]? =
      some (if cell.status = .pending then { cell with status := outcome } else cell) := by
  simp [settle, Array.getElem?_modify, found]

theorem settleAll_settled {outcome : FenceStatus} {fence : Fence} {cell : FenceCell}
    (final : cell.status ≠ .pending) :
    ∀ (settled : List Fence) (fences : Fences), fences.cells[fence.index]? = some cell →
      (fences.settleAll outcome settled).cells[fence.index]? = some cell
  | [], _, found => found
  | head :: rest, fences, found => by
      refine settleAll_settled final rest (fences.settle outcome head) ?_
      by_cases same : fence = head
      · rw [← same, settle_self fences outcome found, if_neg final]
      · rw [settle_getElem? fences outcome same]
        exact found

theorem settleAll_mem {outcome : FenceStatus} {fence : Fence} {origin : FenceOrigin}
    (final : outcome ≠ .pending) :
    ∀ (settled : List Fence) (fences : Fences), fence ∈ settled →
      fences.cells[fence.index]? = some ⟨.pending, origin⟩ →
      (fences.settleAll outcome settled).cells[fence.index]? = some ⟨outcome, origin⟩
  | head :: rest, fences, member, found => by
      by_cases same : fence = head
      · have first := settle_self fences outcome found
        rw [if_pos rfl] at first
        rw [← same]
        exact settleAll_settled final rest _ first
      · refine settleAll_mem final rest (fences.settle outcome head) ?_ ?_
        · exact (List.mem_cons.mp member).resolve_left same
        · rw [settle_getElem? fences outcome same]
          exact found

end Fences

namespace Device

structure Fenced (device : Device) : Prop where
  pending : ∀ fence ∈ device.pending,
    device.fences.cells[fence.index]? = some ⟨.pending, .device⟩
  nodup : device.pending.Nodup
  idle : device.lost = true → device.pending = []
  lost_iff : device.lost = true ↔ .lost ∈ device.events
  told : ∀ outcome fence, History.Settled outcome fence device.events →
    outcome ≠ .pending ∧ device.fences.cells[fence.index]? = some ⟨outcome, .device⟩
  outcome : device.lost = false → ∀ outcome fence, History.Settled outcome fence device.events →
    outcome = .signaled
  settled : ∀ fence used since, History.Submitted device.events (some fence) used since →
    fence ∈ device.pending ∨ ∃ outcome, History.Settled outcome fence since

namespace Fenced

variable {device : Device}

theorem new (options : DeviceOptions) : Fenced (Device.new options) where
  pending := by simp [Device.new]
  nodup := .nil
  idle := fun _ => rfl
  lost_iff := by simp [Device.new]
  told := by simp [Device.new, History.Settled]
  outcome := by simp [Device.new, History.Settled]
  settled := by simp [Device.new, History.Submitted]

theorem isPending (fenced : device.Fenced) {fence : Fence} (waits : fence ∈ device.pending) :
    device.fences.isPending fence = true := by
  simp [Fences.isPending, Fences.status, fenced.pending fence waits]

theorem pending_lt_size (fenced : device.Fenced) {fence : Fence} (waits : fence ∈ device.pending) :
    fence.index < device.fences.cells.size := by
  have created : device.fences.origin? fence = some .device := by
    simp [Fences.origin?, fenced.pending fence waits]
  exact origin_lt_size created

/-- Fences do not depend on the images that there are. -/
theorem onImages (fenced : device.Fenced) (issued : Nat) (live : List LiveImage) :
    ({ device with issued, live } : Device).Fenced :=
  ⟨fenced.pending, fenced.nodup, fenced.idle, fenced.lost_iff, fenced.told, fenced.outcome,
    fenced.settled⟩

/-- On a device that is not lost, a submission whose fence no longer waits has completed. -/
theorem completed (fenced : device.Fenced) (usable : device.lost = false) {fence : Fence}
    {used : List ImageHandle} {since : History}
    (submitted : History.Submitted device.events (some fence) used since)
    (settled : fence ∉ device.pending) : History.Completed (some fence) since := by
  obtain ⟨outcome, found⟩ := (fenced.settled fence used since submitted).resolve_left settled
  obtain ⟨earlier, split, -⟩ := submitted
  have known : History.Settled outcome fence device.events := by
    rw [split]
    exact found.within _
  cases fenced.outcome usable outcome fence known
  exact .inr ⟨fence, rfl, found⟩

theorem log (fenced : device.Fenced) {event : DeviceEvent}
    (silent : event.concernsFences = false) : (device.log event).Fenced := by
  have known : ∀ outcome fence, History.Settled outcome fence (event :: device.events) →
      History.Settled outcome fence device.events := by
    intro outcome fence settled
    rcases settled.of_cons with ⟨fences, same, -⟩ | earlier
    · rw [same] at silent
      cases silent
    · exact earlier
  have loses : .lost ≠ event := by
    intro same
    rw [← same] at silent
    cases silent
  refine ⟨fenced.pending, fenced.nodup, fenced.idle, ?_, ?_, ?_, ?_⟩
  · simpa [Device.log, loses] using fenced.lost_iff
  · exact fun outcome fence settled => fenced.told outcome fence (known outcome fence settled)
  · exact fun usable outcome fence settled =>
      fenced.outcome usable outcome fence (known outcome fence settled)
  · intro fence used since submitted
    rcases History.submitted_cons_iff.mp submitted with ⟨-, same, -⟩ | ⟨before, rfl, found⟩
    · rw [same] at silent
      cases silent
    · rcases fenced.settled fence used before found with waits | ⟨outcome, settled⟩
      · exact .inl waits
      · exact .inr ⟨outcome, settled.append [event]⟩

theorem acceptDestroy (fenced : device.Fenced) (mode : Mode) (handle : ImageHandle) :
    (device.acceptDestroy mode handle).Fenced := by
  unfold Device.acceptDestroy release
  split
  · exact (fenced.log rfl).log rfl
  · exact ((fenced.log rfl).onImages _ _).log rfl

theorem told_settle (fenced : device.Fenced) {outcome : FenceStatus} (final : outcome ≠ .pending)
    {done : List Fence} (pending : done ⊆ device.pending) {other : FenceStatus} {fence : Fence}
    (settled : History.Settled other fence (device.settle outcome done).events) :
    other ≠ .pending ∧
      (device.settle outcome done).fences.cells[fence.index]? = some ⟨other, .device⟩ := by
  rcases settled.of_cons with ⟨fences, same, inside⟩ | earlier
  · cases same
    exact ⟨final, Fences.settleAll_mem final done device.fences inside
      (fenced.pending fence (pending inside))⟩
  · obtain ⟨known, cell⟩ := fenced.told other fence earlier
    exact ⟨known, Fences.settleAll_settled known done device.fences cell⟩

theorem signal (fenced : device.Fenced) {done waiting : List Fence}
    (split : device.pending.Perm (done ++ waiting)) :
    ({ device.settle .signaled done with pending := waiting } : Device).Fenced := by
  obtain ⟨-, distinct, apart⟩ := List.nodup_append.mp (split.nodup_iff.mp fenced.nodup)
  have settles : done ⊆ device.pending := fun fence member =>
    split.mem_iff.mpr (List.mem_append_left _ member)
  refine ⟨fun fence waits => ?_, distinct, fun lost => ?_, ?_, ?_, ?_, ?_⟩
  · have outside : fence ∉ done := fun member => apart fence member fence waits rfl
    rw [← fenced.pending fence (split.mem_iff.mpr (List.mem_append_right _ waits))]
    exact Fences.settleAll_getElem? .signaled done device.fences outside
  · rw [fenced.idle lost] at split
    exact (List.append_eq_nil_iff.mp split.nil_eq.symm).2
  · simpa [Device.settle, Device.log] using fenced.lost_iff
  · exact fun outcome fence settled => fenced.told_settle (by decide) settles settled
  · intro usable outcome fence settled
    rcases settled.of_cons with ⟨fences, same, -⟩ | earlier
    · cases same
      rfl
    · exact fenced.outcome usable outcome fence earlier
  · intro fence used since submitted
    obtain ⟨before, rfl, found⟩ :=
      submitted.of_append [.settled .signaled done] (by simp [DeviceEvent.isFlush])
    rcases fenced.settled fence used before found with waits | ⟨outcome, settled⟩
    · rcases List.mem_append.mp (split.mem_iff.mp waits) with signaled | waits
      · exact .inr ⟨.signaled, done, List.mem_cons_self, signaled⟩
      · exact .inl waits
    · exact .inr ⟨outcome, settled.append _⟩

theorem lose (fenced : device.Fenced) : device.lose.Fenced where
  pending := by simp [Device.lose, Device.log]
  nodup := .nil
  idle := fun _ => rfl
  lost_iff := by simp [Device.lose, Device.log]
  told := fun outcome fence settled => by
    rcases settled.of_cons with ⟨fences, same, -⟩ | earlier
    · cases same
    · exact fenced.told_settle (by decide) (List.Subset.refl _) earlier
  outcome := by simp [Device.lose, Device.log]
  settled := fun fence used since submitted => by
    obtain ⟨before, rfl, found⟩ := submitted.of_append
      [.lost, .settled .error device.pending] (by simp [DeviceEvent.isFlush])
    rcases fenced.settled fence used before found with waits | ⟨outcome, settled⟩
    · exact .inr ⟨.error, device.pending, by simp, waits⟩
    · exact .inr ⟨outcome, settled.append _⟩

theorem quiet {before after : Device} (fenced : before.Fenced) (same : Quiet before after) :
    after.Fenced where
  pending := fun fence waits => by
    rw [same.pending] at waits
    have cell := fenced.pending fence waits
    rw [same.fences fence (by simp [Fences.origin?, cell]), cell]
  nodup := by
    rw [same.pending]
    exact fenced.nodup
  idle := by
    rw [same.lost, same.pending]
    exact fenced.idle
  lost_iff := by
    rw [same.lost, same.events]
    exact fenced.lost_iff
  told := fun outcome fence settled => by
    rw [same.events] at settled
    obtain ⟨known, cell⟩ := fenced.told outcome fence settled
    rw [same.fences fence (by simp [Fences.origin?, cell])]
    exact ⟨known, cell⟩
  outcome := by
    rw [same.lost, same.events]
    exact fenced.outcome
  settled := by
    rw [same.events, same.pending]
    exact fenced.settled

theorem acceptFinish (fenced : device.Fenced) : device.acceptFinish.2.Fenced := by
  unfold Device.acceptFinish
  split
  · exact fenced.log rfl
  · refine (fenced.log rfl).signal ?_
    exact .of_eq (List.append_nil _).symm

theorem step {before after : Device} (fenced : before.Fenced) (step : Step before after) :
    after.Fenced := by
  cases step with
  | quiet same => exact fenced.quiet same
  | lose => exact fenced.lose
  | signal split => exact fenced.signal (.of_eq split)
  | request => exact fenced.log rfl
  | finish => exact fenced.acceptFinish

end Fenced

theorem Steps.fenced {before after : Device} (steps : Steps before after)
    (fenced : before.Fenced) : after.Fenced := by
  induction steps with
  | refl => exact fenced
  | tail _ step ih => exact ih.step step

/-! ## Flushes -/

/-- The fence that the next flush may give. -/
def nextFence (device : Device) : Fence := ⟨device.fences.cells.size⟩

/-- A flush gave a fence, which is pending and belongs nowhere yet. -/
def opened (device : Device) : Device :=
  { device with fences := (device.fences.create .device .pending).2 }.log
    (.flushed (some device.nextFence))

/-- A flush gives no fence, one that signals at once, or one that joins those that wait. -/
inductive Flushes (before : Device) : Option Fence → Device → Prop where
  | unfenced : Flushes before none (before.log (.flushed none))
  | signaled : before.lost = false → before.options.autoSignal = true →
      Flushes before (some before.nextFence) (before.opened.settle .signaled [before.nextFence])
  | waiting : before.lost = false → before.options.autoSignal = false →
      Flushes before (some before.nextFence)
        { before.opened with pending := before.pending ++ [before.nextFence] }

theorem acceptFlush_flushes (device : Device) :
    Flushes device device.acceptFlush.1 device.acceptFlush.2 := by
  unfold acceptFlush
  split
  · exact .unfenced
  · rename_i usable
    have healthy : device.lost = false := by
      simp only [not_or, Bool.not_eq_true] at usable
      exact usable.1
    dsimp only
    split
    · rename_i signals
      exact .signaled healthy signals
    · rename_i waits
      exact .waiting healthy (Bool.eq_false_iff.mpr waits)

namespace Flushes

variable {before after : Device} {fence : Option Fence}

theorem issued (flushes : Flushes before fence after) : after.issued = before.issued := by
  cases flushes <;> rfl

theorem live (flushes : Flushes before fence after) : after.live = before.live := by
  cases flushes <;> rfl

theorem lost (flushes : Flushes before fence after) : after.lost = before.lost := by
  cases flushes <;> rfl

theorem usable {name : Fence} (flushes : Flushes before (some name) after) :
    before.lost = false := by
  cases flushes <;> assumption

theorem events (flushes : Flushes before fence after) :
    ∃ added : History, after.events = added ++ .flushed fence :: before.events ∧
      ∀ event ∈ added, event.isInert = true ∧ event.isFlush = false := by
  cases flushes with
  | unfenced => exact ⟨[], rfl, by simp⟩
  | signaled => exact ⟨[_], rfl, by simp [DeviceEvent.isInert, DeviceEvent.isFlush]⟩
  | waiting => exact ⟨[], rfl, by simp⟩

end Flushes

namespace Fenced

variable {device : Device}

theorem nextFence_not_mem (fenced : device.Fenced) : device.nextFence ∉ device.pending := by
  intro waits
  exact Nat.lt_irrefl _ (fenced.pending_lt_size waits)

/-- The fence of a flush joins those that wait. -/
theorem join (fenced : device.Fenced) (usable : device.lost = false) :
    ({ device.opened with pending := device.pending ++ [device.nextFence] } : Device).Fenced := by
  have known : ∀ outcome fence, History.Settled outcome fence device.opened.events →
      History.Settled outcome fence device.events := by
    intro outcome fence settled
    rcases settled.of_cons with ⟨fences, same, -⟩ | earlier
    · cases same
    · exact earlier
  refine ⟨fun fence waits => ?_, ?_, fun lost => ?_, ?_, ?_, ?_, ?_⟩
  · rcases List.mem_append.mp waits with earlier | new
    · rw [← fenced.pending fence earlier]
      exact create_getElem? _ _ _ (fenced.pending_lt_size earlier)
    · rw [List.mem_singleton.mp new]
      simp [Device.opened, Device.log, Device.nextFence, Fences.create]
  · refine List.nodup_append.mpr ⟨fenced.nodup, by simp, ?_⟩
    intro fence waits other new same
    rw [same, List.mem_singleton.mp new] at waits
    exact fenced.nextFence_not_mem waits
  · exact absurd (usable.symm.trans lost) (by simp)
  · simpa [Device.opened, Device.log] using fenced.lost_iff
  · intro outcome fence settled
    obtain ⟨final, cell⟩ := fenced.told outcome fence (known outcome fence settled)
    have created : device.fences.origin? fence = some .device := by
      simp [Fences.origin?, cell]
    refine ⟨final, ?_⟩
    rw [← cell]
    exact create_getElem? _ _ _ (origin_lt_size created)
  · exact fun _ outcome fence settled =>
      fenced.outcome usable outcome fence (known outcome fence settled)
  · intro fence used since submitted
    rcases History.submitted_cons_iff.mp submitted with ⟨-, same, -⟩ | ⟨before, rfl, found⟩
    · cases same
      exact .inl (List.mem_append_right _ (List.mem_singleton.mpr rfl))
    · rcases fenced.settled fence used before found with waits | ⟨outcome, settled⟩
      · exact .inl (List.mem_append_left _ waits)
      · exact .inr ⟨outcome, settled.append [_]⟩

theorem flush {before after : Device} {fence : Option Fence} (fenced : before.Fenced)
    (flushes : Flushes before fence after) : after.Fenced := by
  cases flushes with
  | unfenced => exact fenced.log rfl
  | waiting usable => exact fenced.join usable
  | signaled usable => exact (fenced.join usable).signal List.perm_append_comm

end Fenced

end Device

end Compositor
