import Compositor.Proofs.Device.Demands

/-!
# A device that serves anyone

Whatever is demanded of a device and in whatever order, it numbers its images as it makes them,
counts them right, records exactly the misuses and lets them change nothing, and settles its fences
in their order and once. So what it tells of its use can be relied upon.
-/

set_option autoImplicit false

namespace Compositor.Device

variable {device : Device} {demand : Demand}

/-! ## One demand -/

/-- Whatever is demanded, misuse is recorded and refused, fences stay in their order and do not wait
again, and a lost device gives nothing. The fences in `given` are those of earlier submissions. -/
structure Faithful (device : Device) (given : List Fence) (demand : Demand) (response : Response)
    (after : Device) : Prop where
  /-- Without a scheduled loss, the device answers as it is. -/
  direct : device.schedule = [] → device.arrived demand = device
  recorded : ∃ recorded : Option Misuse, after.misuses = device.misuses ++ recorded.toList ∧
    ∀ misuse, recorded = some misuse ↔ (device.arrived demand).Offends demand misuse
  unmoved : ∀ misuse, (device.arrived demand).Offends demand misuse →
    (device.arrived demand).Unmoved after
  shifts : Shifts device.pending response.fence? after.pending
  settled : ∀ fence ∈ given, device.fences.isPending fence = false →
    after.fences.status fence = device.fences.status fence
  barren : device.lost = true ∨ (device.arrived demand).lost = true →
    device.Barren response after

theorem meet_shifts (device : Device) (demand : Demand) :
    Shifts device.pending (device.meet demand).1.fence? (device.meet demand).2.pending := by
  have meets := meet_meets device demand
  have shifts := meets.shifts
  rcases arrived_pending device demand with same | ⟨lost, idle⟩
  · rwa [same] at shifts
  · rw [idle, (meets.barren lost).bare.2] at shifts
    rw [(meets.barren lost).bare.2]
    generalize (device.meet demand).2.pending = pending at shifts
    cases shifts with
    | join given => cases given
    | stay | oldest | all => exact .all

theorem meet_barren (lost : (device.arrived demand).lost = true) :
    device.Barren (device.meet demand).1 (device.meet demand).2 := by
  have extension := (arrived_steps device demand).extends
  have barren := (meet_meets device demand).barren lost
  exact ⟨barren.lost, barren.issued.trans extension.issued,
    barren.created.trans extension.created, barren.draws.trans extension.draws, barren.bare⟩

theorem meet_faithful (counted : device.Counted) (fenced : device.Fenced) {given : List Fence}
    (known : ∀ fence ∈ given, .flushed (some fence) ∈ device.events) (demand : Demand) :
    device.Faithful given demand (device.meet demand).1 (device.meet demand).2 := by
  have extension := (arrived_steps device demand).extends
  have meets := meet_meets device demand
  have counted := counted.of_extends extension
  constructor
  · intro idle
    exact arrived_unscheduled idle demand
  · refine ⟨(device.arrived demand).refusal? demand, ?_, ?_⟩
    · rw [meets.misuses, extension.misuses]
    · intro misuse
      exact counted.refusal?_eq_some_iff
  · intro misuse offends
    exact meets.unmoved (counted.refusal?_eq_some_iff.mpr offends)
  · exact meet_shifts device demand
  · intro fence member settled
    have absent : fence ∉ device.pending := by
      intro waits
      simp [fenced.isPending waits] at settled
    obtain ⟨outcome, final⟩ := fenced.resolved (known fence member) absent
    rw [((meet_effects device demand).hasSettled final).status, final.status]
  · rintro (lost | lost)
    · exact meet_barren (extension.lost lost)
    · exact meet_barren lost

/-! ## Many demands -/

/-- Meets one demand after the other. -/
def serve (device : Device) : List Demand → List Response × Device
  | [] => ([], device)
  | demand :: rest =>
    let (response, device) := device.meet demand
    let (responses, device) := device.serve rest
    (response :: responses, device)

theorem serve_effects (device : Device) (demands : List Demand) :
    Effects device (device.serve demands).2 := by
  induction demands generalizing device with
  | nil => exact .refl
  | cons demand rest ih => exact (meet_effects device demand).trans (ih _)

theorem serve_issues (device : Device) (demands : List Demand) :
    (device.serve demands).2.issuedHandles =
      device.issuedHandles ++ (device.serve demands).1.filterMap Response.handle? := by
  induction demands generalizing device with
  | nil => simp [serve]
  | cons demand rest ih =>
      have first := meet_issues device demand
      have later := ih (device.meet demand).2
      rw [first, List.append_assoc] at later
      cases given : (device.meet demand).1.handle? <;> simp_all [serve]

theorem serve_submits (device : Device) (demands : List Demand) {fence : Fence}
    (given : fence ∈ (device.serve demands).1.filterMap Response.fence?) :
    .flushed (some fence) ∈ (device.serve demands).2.events := by
  induction demands generalizing device with
  | nil => simp [serve] at given
  | cons demand rest ih =>
      obtain ⟨response, member, same⟩ := List.mem_filterMap.mp given
      rcases List.mem_cons.mp member with rfl | later
      · have submitted := (meet_meets device demand).submits same
        obtain ⟨added, events⟩ := (serve_effects (device.meet demand).2 rest).events
        have kept : (device.serve (demand :: rest)).2.events =
            added ++ (device.meet demand).2.events := events
        rw [kept]
        exact List.mem_append_right _ submitted
      · exact ih (device.meet demand).2 (List.mem_filterMap.mpr ⟨response, later, same⟩)

/-- What a device handed out so far agrees with its books. -/
structure Sound (device : Device) (responses : List Response) : Prop where
  /-- The handles are 1, 2, 3 and so on, over both modes and both kinds. -/
  handles : responses.filterMap Response.handle? =
    (List.range device.issued).map fun count => ⟨count + 1⟩
  created : (History.created device.events).reverse.map (·.handle) =
    responses.filterMap Response.handle?
  accounted : (device.live.map (·.handle) ++ device.destroyed).Perm
    (responses.filterMap Response.handle?)
  balance : device.issued = device.live.length + device.destroyed.length
  distinct : device.destroyed.Nodup
  apart : ∀ image ∈ device.live, image.handle ∉ device.destroyed
  pending : ∀ fence ∈ responses.filterMap Response.fence?,
    device.fences.isPending fence = true ↔ fence ∈ device.pending

/-- A device is a reliable witness of how it was used, whoever used it: what it handed out and what
is left of it agree with its books, and whatever is demanded of it next, it does what it should. -/
theorem bears_witness (options : DeviceOptions) (demands : List Demand) :
    let served := (new options).serve demands
    let responses := served.1
    let device := served.2
    device.Sound responses ∧
      ∀ demand, device.Faithful (responses.filterMap Response.fence?) demand
        (device.meet demand).1 (device.meet demand).2 := by
  have effects := serve_effects (new options) demands
  have counted := (Counted.new options).effects effects
  have fenced := effects.fenced (.new options)
  have handed := serve_issues (new options) demands
  have submitted := @serve_submits (new options) demands
  intro served responses device
  have handles : responses.filterMap Response.handle? = device.issuedHandles := handed.symm
  constructor
  · constructor
    · exact handles
    · rw [handles, List.map_reverse, counted.created, List.reverse_reverse]
    · rw [handles]
      exact counted.accounted
    · exact counted.issued_eq
    · exact counted.destroyed_nodup
    · intro image live
      exact counted.live_not_destroyed live
    · intro fence member
      exact fenced.isPending_iff (submitted member)
  · intro demand
    exact meet_faithful counted fenced (fun _ member => submitted member) demand

/-- Uses an image of the other context, a dead one and one that was never issued. -/
private def misguided : List Demand :=
  [.importBuffer .normal ⟨.plain ⟨5⟩ 8 8, .normal, false⟩,
    .createOutputImage .secure ⟨.plain ⟨6⟩ 8 8, .secure, true⟩,
    .destroyImage .normal ⟨2⟩, .destroyImage .normal ⟨1⟩, .flush,
    .drawLayer .secure ⟨2⟩ (some ⟨1⟩) (.ofBuffer (.plain ⟨5⟩ 8 8) (.ofSize 8 8)),
    .flush, .signalNext, .beginFrame .secure ⟨7⟩ (.ofSize 8 8)]

/-- The misuses are recorded, another one has no effect, and a loss ends everything. -/
theorem bears_witness_of_misuse :
    let served := (new ⟨true, true, false, 4096⟩).serve misguided
    let responses := served.1
    let device := served.2
    let lost := device.scheduleLoss .flush 0
    device.misuses = [.foreign .destroy ⟨2⟩ .secure .normal, .notLive .draw ⟨1⟩,
        .notLive .beginFrame ⟨7⟩] ∧
      device.live.map (·.handle) = [⟨2⟩] ∧ device.destroyed = [⟨1⟩] ∧
      responses.filterMap Response.fence? = [⟨0⟩, ⟨1⟩] ∧ device.pending = [⟨1⟩] ∧
      device.Sound responses ∧
      device.Unmoved (device.meet (.destroyImage .normal ⟨1⟩)).2 ∧
      lost.Barren (lost.meet .flush).1 (lost.meet .flush).2 := by
  obtain ⟨sound, faithful⟩ := bears_witness ⟨true, true, false, 4096⟩ misguided
  obtain ⟨-, faithfulLost⟩ :=
    bears_witness ⟨true, true, false, 4096⟩ (misguided ++ [.scheduleLoss .flush 0])
  refine ⟨by decide, by decide, by decide, by decide, by decide, sound, ?_, ?_⟩
  · have offends : Offends ((new ⟨true, true, false, 4096⟩).serve misguided).2
        (.destroyImage .normal ⟨1⟩) (.notLive .destroy ⟨1⟩) := .destroy (.dead (by decide))
    exact (faithful (.destroyImage .normal ⟨1⟩)).unmoved _ offends
  · exact (faithfulLost .flush).barren (.inr (by decide))

end Compositor.Device
