import Compositor.Proofs.Reachable

/-!
# Release of images

What the invariants say about the destruction of images over whole runs: nothing that may still run
uses an image that is destroyed, and nothing that is recorded later does. All of it is told by the
history of the device, whose word about fences is the state of the fences.
-/

set_option autoImplicit false

namespace Compositor

namespace History

/-- An image is destroyed between the events `earlier` and the events `later`, and is not in use. -/
structure Released (handle : ImageHandle) (earlier later : History) : Prop where
  /-- The frame being recorded does not use it. -/
  unrecorded : .lost ∉ earlier → handle ∉ recorded earlier
  /-- No later command uses it. -/
  unused : ∀ event ∈ later, handle ∉ event.uses
  /-- Every submission that uses it has completed. -/
  completed : .lost ∉ earlier → ∀ fence used since, Submitted earlier fence used since →
    handle ∈ used → Completed fence since
  /-- On a lost device no fence of a submission is pending. -/
  settled : .lost ∈ earlier → ∀ fence used since, Submitted earlier (some fence) used since →
    ∃ outcome, outcome ≠ .pending ∧ Settled outcome fence since

end History

namespace Session

theorem Secured.released {session : Session} (secured : session.Secured) {mode : Mode}
    {handles : List ImageHandle} {earlier later : History}
    (split : session.device.events = later ++ .handed mode .destroy handles :: earlier)
    {handle : ImageHandle} (member : handle ∈ handles) :
    History.Released handle earlier later := by
  have safe := History.always_iff.mp secured.safe later _ earlier split
  obtain ⟨usable, lost⟩ := safe handle member
  refine ⟨fun present => (usable present).1, fun event inside used => ?_,
    fun present => (usable present).2, fun gone fence used since submitted => ?_⟩
  · obtain ⟨late, between, rest⟩ := List.append_of_mem inside
    have whole : session.device.events =
        late ++ event :: (between ++ .handed mode .destroy handles :: earlier) := by
      rw [split, rest, List.append_assoc, List.cons_append]
    have proper := History.always_iff.mp secured.sound.coherent.proper late event _ whole
    obtain ⟨_, -, spared⟩ := proper.uses_usable used
    exact spared ⟨mode, handles, List.mem_append_right _ List.mem_cons_self, member⟩
  · obtain ⟨outcome, settled⟩ := lost gone fence used since submitted
    obtain ⟨start, whole, -⟩ := submitted
    have known : History.Settled outcome fence session.device.events := by
      rw [split, whole]
      exact ((settled.within _).append [.handed mode .destroy handles]).append later
    exact ⟨outcome, (secured.fenced.told outcome fence known).1, settled⟩

/-- In every run in which submission numbers suffice, images are destroyed only when they are not in
use, whenever and in whatever order fences settle, images leave the caches, and the device is lost.
What the history tells of a fence or of a loss is so. -/
theorem destruction_waits (options : DeviceOptions) (capabilities : Capabilities)
    (order : ReleaseOrder) (actions : List Action)
    (numbers : (Session.new (.new options) capabilities order).NumbersSuffice actions) :
    let final := ((Session.new (.new options) capabilities order).run actions).2
    (∀ later mode handles earlier,
      final.device.events = later ++ .handed mode .destroy handles :: earlier →
        ∀ handle ∈ handles, History.Released handle earlier later) ∧
    (∀ outcome fence, History.Settled outcome fence final.device.events →
      final.device.fences.status fence = outcome) ∧
    (final.device.lost = true ↔ .lost ∈ final.device.events) := by
  intro final
  have secured : final.Secured :=
    run_secured (new_secured options capabilities order) numbers
  refine ⟨fun later mode handles earlier split handle member => secured.released split member,
    fun outcome fence settled => ?_, secured.fenced.lost_iff⟩
  obtain ⟨-, cell⟩ := secured.fenced.told outcome fence settled
  rw [Fences.status, cell]

/-- A device whose fences signal when it is told so. -/
private def patient : DeviceOptions := ⟨true, true, false, 4096⟩

/-- A buffer is given up while a frame that samples it is in flight. -/
private def unboundInFlight : List Action :=
  [.start .standard,
    .draw ⟨.ofSize 64 64, [.ofBuffer (.plain ⟨1⟩ 8 8) (.ofSize 8 8)], .plain ⟨2⟩ 64 64, true, none⟩,
    .unbind ⟨1⟩, .signalAll, .cleanup]

/-- The sampled image is destroyed, and only after the frame. -/
theorem destruction_waits_for_frame :
    (Session.new (.new patient) patient.capabilities .byArrival).NumbersSuffice unboundInFlight ∧
    ∃ later earlier,
      ((Session.new (.new patient) patient.capabilities .byArrival).run
        unboundInFlight).2.device.events =
          later ++ .handed .normal .destroy [⟨1⟩] :: earlier ∧
      History.Released ⟨1⟩ earlier later := by
  have numbers : (Session.new (.new patient) patient.capabilities .byArrival).NumbersSuffice
      unboundInFlight := by decide
  have split : ((Session.new (.new patient) patient.capabilities .byArrival).run
      unboundInFlight).2.device.events =
        (((Session.new (.new patient) patient.capabilities .byArrival).run
          unboundInFlight).2.device.events.take 1) ++ .handed .normal .destroy [⟨1⟩] ::
        (((Session.new (.new patient) patient.capabilities .byArrival).run
          unboundInFlight).2.device.events.drop 2) := by decide
  exact ⟨numbers, _, _, split, (destruction_waits patient patient.capabilities .byArrival
    unboundInFlight numbers).1 _ _ _ _ split _ List.mem_cons_self⟩

end Session

end Compositor
