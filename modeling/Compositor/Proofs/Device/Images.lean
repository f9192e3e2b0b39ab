import Compositor.Proofs.Device.Step

/-!
# Images of a device

The live images of a device are what its history says: those created and not destroyed. A device is
coherent if this holds, if every handle it issued is live or was destroyed exactly once, and if every
context was only ever handed images that it had at that moment.
-/

set_option autoImplicit false

namespace Compositor

/-- The context of `mode` has an image with this handle, and was not asked to destroy it. -/
def History.Usable (mode : Mode) (handle : ImageHandle) (events : History) : Prop :=
  Holds mode handle events ∧ ¬Condemned handle events

/-- A context is only handed its own images, and nothing is misused. -/
def DeviceEvent.Proper (event : DeviceEvent) (earlier : History) : Prop :=
  match event with
  | .handed mode _ handles => ∀ handle ∈ handles, History.Usable mode handle earlier
  | .began mode target => History.Usable mode target earlier
  | .drawn record =>
      ∀ handle ∈ record.target :: record.source.toList, History.Usable record.mode handle earlier
  | .misused _ => False
  | _ => True

theorem DeviceEvent.Proper.uses_usable {event : DeviceEvent} {earlier : History}
    (proper : event.Proper earlier) {handle : ImageHandle} (used : handle ∈ event.uses) :
    ∃ mode, History.Usable mode handle earlier := by
  cases event with
  | began mode target =>
      rw [uses, List.mem_singleton] at used
      rw [used]
      exact ⟨mode, proper⟩
  | drawn record => exact ⟨record.mode, proper handle used⟩
  | _ => simp [uses] at used

namespace Device

def issuedHandles (device : Device) : List ImageHandle :=
  (List.range device.issued).map fun count => ⟨count + 1⟩

structure Coherent (device : Device) : Prop where
  /-- Every handle was issued for one image. -/
  created : ((History.created device.events).map (·.handle)).Perm device.issuedHandles
  /-- Every issued handle is live or was destroyed, and not both or twice. -/
  handles : (device.live.map (·.handle) ++ History.destroyed device.events).Perm
    device.issuedHandles
  live_iff : ∀ image, image ∈ device.live ↔
    .created image ∈ device.events ∧ .destroyed image.handle ∉ device.events
  /-- What a context was asked to destroy is gone. -/
  gone : ∀ handle, History.Condemned handle device.events → .destroyed handle ∈ device.events
  proper : History.Always DeviceEvent.Proper device.events

theorem mem_issuedHandles {device : Device} {handle : ImageHandle} :
    handle ∈ device.issuedHandles ↔ 0 < handle.number ∧ handle.number ≤ device.issued := by
  simp only [issuedHandles, List.mem_map, List.mem_range]
  constructor
  · intro issued
    obtain ⟨count, below, rfl⟩ := issued
    exact ⟨Nat.succ_pos count, below⟩
  · intro numbered
    obtain ⟨positive, bounded⟩ := numbered
    refine ⟨handle.number - 1, by omega, ?_⟩
    cases handle
    simp only [ImageHandle.mk.injEq] at positive ⊢
    omega

theorem issuedHandles_nodup (device : Device) : device.issuedHandles.Nodup := by
  refine List.nodup_range.map fun left right same => ?_
  simpa using same

theorem issuedHandles_issue (device : Device) (mode : Mode) (kind : ImageKind)
    (buffer : BufferId) :
    (device.issue mode kind buffer).2.issuedHandles =
      device.issuedHandles ++ [⟨device.issued + 1⟩] := by
  simp [Device.issue, Device.log, issuedHandles, List.range_succ]

/-! ## The balance of a device -/

theorem destroyed_eq (device : Device) :
    device.destroyed = (History.destroyed device.events).reverse := by
  rw [destroyed, history, eventsSince, List.drop_zero, List.filterMap_reverse, History.destroyed]

/-- Every handle that was issued is live or was destroyed, and not both or twice. -/
def Balanced (device : Device) : Prop :=
  (device.live.map (·.handle) ++ History.destroyed device.events).Perm device.issuedHandles

/-- Handles are unique, so destroying an image leaves all the others. -/
theorem live_perm_of_nodup {live : List LiveImage} (distinct : (live.map (·.handle)).Nodup)
    {image : LiveImage} (member : image ∈ live) :
    live.Perm (image :: live.filter (·.handle ≠ image.handle)) := by
  obtain ⟨before, after, split⟩ := List.append_of_mem member
  rw [split, List.map_append, List.map_cons, List.nodup_middle, List.nodup_cons] at distinct
  have others : ∀ other ∈ before ++ after, other.handle ≠ image.handle := by
    intro other member same
    apply distinct.1
    rw [← List.map_append, ← same]
    exact List.mem_map.mpr ⟨other, member, rfl⟩
  have kept : live.filter (·.handle ≠ image.handle) = before ++ after := by
    rw [split, List.filter_append, List.filter_cons_of_neg (by simp), ← List.filter_append,
      List.filter_eq_self]
    simpa using others
  rw [kept, split]
  exact List.perm_middle

namespace Balanced

variable {device : Device}

theorem live_nodup (balanced : device.Balanced) : (device.live.map (·.handle)).Nodup :=
  (List.nodup_append.mp (balanced.nodup_iff.mpr device.issuedHandles_nodup)).1

/-- Nothing that happened concerns images. -/
theorem of_same {after : Device} (balanced : device.Balanced)
    (issued : after.issued = device.issued) (live : after.live = device.live)
    (destroyed : History.destroyed after.events = History.destroyed device.events) :
    after.Balanced := by
  unfold Balanced issuedHandles
  rw [issued, live, destroyed]
  exact balanced

theorem issue (balanced : device.Balanced) (mode : Mode) (kind : ImageKind) (buffer : BufferId) :
    (device.issue mode kind buffer).2.Balanced := by
  have more := List.Perm.append_right [⟨device.issued + 1⟩] balanced
  unfold Balanced
  rw [issuedHandles_issue]
  refine .trans ?_ more
  simp only [Device.issue, Device.log, List.map_append, List.append_assoc, List.map_cons,
    List.map_nil]
  exact .append_left _ List.perm_append_comm

theorem destroy (balanced : device.Balanced) {image : LiveImage} (live : image ∈ device.live) :
    ({ device with live := device.live.filter (·.handle ≠ image.handle) }.log
      (.destroyed image.handle)).Balanced := by
  have rest := (live_perm_of_nodup balanced.live_nodup live).map (·.handle)
  refine .trans ?_ balanced
  refine .trans List.perm_middle ?_
  exact (rest.append_right _).symm

end Balanced

/-- A context that has nothing against a handle destroys the image. -/
theorem acceptDestroy_of_free {device : Device} {mode : Mode} {handle : ImageHandle}
    (free : device.misuse? mode .destroy handle = none) :
    device.acceptDestroy mode handle =
      ({ device with live := device.live.filter (·.handle ≠ handle) }.log
        (.handed mode .destroy [handle])).log (.destroyed handle) := by
  have same : (device.log (.handed mode .destroy [handle])).misuse? mode .destroy handle = none :=
    free
  unfold acceptDestroy release
  rw [same]
  rfl

namespace Coherent

theorem new (options : DeviceOptions) : Coherent (Device.new options) where
  created := .nil
  handles := .nil
  live_iff := by simp [Device.new]
  gone := by simp [Device.new, History.Condemned]
  proper := trivial

variable {device : Device}

theorem balanced (coherent : device.Coherent) : device.Balanced := coherent.handles

theorem live_nodup (coherent : device.Coherent) : (device.live.map (·.handle)).Nodup :=
  coherent.balanced.live_nodup

theorem live_issued (coherent : device.Coherent) {image : LiveImage}
    (live : image ∈ device.live) : image.handle ∈ device.issuedHandles :=
  coherent.handles.mem_iff.mp
    (List.mem_append_left _ (List.mem_map.mpr ⟨image, live, rfl⟩))

theorem destroyed_issued (coherent : device.Coherent) {handle : ImageHandle}
    (gone : .destroyed handle ∈ device.events) : handle ∈ device.issuedHandles :=
  coherent.handles.mem_iff.mp (List.mem_append_right _ (History.mem_destroyed.mpr gone))

theorem created_issued (coherent : device.Coherent) {image : LiveImage}
    (created : .created image ∈ device.events) : image.handle ∈ device.issuedHandles := by
  by_cases gone : .destroyed image.handle ∈ device.events
  · exact coherent.destroyed_issued gone
  · exact coherent.live_issued ((coherent.live_iff image).mpr ⟨created, gone⟩)

/-- A context has an image exactly if the image is live and the context issued it. -/
theorem holds_iff (coherent : device.Coherent) {mode : Mode} {handle : ImageHandle} :
    History.Holds mode handle device.events ↔
      ∃ image ∈ device.live, image.handle = handle ∧ image.mode = mode := by
  constructor
  · intro holds
    obtain ⟨image, created, rfl, modeEq, kept⟩ := holds
    exact ⟨image, (coherent.live_iff image).mpr ⟨created, kept⟩, rfl, modeEq⟩
  · intro present
    obtain ⟨image, live, rfl, modeEq⟩ := present
    obtain ⟨created, kept⟩ := (coherent.live_iff image).mp live
    exact ⟨image, created, rfl, modeEq, kept⟩

theorem usable_of_holds (coherent : device.Coherent) {mode : Mode} {handle : ImageHandle}
    (holds : History.Holds mode handle device.events) :
    History.Usable mode handle device.events := by
  refine ⟨holds, fun condemned => ?_⟩
  obtain ⟨image, -, -, -, kept⟩ := holds
  exact kept (coherent.gone handle condemned)

theorem findLive?_eq (coherent : device.Coherent) {image : LiveImage}
    (live : image ∈ device.live) : device.findLive? image.handle = some image := by
  unfold findLive?
  rw [List.find?_eq_some_iff_append]
  obtain ⟨before, after, split⟩ := List.append_of_mem live
  refine ⟨by simp, before, after, split, fun other member => ?_⟩
  have distinct := coherent.live_nodup
  rw [split, List.map_append, List.map_cons] at distinct
  have apart := (List.nodup_append.mp distinct).2.2 other.handle
    (List.mem_map.mpr ⟨other, member, rfl⟩) image.handle List.mem_cons_self
  simpa using apart

theorem misuse?_eq_none (coherent : device.Coherent) {mode : Mode} {handle : ImageHandle}
    (holds : History.Holds mode handle device.events) (use : ImageUse) :
    device.misuse? mode use handle = none := by
  obtain ⟨image, live, rfl, rfl⟩ := coherent.holds_iff.mp holds
  unfold misuse?
  rw [coherent.findLive?_eq live]
  simp

theorem uses_issued (coherent : device.Coherent) {event : DeviceEvent}
    (member : event ∈ device.events) {handle : ImageHandle} (used : handle ∈ event.uses) :
    handle ∈ device.issuedHandles := by
  obtain ⟨later, earlier, split⟩ := List.append_of_mem member
  have proper := History.always_iff.mp coherent.proper later event earlier split
  obtain ⟨_, ⟨image, created, rfl, -, -⟩, -⟩ := proper.uses_usable used
  have known : .created image ∈ device.events := by
    rw [split]
    exact List.mem_append_right _ (List.mem_cons_of_mem _ created)
  exact coherent.created_issued known

/-! ## Steps that keep a device coherent -/

theorem of_inert {before after : Device} (coherent : before.Coherent) {added : History}
    (issued : after.issued = before.issued) (live : after.live = before.live)
    (events : after.events = added ++ before.events)
    (inert : ∀ event ∈ added, event.isInert = true) : after.Coherent where
  created := by
    unfold issuedHandles
    rw [issued, events, History.inert_append_created inert]
    exact coherent.created
  handles := coherent.balanced.of_same issued live (by
    rw [events, History.inert_append_destroyed inert])
  live_iff := fun image => by
    rw [live, events, coherent.live_iff image, ← History.mem_created, ← History.mem_created,
      History.inert_append_created inert, ← History.mem_destroyed, ← History.mem_destroyed,
      History.inert_append_destroyed inert]
  gone := fun handle condemned => by
    rw [events] at condemned ⊢
    have before := condemned.of_append added fun mode handles member => by
      simpa [DeviceEvent.isInert] using inert _ member
    exact List.mem_append_right _ (coherent.gone handle before)
  proper := by
    rw [events]
    refine coherent.proper.append fun event member earlier => ?_
    have quiet := inert event member
    cases event <;> simp_all [DeviceEvent.isInert, DeviceEvent.Proper]

theorem of_extends {before after : Device} (coherent : before.Coherent)
    (extension : Extends before after) : after.Coherent := by
  obtain ⟨added, events, inert⟩ := extension.events
  exact coherent.of_inert extension.issued extension.live events
    fun event member => (inert event member).1

theorem log (coherent : device.Coherent) {event : DeviceEvent}
    (proper : event.Proper device.events) (created : event.created? = none)
    (destroyed : event.destroyed? = none)
    (spares : ∀ mode handles, event ≠ .handed mode .destroy handles) :
    (device.log event).Coherent where
  created := by
    have same : History.created (device.log event).events = History.created device.events := by
      simp [Device.log, History.created, created]
    rw [same]
    exact coherent.created
  handles := coherent.balanced.of_same rfl rfl (by
    simp [Device.log, History.destroyed, destroyed])
  live_iff := fun image => by
    have creation : event ≠ .created image := by
      intro same
      subst same
      cases created
    have destruction : event ≠ .destroyed image.handle := by
      intro same
      subst same
      cases destroyed
    simpa [Device.log, creation.symm, destruction.symm] using coherent.live_iff image
  gone := fun handle condemned => by
    have before := condemned.of_append [event] fun mode handles member =>
      spares mode handles (List.mem_singleton.mp member).symm
    exact List.mem_cons_of_mem _ (coherent.gone handle before)
  proper := ⟨proper, coherent.proper⟩

theorem issue (coherent : device.Coherent) (mode : Mode) (kind : ImageKind) (buffer : BufferId) :
    (device.issue mode kind buffer).2.Coherent where
  created := by
    rw [issuedHandles_issue]
    exact .trans (coherent.created.cons _) (List.perm_append_singleton _ _).symm
  handles := coherent.balanced.issue mode kind buffer
  live_iff := fun image => by
    have fresh : ∀ handle : ImageHandle, handle ∈ device.issuedHandles →
        handle ≠ ⟨device.issued + 1⟩ := by
      intro handle issued same
      subst same
      have bounded := (mem_issuedHandles.mp issued).2
      simp only at bounded
      omega
    simp only [Device.issue, Device.log, List.mem_append, List.mem_cons, List.not_mem_nil, or_false,
      DeviceEvent.created.injEq, reduceCtorEq, false_or, coherent.live_iff image]
    constructor
    · intro present
      rcases present with ⟨created, kept⟩ | rfl
      · exact ⟨.inr created, kept⟩
      · exact ⟨.inl rfl, fun gone => fresh _ (coherent.destroyed_issued gone) rfl⟩
    · intro told
      obtain ⟨rfl | created, kept⟩ := told
      · exact .inr rfl
      · exact .inl ⟨created, kept⟩
  gone := fun handle condemned => by
    obtain ⟨mode, handles, member, inside⟩ := condemned
    rcases List.mem_cons.mp member with same | before
    · cases same
    · exact List.mem_cons_of_mem _ (coherent.gone handle ⟨mode, handles, before, inside⟩)
  proper := ⟨trivial, coherent.proper⟩

theorem acceptDestroy_eq (coherent : device.Coherent) {image : LiveImage}
    (live : image ∈ device.live) :
    device.acceptDestroy image.mode image.handle =
      ({ device with live := device.live.filter (·.handle ≠ image.handle) }.log
        (.handed image.mode .destroy [image.handle])).log (.destroyed image.handle) := by
  have holds := coherent.holds_iff.mpr ⟨image, live, rfl, rfl⟩
  exact acceptDestroy_of_free (coherent.misuse?_eq_none holds .destroy)

theorem acceptDestroy (coherent : device.Coherent) {image : LiveImage}
    (live : image ∈ device.live) :
    (device.acceptDestroy image.mode image.handle).Coherent := by
  have holds := coherent.holds_iff.mpr ⟨image, live, rfl, rfl⟩
  rw [coherent.acceptDestroy_eq live]
  constructor
  · exact coherent.created
  · exact coherent.balanced.destroy live
  · intro other
    simp only [Device.log, List.mem_filter, List.mem_cons, reduceCtorEq, false_or,
      DeviceEvent.destroyed.injEq, coherent.live_iff other, not_or]
    constructor
    · intro present
      obtain ⟨⟨created, kept⟩, apart⟩ := present
      exact ⟨created, by simpa using apart, kept⟩
    · intro told
      obtain ⟨created, apart, kept⟩ := told
      exact ⟨⟨created, kept⟩, by simpa using apart⟩
  · intro handle condemned
    obtain ⟨mode, handles, member, inside⟩ := condemned
    simp only [Device.log, List.mem_cons, reduceCtorEq, false_or, DeviceEvent.handed.injEq]
      at member
    rcases member with ⟨-, -, rfl⟩ | before
    · rw [List.mem_singleton.mp inside]
      exact List.mem_cons_self
    · exact List.mem_cons_of_mem _ (List.mem_cons_of_mem _
        (coherent.gone handle ⟨mode, handles, before, inside⟩))
  · refine ⟨trivial, ?_, coherent.proper⟩
    simpa [DeviceEvent.Proper] using coherent.usable_of_holds holds

end Coherent

end Device

end Compositor
