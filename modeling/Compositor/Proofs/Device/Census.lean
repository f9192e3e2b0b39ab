import Compositor.Proofs.Device.Effects
import Compositor.Proofs.Device.Images

/-!
# The census of a device

A device counts its images right no matter who uses it and with which handles. Handles are issued in
the order of their numbers, and each of them is live or was destroyed once. So a context refuses a
handle exactly if the image is not live or belongs to the other context.
-/

set_option autoImplicit false

namespace Compositor.Device

/-- What the context of `mode` holds against a handle. -/
inductive Forbids (device : Device) (mode : Mode) (use : ImageUse) (handle : ImageHandle) :
    Misuse → Prop where
  | dead : (∀ image ∈ device.live, image.handle ≠ handle) →
      Forbids device mode use handle (.notLive use handle)
  | foreign {image : LiveImage} : image ∈ device.live → image.handle = handle →
      image.mode ≠ mode → Forbids device mode use handle (.foreign use handle image.mode mode)

/-- All images are accounted for. -/
structure Counted (device : Device) : Prop where
  /-- Handles are issued in ascending order; a history has the latest one first. -/
  created : (History.created device.events).map (·.handle) = device.issuedHandles.reverse
  balanced : device.Balanced

variable {device : Device} {mode : Mode} {use : ImageUse} {handle : ImageHandle}

/-- A context that has nothing against a handle has the image. -/
theorem live_of_misuse?_none (free : device.misuse? mode use handle = none) :
    ∃ image ∈ device.live, image.handle = handle ∧ image.mode = mode := by
  unfold misuse? findLive? at free
  cases found : device.live.find? (·.handle == handle) with
  | none => simp [found] at free
  | some image =>
      have named : image.handle = handle := by simpa using List.find?_some found
      have owned : image.mode = mode := by simpa [found] using free
      exact ⟨image, List.mem_of_find?_eq_some found, named, owned⟩

namespace Counted

theorem new (options : DeviceOptions) : (Device.new options).Counted := ⟨rfl, .nil⟩

/-- A handle names at most one live image. -/
theorem live_unique (counted : device.Counted) {image other : LiveImage}
    (live : image ∈ device.live) (present : other ∈ device.live)
    (same : image.handle = other.handle) : image = other :=
  List.inj_on_of_nodup_map counted.balanced.live_nodup live present same

theorem misuse?_eq_some_iff (counted : device.Counted) {misuse : Misuse} :
    device.misuse? mode use handle = some misuse ↔ device.Forbids mode use handle misuse := by
  unfold misuse? findLive?
  constructor
  · intro refused
    cases found : device.live.find? (·.handle == handle) with
    | none =>
        have absent := List.find?_eq_none.mp found
        obtain rfl : .notLive use handle = misuse := by simpa [found] using refused
        exact .dead (by simpa using absent)
    | some image =>
        have named : image.handle = handle := by simpa using List.find?_some found
        obtain ⟨apart, rfl⟩ : image.mode ≠ mode ∧ .foreign use handle image.mode mode = misuse := by
          simpa [found] using refused
        exact .foreign (List.mem_of_find?_eq_some found) named apart
  · intro forbidden
    cases forbidden with
    | dead absent =>
        have found : device.live.find? (·.handle == handle) = none := by simpa using absent
        simp [found]
    | @foreign image live named apart =>
        cases found : device.live.find? (·.handle == handle) with
        | none =>
            have absent := List.find?_eq_none.mp found image live
            simp [named] at absent
        | some other =>
            have same : other.handle = handle := by simpa using List.find?_some found
            obtain rfl := counted.live_unique (List.mem_of_find?_eq_some found) live
              (same.trans named.symm)
            simp [apart]

/-! ## Whatever happens to the device -/

/-- Nothing that happened concerns images. -/
theorem of_same {after : Device} (counted : device.Counted)
    (issued : after.issued = device.issued) (live : after.live = device.live)
    (created : History.created after.events = History.created device.events)
    (destroyed : History.destroyed after.events = History.destroyed device.events) :
    after.Counted := by
  refine ⟨?_, counted.balanced.of_same issued live destroyed⟩
  have known := counted.created
  unfold issuedHandles at known ⊢
  rw [created, issued, known]

theorem of_extends {after : Device} (counted : device.Counted) (extension : Extends device after) :
    after.Counted :=
  counted.of_same extension.issued extension.live extension.created extension.destroyed

theorem note (counted : device.Counted) {event : DeviceEvent} (note : event.isNote = true) :
    (device.log event).Counted := by
  refine counted.of_same rfl rfl ?_ ?_
  · cases event <;> first | rfl | cases note
  · cases event <;> first | rfl | cases note

theorem issue (counted : device.Counted) (mode : Mode) (kind : ImageKind) (buffer : BufferId) :
    (device.issue mode kind buffer).2.Counted := by
  refine ⟨?_, counted.balanced.issue mode kind buffer⟩
  have known := counted.created
  rw [issuedHandles_issue, List.reverse_append, ← known]
  rfl

theorem acceptDestroy (counted : device.Counted) (mode : Mode) (handle : ImageHandle) :
    (device.acceptDestroy mode handle).Counted := by
  have handed : (device.log (.handed mode .destroy [handle])).Counted := counted.note rfl
  unfold Device.acceptDestroy release
  split
  · exact handed.note rfl
  · rename_i free
    obtain ⟨image, live, rfl, -⟩ := live_of_misuse?_none free
    exact ⟨handed.created, handed.balanced.destroy live⟩

theorem effect {after : Device} (counted : device.Counted) (effect : Effect device after) :
    after.Counted := by
  cases effect with
  | step step => exact counted.of_extends step.extends
  | issue => exact counted.issue _ _ _
  | destroy => exact counted.acceptDestroy _ _
  | note note => exact counted.note note
  | flush flushes =>
      obtain ⟨added, events, quiet⟩ := flushes.events
      have inert : ∀ event ∈ added, event.isInert = true :=
        fun event member => (quiet event member).1
      refine counted.of_same flushes.issued flushes.live ?_ ?_
      · rw [events, History.inert_append_created inert]
        rfl
      · rw [events, History.inert_append_destroyed inert]
        rfl

theorem effects {after : Device} (counted : device.Counted) (effects : Effects device after) :
    after.Counted := by
  induction effects with
  | refl => exact counted
  | tail _ effect ih => exact ih.effect effect

/-! ## The three counts -/

/-- What was issued is what is live and what was destroyed. -/
theorem accounted (counted : device.Counted) :
    (device.live.map (·.handle) ++ device.destroyed).Perm device.issuedHandles := by
  rw [destroyed_eq]
  exact (List.Perm.append_left _ (List.reverse_perm _)).trans counted.balanced

theorem issued_eq (counted : device.Counted) :
    device.issued = device.live.length + device.destroyed.length := by
  simpa [issuedHandles] using counted.accounted.length_eq.symm

theorem destroyed_nodup (counted : device.Counted) : device.destroyed.Nodup := by
  have distinct := counted.accounted.nodup_iff.mpr device.issuedHandles_nodup
  exact (List.nodup_append.mp distinct).2.1

theorem live_not_destroyed (counted : device.Counted) {image : LiveImage}
    (live : image ∈ device.live) : image.handle ∉ device.destroyed := by
  intro gone
  have distinct := counted.accounted.nodup_iff.mpr device.issuedHandles_nodup
  exact (List.nodup_append.mp distinct).2.2 _ (List.mem_map_of_mem live) _ gone rfl

end Counted

end Compositor.Device
