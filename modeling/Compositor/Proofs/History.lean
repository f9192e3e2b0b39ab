import Compositor.Device.Basic
import Mathlib.Data.List.Nodup
import Mathlib.Data.List.Perm.Basic

/-!
# What a history tells

A history lists what happened to a device, the latest event first. It tells which images exist at
each of its moments, which images the commands recorded since the latest flush use, and what became
of every submission. None of this looks at the state of a device.
-/

set_option autoImplicit false

namespace Compositor

/-- The events of a device, the latest one first. -/
abbrev History := List DeviceEvent

namespace DeviceEvent

def uses : DeviceEvent → List ImageHandle
  | .began _ target => [target]
  | .drawn record => record.target :: record.source.toList
  | _ => []

def created? : DeviceEvent → Option LiveImage
  | .created image => some image
  | _ => none

/-- Holds for the events that concern no image. -/
def isInert : DeviceEvent → Bool
  | .requested .. | .flushed _ | .finished _ | .settled .. | .lost => true
  | _ => false

/-- Holds for the events that tell what becomes of fences. -/
def concernsFences : DeviceEvent → Bool
  | .flushed (some _) | .settled .. | .lost => true
  | _ => false

theorem draw?_of_isInert {event : DeviceEvent} (inert : event.isInert = true) :
    event.draw? = none := by
  cases event <;> first | rfl | cases inert

theorem misuse?_of_isInert {event : DeviceEvent} (inert : event.isInert = true) :
    event.misuse? = none := by
  cases event <;> first | rfl | cases inert

end DeviceEvent

namespace History

/-- Every event satisfies a condition on what came before it. -/
def Always (condition : DeviceEvent → History → Prop) : History → Prop
  | [] => True
  | event :: earlier => condition event earlier ∧ Always condition earlier

/-- The context of `mode` has an image with this handle. -/
def Holds (mode : Mode) (handle : ImageHandle) (events : History) : Prop :=
  ∃ image, .created image ∈ events ∧ image.handle = handle ∧ image.mode = mode ∧
    .destroyed handle ∉ events

/-- A context was asked to destroy an image with this handle. -/
def Condemned (handle : ImageHandle) (events : History) : Prop :=
  ∃ mode handles, .handed mode .destroy handles ∈ events ∧ handle ∈ handles

def created (events : History) : List LiveImage := events.filterMap DeviceEvent.created?

def destroyed (events : History) : List ImageHandle := events.filterMap DeviceEvent.destroyed?

/-- The images that the commands recorded since the latest flush use. -/
def recorded : History → List ImageHandle
  | [] => []
  | event :: earlier => if event.isFlush then [] else event.uses ++ recorded earlier

/-- A flush that gave `fence` submitted commands that use the images `used`, and the events `since`
came after it. -/
def Submitted (events : History) (fence : Option Fence) (used : List ImageHandle)
    (since : History) : Prop :=
  ∃ earlier, events = since ++ .flushed fence :: earlier ∧ used = recorded earlier

def Settled (outcome : FenceStatus) (fence : Fence) (events : History) : Prop :=
  ∃ fences, .settled outcome fences ∈ events ∧ fence ∈ fences

/-- A submission completed: its fence signaled, or the device was drained after it. -/
def Completed (fence : Option Fence) (since : History) : Prop :=
  .finished true ∈ since ∨ ∃ name, fence = some name ∧ Settled .signaled name since

/-- The device was drained after the latest flush, or there was none. -/
def Drained : History → Prop
  | [] => True
  | event :: earlier => event = .finished true ∨ (event.isFlush = false ∧ Drained earlier)

/-! ## Conditions on every event -/

theorem always_iff {condition : DeviceEvent → History → Prop} {events : History} :
    Always condition events ↔
      ∀ later event earlier, events = later ++ event :: earlier → condition event earlier := by
  induction events with
  | nil => simp [Always]
  | cons head tail ih =>
      constructor
      · intro always later event earlier split
        obtain ⟨first, others⟩ := always
        cases later with
        | nil =>
            obtain ⟨rfl, rfl⟩ := List.cons.inj split
            exact first
        | cons _ later => exact ih.mp others later event earlier (List.cons.inj split).2
      · intro holds
        refine ⟨holds [] head tail rfl, ih.mpr fun later event earlier split => ?_⟩
        exact holds (head :: later) event earlier (by rw [split, List.cons_append])

theorem Always.append {condition : DeviceEvent → History → Prop} {events : History}
    (always : Always condition events) :
    ∀ {added : History}, (∀ event ∈ added, ∀ earlier, condition event earlier) →
      Always condition (added ++ events)
  | [], _ => always
  | event :: _, sound =>
      ⟨sound event List.mem_cons_self _,
        always.append fun event member => sound event (List.mem_cons_of_mem _ member)⟩

/-! ## Images of a history -/

theorem Condemned.of_append {handle : ImageHandle} {events : History} (added : History)
    (condemned : Condemned handle (added ++ events))
    (spared : ∀ mode handles, .handed mode .destroy handles ∉ added) : Condemned handle events := by
  obtain ⟨mode, handles, member, inside⟩ := condemned
  exact ⟨mode, handles, (List.mem_append.mp member).resolve_left (spared mode handles), inside⟩

theorem mem_destroyed {handle : ImageHandle} {events : History} :
    handle ∈ destroyed events ↔ .destroyed handle ∈ events := by
  simp only [destroyed, List.mem_filterMap]
  constructor
  · intro told
    obtain ⟨event, member, tells⟩ := told
    cases event <;> simp_all [DeviceEvent.destroyed?]
  · exact fun member => ⟨_, member, rfl⟩

theorem mem_created {image : LiveImage} {events : History} :
    image ∈ created events ↔ .created image ∈ events := by
  simp only [created, List.mem_filterMap]
  constructor
  · intro told
    obtain ⟨event, member, tells⟩ := told
    cases event <;> simp_all [DeviceEvent.created?]
  · exact fun member => ⟨_, member, rfl⟩

theorem created_subset_append (added events : History) :
    created events ⊆ created (added ++ events) := by
  rw [created, created, List.filterMap_append]
  exact List.subset_append_right _ _

theorem inert_append_created {added events : History}
    (inert : ∀ event ∈ added, event.isInert = true) :
    created (added ++ events) = created events := by
  have none : added.filterMap DeviceEvent.created? = [] := by
    rw [List.filterMap_eq_nil_iff]
    intro event member
    have quiet := inert event member
    cases event <;> simp_all [DeviceEvent.isInert, DeviceEvent.created?]
  rw [created, List.filterMap_append, none, List.nil_append, created]

theorem inert_append_destroyed {added events : History}
    (inert : ∀ event ∈ added, event.isInert = true) :
    destroyed (added ++ events) = destroyed events := by
  have none : added.filterMap DeviceEvent.destroyed? = [] := by
    rw [List.filterMap_eq_nil_iff]
    intro event member
    have quiet := inert event member
    cases event <;> simp_all [DeviceEvent.isInert, DeviceEvent.destroyed?]
  rw [destroyed, List.filterMap_append, none, List.nil_append, destroyed]

/-! ## Submissions of a history -/

theorem recorded_append {added events : History}
    (plain : ∀ event ∈ added, event.isFlush = false ∧ event.uses = []) :
    recorded (added ++ events) = recorded events := by
  induction added with
  | nil => rfl
  | cons event added ih =>
      obtain ⟨unflushed, unused⟩ := plain event List.mem_cons_self
      rw [List.cons_append, recorded, unflushed, unused]
      exact ih fun event member => plain event (List.mem_cons_of_mem _ member)

theorem recorded_subset {events : History} {handle : ImageHandle}
    (member : handle ∈ recorded events) : ∃ event ∈ events, handle ∈ event.uses := by
  induction events with
  | nil => simp [recorded] at member
  | cons event earlier ih =>
      rw [recorded] at member
      split at member
      · simp at member
      · rcases List.mem_append.mp member with here | before
        · exact ⟨event, List.mem_cons_self, here⟩
        · obtain ⟨found, inside, used⟩ := ih before
          exact ⟨found, List.mem_cons_of_mem _ inside, used⟩

theorem submitted_cons_iff {event : DeviceEvent} {events : History} {fence : Option Fence}
    {used : List ImageHandle} {since : History} :
    Submitted (event :: events) fence used since ↔
      (since = [] ∧ event = .flushed fence ∧ used = recorded events) ∨
        ∃ before, since = event :: before ∧ Submitted events fence used before := by
  constructor
  · intro submitted
    obtain ⟨earlier, split, usedEq⟩ := submitted
    cases since with
    | nil =>
        obtain ⟨rfl, rfl⟩ := List.cons.inj split
        exact .inl ⟨rfl, rfl, usedEq⟩
    | cons head before =>
        obtain ⟨rfl, rest⟩ := List.cons.inj split
        exact .inr ⟨before, rfl, earlier, rest, usedEq⟩
  · intro either
    rcases either with ⟨rfl, rfl, usedEq⟩ | ⟨before, rfl, earlier, rfl, usedEq⟩
    · exact ⟨events, rfl, usedEq⟩
    · exact ⟨earlier, rfl, usedEq⟩

theorem Submitted.of_append (added : History) {events : History} {fence : Option Fence}
    {used : List ImageHandle} {since : History}
    (unflushed : ∀ event ∈ added, event.isFlush = false)
    (submitted : Submitted (added ++ events) fence used since) :
    ∃ before, since = added ++ before ∧ Submitted events fence used before := by
  induction added generalizing since with
  | nil => exact ⟨since, rfl, submitted⟩
  | cons event added ih =>
      rcases submitted_cons_iff.mp submitted with ⟨-, flushed, -⟩ | ⟨before, rfl, rest⟩
      · have quiet := unflushed event List.mem_cons_self
        rw [flushed] at quiet
        simp [DeviceEvent.isFlush] at quiet
      · obtain ⟨start, rfl, found⟩ :=
          ih (fun event member => unflushed event (List.mem_cons_of_mem _ member)) rest
        exact ⟨start, rfl, found⟩

theorem Settled.append {outcome : FenceStatus} {fence : Fence} {events : History}
    (settled : Settled outcome fence events) (added : History) :
    Settled outcome fence (added ++ events) := by
  obtain ⟨fences, member, inside⟩ := settled
  exact ⟨fences, List.mem_append_right _ member, inside⟩

theorem Settled.within {outcome : FenceStatus} {fence : Fence} {since : History}
    (settled : Settled outcome fence since) (earlier : History) :
    Settled outcome fence (since ++ earlier) := by
  obtain ⟨fences, member, inside⟩ := settled
  exact ⟨fences, List.mem_append_left _ member, inside⟩

theorem Settled.of_cons {outcome : FenceStatus} {fence : Fence} {event : DeviceEvent}
    {events : History} (settled : Settled outcome fence (event :: events)) :
    (∃ fences, event = .settled outcome fences ∧ fence ∈ fences) ∨
      Settled outcome fence events := by
  obtain ⟨fences, member, inside⟩ := settled
  rcases List.mem_cons.mp member with same | earlier
  · exact .inl ⟨fences, same.symm, inside⟩
  · exact .inr ⟨fences, earlier, inside⟩

theorem Completed.append {fence : Option Fence} {since : History}
    (completed : Completed fence since) (added : History) : Completed fence (added ++ since) := by
  rcases completed with drained | ⟨name, rfl, signaled⟩
  · exact .inl (List.mem_append_right _ drained)
  · exact .inr ⟨name, rfl, signaled.append added⟩

/-- Draining completes every submission that there is. -/
theorem Drained.completed {events : History} {fence : Option Fence} {used : List ImageHandle}
    {since : History} (drained : Drained events)
    (submitted : Submitted events fence used since) : Completed fence since := by
  induction events generalizing since with
  | nil =>
      obtain ⟨earlier, split, -⟩ := submitted
      simp at split
  | cons event events ih =>
      rcases submitted_cons_iff.mp submitted with ⟨-, rfl, -⟩ | ⟨before, rfl, rest⟩
      · rcases drained with finished | ⟨unflushed, -⟩
        · cases finished
        · simp [DeviceEvent.isFlush] at unflushed
      · rcases drained with rfl | ⟨-, drained⟩
        · exact .inl List.mem_cons_self
        · exact (ih drained rest).append [event]

end History

end Compositor
