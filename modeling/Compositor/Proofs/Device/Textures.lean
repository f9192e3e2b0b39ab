import Compositor.Proofs.Device.Plain
import Compositor.Proofs.Paths.Imports
import Mathlib.Data.Finset.Lattice.Lemmas
import Mathlib.Data.Finset.Dedup

/-!
# Textures in a history

A history tells for which buffers textures were asked for and for which ones they were made. Beside a
shelf of buffers that have a texture already, a request is needless if its buffer stands on the shelf
or got a texture since. Only an import asks for a texture.
-/

set_option autoImplicit false

namespace Compositor

namespace DeviceEvent

/-- The buffer that a texture was made of. -/
def texture? : DeviceEvent → Option BufferId
  | .created image => if image.kind = .texture then some image.buffer else none
  | _ => none

/-- The buffer that a texture was asked for. -/
def textureRequest? : DeviceEvent → Option BufferId
  | .requested _ .texture request => some request.buffer.id
  | _ => none

/-- A texture is asked for only where there is none. -/
def Needed (shelf : Finset BufferId) (event : DeviceEvent) (earlier : History) : Prop :=
  ∀ buffer ∈ event.textureRequest?, buffer ∉ shelf ∧ buffer ∉ earlier.filterMap texture?

theorem texture?_of_plain {event : DeviceEvent} (plain : event.isProductive = false) :
    event.texture? = none ∧ event.textureRequest? = none := by
  cases event <;> first | exact ⟨rfl, rfl⟩ | cases plain

end DeviceEvent

namespace Device

/-- The buffers that textures were made of, the first one first, after `seen` events. -/
def importedSince (device : Device) (seen : Nat) : List BufferId :=
  (device.eventsSince seen).filterMap DeviceEvent.texture?

theorem eventsSince_append {before after : Device} {added : History}
    (events : after.events = added ++ before.events) :
    after.eventsSince before.events.length = added.reverse := by
  rw [eventsSince, events, List.reverse_append, List.drop_left' (List.length_reverse)]

/-- Textures were made of the buffers `made`, in this order. None was asked for needlessly. -/
structure Imports (before : Device) (shelf : Finset BufferId) (made : List BufferId)
    (after : Device) : Prop where
  events : ∃ added : History, after.events = added ++ before.events ∧
    (added.filterMap DeviceEvent.texture?).reverse = made ∧
    History.Always (DeviceEvent.Needed shelf) added
  /-- No buffer got two textures. -/
  distinct : made.Nodup
  fresh : ∀ buffer ∈ made, buffer ∉ shelf

namespace Imports

variable {before middle after : Device} {shelf : Finset BufferId} {made more : List BufferId}

theorem since (imports : before.Imports shelf made after) :
    after.importedSince before.events.length = made := by
  obtain ⟨added, events, same, -⟩ := imports.events
  rw [importedSince, eventsSince_append events, List.filterMap_reverse, same]

private theorem needed_append {early late : History}
    (left : History.Always (DeviceEvent.Needed shelf) early)
    (right : History.Always (DeviceEvent.Needed
      (shelf ∪ (early.filterMap DeviceEvent.texture?).reverse.toFinset)) late) :
    History.Always (DeviceEvent.Needed shelf) (late ++ early) := by
  induction late with
  | nil => exact left
  | cons event late ih =>
      refine ⟨fun buffer asked => ?_, ih right.2⟩
      obtain ⟨unshelved, unmade⟩ := right.1 buffer asked
      simp only [Finset.mem_union, List.mem_toFinset, List.mem_reverse, not_or] at unshelved
      refine ⟨unshelved.1, fun made => ?_⟩
      have either : buffer ∈ late.filterMap DeviceEvent.texture? ++
          early.filterMap DeviceEvent.texture? := List.filterMap_append ▸ made
      exact (List.mem_append.mp either).elim unmade unshelved.2

theorem trans (left : before.Imports shelf made middle)
    (right : middle.Imports (shelf ∪ made.toFinset) more after) :
    before.Imports shelf (made ++ more) after := by
  obtain ⟨early, earlyEvents, rfl, earlyNeeded⟩ := left.events
  obtain ⟨late, lateEvents, rfl, lateNeeded⟩ := right.events
  refine ⟨⟨late ++ early, ?_, ?_, needed_append earlyNeeded lateNeeded⟩, ?_, ?_⟩
  · rw [lateEvents, earlyEvents, List.append_assoc]
  · rw [List.filterMap_append, List.reverse_append]
  · refine List.nodup_append.mpr ⟨left.distinct, right.distinct, ?_⟩
    intro buffer first other later same
    subst same
    exact right.fresh buffer later (Finset.mem_union_right _ (List.mem_toFinset.mpr first))
  · intro buffer member
    rcases List.mem_append.mp member with first | later
    · exact left.fresh buffer first
    · exact fun shelved => right.fresh buffer later (Finset.mem_union_left _ shelved)

theorem refl (device : Device) (shelf : Finset BufferId) : device.Imports shelf [] device :=
  ⟨⟨[], rfl, rfl, trivial⟩, .nil, nofun⟩

/-- Nothing that happened concerns textures. -/
theorem of_barren (added : History) (events : after.events = added ++ before.events)
    (barren : ∀ event ∈ added, event.texture? = none ∧ event.textureRequest? = none) :
    before.Imports shelf [] after := by
  refine ⟨⟨added, events, ?_, ?_⟩, .nil, nofun⟩
  · rw [List.filterMap_eq_nil_iff.mpr fun event member => (barren event member).1]
    rfl
  · clear events
    induction added with
    | nil => trivial
    | cons event added ih =>
        refine ⟨fun buffer asked => ?_, ih fun other member =>
          barren other (List.mem_cons_of_mem _ member)⟩
        rw [(barren event List.mem_cons_self).2] at asked
        cases asked

theorem of_plain (plain : before.Plain after) : before.Imports shelf [] after := by
  obtain ⟨added, events, unproductive⟩ := plain.events
  exact of_barren added events fun event member =>
    DeviceEvent.texture?_of_plain (unproductive event member)

/-- What comes after leaves textures alone. -/
theorem quiet (imports : before.Imports shelf made middle)
    (rest : middle.Imports (shelf ∪ made.toFinset) [] after) :
    before.Imports shelf made after := by
  have both := imports.trans rest
  rwa [List.append_nil] at both

/-- What comes before leaves textures alone. -/
theorem after_quiet (rest : before.Imports shelf [] middle)
    (imports : middle.Imports shelf made after) : before.Imports shelf made after := by
  rw [← Finset.union_empty shelf] at imports
  exact rest.trans imports

end Imports

/-! ## Calls -/

section Calls

variable {device after : Device} {mode : Mode} {buffer : Buffer} {limit : UInt32}
  {shelf : Finset BufferId}

private theorem answer_texture {request : ImportRequest}
    {result : Except BindError ImageHandle} (absent : request.buffer.id ∉ shelf)
    (answered : device.answer mode .texture request = (result, after)) :
    device.Imports shelf (if result.isOk then [request.buffer.id] else []) after := by
  have needed : History.Always (DeviceEvent.Needed shelf)
      [.requested mode .texture request] := by
    refine ⟨fun asked same => ?_, trivial⟩
    cases same
    exact ⟨absent, List.not_mem_nil⟩
  have answers := answer_answered device mode .texture request
  rw [answered] at answers
  cases answers with
  | lost | rejected => exact ⟨⟨[_], rfl, rfl, needed⟩, .nil, nofun⟩
  | made =>
      refine ⟨⟨[_, _], rfl, rfl, nofun, needed⟩, List.nodup_singleton _, ?_⟩
      intro buffer only
      rw [List.mem_singleton.mp only]
      exact absent

private theorem answer_output (device : Device) (mode : Mode) (request : ImportRequest)
    (shelf : Finset BufferId) : device.Imports shelf [] (device.answer mode .output request).2 := by
  have asks : ∀ event ∈ ([.requested mode .output request] : History),
      event.texture? = none ∧ event.textureRequest? = none := by
    simp [DeviceEvent.texture?, DeviceEvent.textureRequest?]
  have answers := answer_answered device mode .output request
  generalize device.answer mode .output request = answered at answers ⊢
  cases answers with
  | lost | rejected => exact .of_barren [_] rfl asks
  | made =>
      refine .of_barren [.created _, _] rfl fun event member => ?_
      rcases List.mem_cons.mp member with rfl | asked
      · exact ⟨rfl, rfl⟩
      · exact asks event asked

theorem Imports.bindImage {result : Except BindError Image} (absent : buffer.id ∉ shelf)
    (bound : device.bindImage mode buffer limit = (result, after)) :
    device.Imports shelf (if result.isOk then [buffer.id] else []) after := by
  have checked := Plain.checkLost device
  unfold Device.bindImage at bound
  cases outcome : device.checkLost with
  | mk lost known =>
      rw [outcome] at checked bound
      cases lost with
      | true =>
          cases bound
          exact .of_plain checked
      | false =>
          dsimp only at bound
          cases accepted : ImportRequest.check buffer mode limit with
          | error error =>
              rw [accepted] at bound
              cases bound
              exact .of_plain checked
          | ok request =>
              have same := ImportRequest.check_buffer accepted
              rw [accepted] at bound
              dsimp only at bound
              cases answered : known.importBuffer mode request with
              | mk answer later =>
                  rw [answered] at bound
                  cases bound
                  rw [← same] at absent ⊢
                  have arrived := checked.trans (.arrive known .importBuffer)
                  have imports := (Imports.of_plain arrived).after_quiet
                    (answer_texture absent answered)
                  cases answer <;> exact imports

theorem Imports.createTarget (device : Device) (mode : Mode) (buffer : Buffer) (limit : UInt32)
    (shelf : Finset BufferId) :
    device.Imports shelf [] (device.createTarget mode buffer limit).2 := by
  have checked := Plain.checkLost device
  unfold Device.createTarget
  cases outcome : device.checkLost with
  | mk lost known =>
      rw [outcome] at checked
      cases lost with
      | true => exact .of_plain checked
      | false =>
          dsimp only
          cases ImportRequest.check buffer mode limit with
          | error error => exact .of_plain checked
          | ok request =>
              exact (Imports.of_plain (checked.trans (.arrive known .createOutputImage))).quiet
                (answer_output _ mode _ _)

theorem Imports.drawLayer (device : Device) (mode : Mode) (target : ImageHandle)
    (source : Option ImageHandle) (layer : Layer) (shelf : Finset BufferId) :
    device.Imports shelf [] (device.drawLayer mode target source layer).2 := by
  have handed : Plain device
      ((device.arrive .drawLayer).log (.handed mode .draw (target :: source.toList))) :=
    (Plain.arrive device .drawLayer).trans (.log _ rfl)
  have answers := acceptDraw_answered (device.arrive .drawLayer) mode target source
  unfold Device.drawLayer
  generalize (device.arrive .drawLayer).acceptDraw mode target source = answered at answers ⊢
  cases answers with
  | lost => exact .of_plain handed
  | misused => exact .of_plain (handed.trans (.log _ rfl))
  | done =>
      refine (Imports.of_plain handed).quiet (.of_barren [_] rfl fun event member => ?_)
      rw [List.mem_singleton.mp member]
      exact ⟨rfl, rfl⟩

end Calls

end Device

end Compositor
