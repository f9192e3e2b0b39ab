import Compositor.Binding
import Compositor.Proofs.Device.Plain

/-!
# Dealings with a context

What an engine does in one mode: it asks that context for images, with requests that were checked,
it draws with it, and everything else is plain. The history of such dealings tells of each image
which request it was made for. Nothing here assumes that the device stays usable.
-/

set_option autoImplicit false

namespace Compositor

namespace ImportRequest

/-- What a context may be asked for. -/
structure Admissible (limit : UInt32) (mode : Mode) (kind : ImageKind)
    (request : ImportRequest) : Prop where
  meant : request.mode = mode
  width : 1 ≤ request.buffer.width ∧ request.buffer.width ≤ limit
  height : 1 ≤ request.buffer.height ∧ request.buffer.height ≤ limit
  source : request.buffer.isProtected = true → mode = .secure
  /-- A texture is as protected as its buffer, and a target as its context. -/
  content : request.protectedContent =
    match kind with
    | .texture => request.buffer.isProtected
    | .output => mode.isSecure

variable {buffer : Buffer} {mode : Mode} {limit : UInt32} {request : ImportRequest}

theorem check_admissible (accepted : check buffer mode limit = .ok request) :
    request.Admissible limit mode .texture := by
  unfold check at accepted
  split at accepted
  · cases accepted
  · rename_i extent
    split at accepted
    · cases accepted
    · rename_i fits
      split at accepted
      · cases accepted
      · rename_i contained
        cases accepted
        simp only [not_or, UInt32.not_lt] at extent fits
        refine ⟨rfl, ⟨by grind, fits.1⟩, ⟨by grind, fits.2⟩, fun guarded => ?_, rfl⟩
        cases mode with
        | normal => exact absurd ⟨guarded, rfl⟩ contained
        | secure => rfl

theorem Admissible.asTarget (admissible : request.Admissible limit mode .texture) :
    Admissible limit mode .output { request with protectedContent := mode.isSecure } :=
  ⟨admissible.meant, admissible.width, admissible.height, admissible.source, rfl⟩

end ImportRequest

namespace Device

/-- What an engine does in a mode, with so many draws. -/
inductive Dealings (limit : UInt32) (mode : Mode) (start : Device) : Nat → Device → Prop where
  | start : Dealings limit mode start 0 start
  | plain {drawn : Nat} {before after : Device} :
      Dealings limit mode start drawn before → Plain before after →
      Dealings limit mode start drawn after
  | ask {drawn : Nat} {device : Device} {kind : ImageKind} {request : ImportRequest} :
      Dealings limit mode start drawn device → request.Admissible limit mode kind →
      Dealings limit mode start drawn (device.answer mode kind request).2
  | draw {drawn : Nat} {device : Device} {target : ImageHandle} {source : Option ImageHandle} :
      Dealings limit mode start drawn device →
      Dealings limit mode start (drawn + 1) (device.log (.drawn ⟨mode, target, source⟩))

namespace Dealings

variable {limit : UInt32} {mode : Mode}

theorem ofPlain {before after : Device} (plain : Plain before after) :
    Dealings limit mode before 0 after := .plain .start plain

theorem trans {first second third : Device} {early late : Nat}
    (left : Dealings limit mode first early second)
    (right : Dealings limit mode second late third) :
    Dealings limit mode first (early + late) third := by
  induction right with
  | start => exact left
  | plain _ plain ih => exact ih.plain plain
  | ask _ admissible ih => exact ih.ask admissible
  | draw _ ih => exact ih.draw

theorem usable {start after : Device} {drawn : Nat}
    (dealings : Dealings limit mode start drawn after) (usable : after.lost = false) :
    start.lost = false := by
  induction dealings with
  | start => exact usable
  | plain _ plain ih => exact ih (plain.usable usable)
  | ask _ _ ih => exact ih ((answer_answered _ _ _ _).lost_eq.symm.trans usable)
  | draw _ ih => exact ih usable

variable (device : Device)

theorem bindImage (buffer : Buffer) :
    Dealings limit mode device 0 (device.bindImage mode buffer limit).2 := by
  have asked := Plain.checkLost device
  unfold Device.bindImage
  cases outcome : device.checkLost with
  | mk lost known =>
      rw [outcome] at asked
      cases lost with
      | true => exact ofPlain asked
      | false =>
          dsimp only
          cases checked : ImportRequest.check buffer mode limit with
          | error error => exact ofPlain asked
          | ok request =>
              exact (ofPlain (asked.trans (.arrive known .importBuffer))).ask
                (ImportRequest.check_admissible checked)

theorem createTarget (buffer : Buffer) :
    Dealings limit mode device 0 (device.createTarget mode buffer limit).2 := by
  have asked := Plain.checkLost device
  unfold Device.createTarget
  cases outcome : device.checkLost with
  | mk lost known =>
      rw [outcome] at asked
      cases lost with
      | true => exact ofPlain asked
      | false =>
          dsimp only
          cases checked : ImportRequest.check buffer mode limit with
          | error error => exact ofPlain asked
          | ok request =>
              exact (ofPlain (asked.trans (.arrive known .createOutputImage))).ask
                (ImportRequest.check_admissible checked).asTarget

/-- How many draws an answer stands for. -/
def counted : Except EngineError Unit → Nat
  | .ok () => 1
  | .error _ => 0

theorem drawLayer (target : ImageHandle) (source : Option ImageHandle) (layer : Layer) :
    Dealings limit mode device (counted (device.drawLayer mode target source layer).1)
      (device.drawLayer mode target source layer).2 := by
  have handed : Plain device
      ((device.arrive .drawLayer).log (.handed mode .draw (target :: source.toList))) :=
    (Plain.arrive device .drawLayer).trans (.log _ rfl)
  have answers := acceptDraw_answered (device.arrive .drawLayer) mode target source
  unfold Device.drawLayer
  generalize (device.arrive .drawLayer).acceptDraw mode target source = answered at answers ⊢
  cases answers with
  | lost => exact ofPlain handed
  | misused => exact ofPlain (handed.trans (.log _ rfl))
  | done => exact (ofPlain handed).draw

end Dealings

end Device

/-! ## What the history tells of requests -/

/-- Requests were checked, and an image is made at once for the request before. -/
def DeviceEvent.Vetted (limit : UInt32) (event : DeviceEvent) (earlier : History) : Prop :=
  match event with
  | .requested mode kind request => request.Admissible limit mode kind
  | .created image =>
      ∃ request rest, earlier = .requested image.mode image.kind request :: rest ∧
        request.buffer.id = image.buffer
  | _ => True

namespace History

/-- An image was made for a request. -/
def Imported (image : LiveImage) (request : ImportRequest) (events : History) : Prop :=
  ∃ later earlier,
    events = later ++ .created image :: .requested image.mode image.kind request :: earlier

/-- An image with this handle was made, and never for a request whose buffer is protected. -/
def Unprotected (handle : ImageHandle) (events : History) : Prop :=
  (∃ image request, Imported image request events ∧ image.handle = handle) ∧
    ∀ image request, Imported image request events → image.handle = handle →
      request.buffer.isProtected = false

theorem Imported.created {image : LiveImage} {request : ImportRequest} {events : History}
    (imported : Imported image request events) : .created image ∈ events := by
  obtain ⟨later, earlier, rfl⟩ := imported
  exact List.mem_append_right _ List.mem_cons_self

theorem always_tail {condition : DeviceEvent → History → Prop} {later events : History}
    (always : Always condition (later ++ events)) : Always condition events := by
  induction later with
  | nil => exact always
  | cons event later ih => exact ih always.2

theorem Imported.admissible {limit : UInt32} {image : LiveImage} {request : ImportRequest}
    {events : History} (imported : Imported image request events)
    (vetted : Always (DeviceEvent.Vetted limit) events) :
    request.Admissible limit image.mode image.kind := by
  obtain ⟨later, earlier, rfl⟩ := imported
  exact (always_tail vetted).2.1

theorem imported_of_created {limit : UInt32} {image : LiveImage} {events : History}
    (created : .created image ∈ events) (vetted : Always (DeviceEvent.Vetted limit) events) :
    ∃ request, Imported image request events ∧ request.buffer.id = image.buffer := by
  obtain ⟨later, earlier, rfl⟩ := List.append_of_mem created
  obtain ⟨request, rest, rfl, same⟩ := (always_tail vetted).1
  exact ⟨request, ⟨later, rest, rfl⟩, same⟩

end History

namespace DeviceEvent

theorem vetted_of_unproductive (limit : UInt32) {event : DeviceEvent}
    (unproductive : event.isProductive = false) (earlier : History) :
    event.Vetted limit earlier := by
  cases event <;> first | exact trivial | cases unproductive

end DeviceEvent

namespace Device

variable {limit : UInt32} {mode : Mode} {before after : Device} {drawn : Nat}

theorem Dealings.vetted (dealings : Dealings limit mode before drawn after)
    (vetted : History.Always (DeviceEvent.Vetted limit) before.events) :
    History.Always (DeviceEvent.Vetted limit) after.events := by
  induction dealings with
  | start => exact vetted
  | plain _ plain ih =>
      obtain ⟨added, events, unproductive⟩ := plain.events
      rw [events]
      exact ih.append fun event member =>
        DeviceEvent.vetted_of_unproductive limit (unproductive event member)
  | ask _ admissible ih =>
      unfold answer
      dsimp only
      split
      · exact ⟨admissible, ih⟩
      · split
        · exact ⟨admissible, ih⟩
        · exact ⟨⟨_, _, rfl, rfl⟩, admissible, ih⟩
  | draw _ ih => exact ⟨trivial, ih⟩

/-- So many draws were added, all of them in one mode. -/
def DrawsIn (mode : Mode) (before : Device) (drawn : Nat) (after : Device) : Prop :=
  ∃ added : History, after.events = added ++ before.events ∧
    (added.filterMap DeviceEvent.draw?).length = drawn ∧
    ∀ record ∈ added.filterMap DeviceEvent.draw?, record.mode = mode

/-- Events were added, of which none is a draw. -/
theorem DrawsIn.append {later : Device} (draws : DrawsIn mode before drawn after) (new : History)
    (events : later.events = new ++ after.events)
    (none : new.filterMap DeviceEvent.draw? = []) : DrawsIn mode before drawn later := by
  obtain ⟨added, same, count, modes⟩ := draws
  refine ⟨new ++ added, ?_, ?_, ?_⟩
  · rw [events, same, List.append_assoc]
  · rw [List.filterMap_append, none, List.nil_append, count]
  · rw [List.filterMap_append, none, List.nil_append]
    exact modes

theorem Plain.drawless {added : History}
    (unproductive : ∀ event ∈ added, event.isProductive = false) :
    added.filterMap DeviceEvent.draw? = [] := by
  rw [List.filterMap_eq_nil_iff]
  intro event member
  have quiet := unproductive event member
  cases event <;> first | rfl | cases quiet

theorem draws_eq (device : Device) :
    device.draws = (device.events.filterMap DeviceEvent.draw?).reverse := by
  rw [draws, history, eventsSince, List.drop_zero, List.filterMap_reverse]

theorem Plain.draws (plain : Plain before after) : after.draws = before.draws := by
  obtain ⟨added, events, unproductive⟩ := plain.events
  rw [draws_eq, draws_eq, events, List.filterMap_append, drawless unproductive, List.nil_append]

theorem Dealings.drawsIn (dealings : Dealings limit mode before drawn after) :
    DrawsIn mode before drawn after := by
  induction dealings with
  | start => exact ⟨[], rfl, rfl, by simp⟩
  | plain _ plain ih =>
      obtain ⟨added, events, unproductive⟩ := plain.events
      exact ih.append added events (Plain.drawless unproductive)
  | ask _ _ ih =>
      unfold answer
      dsimp only
      split
      · exact ih.append [_] rfl rfl
      · split
        · exact ih.append [_] rfl rfl
        · exact ih.append [_, _] rfl rfl
  | @draw _ _ target source _ ih =>
      obtain ⟨added, events, count, modes⟩ := ih
      refine ⟨.drawn ⟨mode, target, source⟩ :: added, ?_, ?_, ?_⟩
      · rw [log, events, List.cons_append]
      · simp [DeviceEvent.draw?, count]
      · simpa [DeviceEvent.draw?] using modes

theorem Dealings.draws (dealings : Dealings limit mode before 0 after) :
    after.draws = before.draws := by
  obtain ⟨added, events, count, -⟩ := dealings.drawsIn
  rw [draws_eq, draws_eq, events, List.filterMap_append, List.length_eq_zero_iff.mp count,
    List.nil_append]

end Device

end Compositor
