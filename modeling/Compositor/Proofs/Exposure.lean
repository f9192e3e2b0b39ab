import Compositor.Proofs.Ledger

/-!
# Sessions on a shared device

A device may have other users than the engine: whoever has a context of their own can destroy images
behind its back. So between two actions of a session any image may disappear. What an engine has from
the start and keeps through each operation, it keeps in such company too, unless it depends on which
images there are.
-/

set_option autoImplicit false

namespace Compositor

/-- What can happen to a session on a shared device. -/
inductive Incident where
  | act (action : Action)
  /-- Another user of the device destroys an image through a context of its own. -/
  | meddle (mode : Mode) (handle : ImageHandle)
  deriving DecidableEq, Repr

namespace Session

def befall (session : Session) : Incident → Session
  | .act action => (session.step action).2
  | .meddle mode handle => session.setDevice (session.device.release mode handle)

def endure (session : Session) (incidents : List Incident) : Session :=
  incidents.foldl befall session

/-- A session that is left alone. -/
theorem endure_actions (session : Session) (actions : List Action) :
    session.endure (actions.map .act) = (session.run actions).2 := by
  rw [endure, List.foldl_map, run_eq_foldl]
  rfl

end Session

/-- What happens to a device between the operations of an engine. -/
inductive Device.Meddled (before : Device) : Device → Prop where
  | step {after : Device} : Step before after → Meddled before after
  | release (mode : Mode) (handle : ImageHandle) : Meddled before (before.release mode handle)

namespace Device.Meddled

variable {before after : Device}

theorem issued (meddled : before.Meddled after) : after.issued = before.issued := by
  cases meddled with
  | step step => exact step.extends.issued
  | release mode handle => exact (Plain.release before mode handle).issued

theorem lost (meddled : before.Meddled after) : before.lost = true → after.lost = true := by
  cases meddled with
  | step step => exact step.extends.lost
  | release mode handle => exact (Plain.release before mode handle).lost

theorem events (meddled : before.Meddled after) :
    ∃ added : History, after.events = added ++ before.events := by
  cases meddled with
  | step step =>
      obtain ⟨added, events, -⟩ := step.extends.events
      exact ⟨added, events⟩
  | release mode handle =>
      obtain ⟨added, events, -⟩ := (Plain.release before mode handle).events
      exact ⟨added, events⟩

end Device.Meddled

/-! ## What callers learn -/

/-- What an operation tells of submissions. -/
inductive Entry where
  /-- A frame or a flush was submitted as `frame`. -/
  | submitted (frame : FrameSeq) (fence : Fence)
  /-- A frame whose target was rejected had this number. -/
  | dropped (frame : FrameSeq)
  /-- A cleanup released what the latest submissions had used. -/
  | released
  deriving DecidableEq, Repr

/-- What an action tells by its outcome. Some outcomes do not name their number, which is the latest
one of the engine then. -/
def Action.tells? (action : Action) (outcome : Outcome) (after : Engine) : Option Entry :=
  match action, outcome with
  | .draw _, .frame (.ok output) => some (.submitted output.status.frame output.fence)
  | .draw _, .frame (.error (.bind _)) => some (.dropped after.progress.lastIssued)
  | .flush, .flushed (.ok fence) => some (.submitted after.progress.lastIssued fence)
  | .cleanup, .flag true => some .released
  | _, _ => none

/-- Holds for what ends the engine there is. -/
def Incident.replacesEngine : Incident → Bool
  | .act action => action.replacesEngine
  | .meddle .. => false

namespace Session

/-- Notes in the diary of an engine, the latest entry first, what an incident tells. A new engine
starts a new diary. -/
def jot (session : Session) (diary : List Entry) : Incident → List Entry
  | .meddle .. => diary
  | .act action =>
    if action.replacesEngine then []
    else
      match (session.step action).2.engine? with
      | none => diary
      | some after => (action.tells? (session.step action).1 after).toList ++ diary

def diaryFrom (diary : List Entry) (session : Session) : List Incident → List Entry
  | [] => diary
  | incident :: rest => diaryFrom (session.jot diary incident) (session.befall incident) rest

/-- What the operations of the engine that is there in the end have told. -/
def diary (session : Session) (incidents : List Incident) : List Entry :=
  session.diaryFrom [] incidents

theorem diaryFrom_append (session : Session) (diary : List Entry)
    (earlier later : List Incident) :
    session.diaryFrom diary (earlier ++ later) =
      (session.endure earlier).diaryFrom (session.diaryFrom diary earlier) later := by
  induction earlier generalizing session diary with
  | nil => rfl
  | cons incident rest ih => exact ih _ _

/-- As long as the engine is not replaced, its diary grows. -/
theorem diaryFrom_notes (session : Session) (notes diary : List Entry) {incidents : List Incident}
    (same : ∀ incident ∈ incidents, incident.replacesEngine = false) :
    session.diaryFrom (notes ++ diary) incidents = session.diaryFrom notes incidents ++ diary := by
  induction incidents generalizing session notes with
  | nil => rfl
  | cons incident rest ih =>
      have grows : session.jot (notes ++ diary) incident = session.jot notes incident ++ diary := by
        cases incident with
        | meddle mode handle => rfl
        | act action =>
            have stays : action.replacesEngine = false := same (.act action) List.mem_cons_self
            rw [jot, jot, if_neg (by simp [stays]), if_neg (by simp [stays])]
            cases (session.step action).2.engine? with
            | none => rfl
            | some after => exact (List.append_assoc _ _ _).symm
      rw [diaryFrom, diaryFrom, grows]
      exact ih _ _ fun incident member => same incident (List.mem_cons_of_mem _ member)

theorem diary_append (session : Session) (earlier later : List Incident)
    (same : ∀ incident ∈ later, incident.replacesEngine = false) :
    session.diary (earlier ++ later) =
      (session.endure earlier).diary later ++ session.diary earlier := by
  rw [diary, diaryFrom_append]
  exact diaryFrom_notes _ [] _ same

end Session

/-! ## Invariants of the device -/

/-- What a device has at all times, with an engine on it or without. -/
structure Device.Lasting (holds : Device → Prop) : Prop where
  meddled : ∀ {before after : Device}, holds before → before.Meddled after → holds after
  operated : ∀ {engine : Engine} {action : Action} {result : Outcome × Engine},
    holds engine.device → Session.operate engine action = some result → holds result.2.device
  torn : ∀ {engine : Engine}, holds engine.device → holds engine.teardown

/-- What the worker does for a request is an operation of the engine, and tells nothing. -/
theorem ImageRequest.apply_operates (request : ImageRequest) (engine : Engine) :
    ∃ action outcome, Session.operate engine action = some (outcome, (request.apply engine).2) ∧
      action.tells? outcome (request.apply engine).2 = none := by
  cases request with
  | cache buffer => exact ⟨.bind buffer, _, rfl, rfl⟩
  | unbind buffer => exact ⟨.unbind buffer, _, rfl, rfl⟩

namespace Session

variable {session : Session}

/-- Requests are applied, or nothing happens to the engine. -/
theorem request_keeps {holds : Engine → Prop} {engine after : Engine}
    (applied : ∀ request engine, holds engine → holds (ImageRequest.apply request engine).2)
    (start : holds engine) (occupied : session.engine? = some engine) {action : Action}
    (later : (session.request engine action).2.engine? = some after) : holds after := by
  have here : session.engine? = some after → holds after := by
    intro same
    cases occupied.symm.trans same
    exact start
  cases action with
  | serve =>
      cases later
      exact ImageRequests.serve_keeps applied session.requests start
  | collect ticket =>
      cases later
      exact ImageRequests.await_keeps applied session.requests ticket start
  | _ => exact here later

/-- Requests leave the engine in place. -/
theorem request_occupied {engine : Engine} (occupied : session.engine? = some engine)
    (action : Action) : ∃ after, (session.request engine action).2.engine? = some after := by
  cases action with
  | serve => exact ⟨_, rfl⟩
  | collect ticket => exact ⟨_, rfl⟩
  | _ => exact ⟨engine, occupied⟩

end Session

namespace Device.Lasting

variable {holds : Device → Prop} {session : Session}

theorem applied (lasting : Lasting holds) (request : ImageRequest) (engine : Engine)
    (start : holds engine.device) : holds (request.apply engine).2.device := by
  obtain ⟨_, _, operated, -⟩ := request.apply_operates engine
  exact lasting.operated start operated

theorem stop (lasting : Lasting holds) (start : holds session.device) :
    holds session.stop.device := by
  unfold Session.stop
  cases tenancy : session.tenancy with
  | vacant device => exact start
  | occupied engine =>
      have here : holds engine.device := by
        rwa [Session.device, tenancy] at start
      have served := @ImageRequests.serveMany_keeps (fun engine => holds engine.device)
        lasting.applied session.requests.waiting.length session.requests engine here
      exact lasting.torn served

theorem step (lasting : Lasting holds) (start : holds session.device) (action : Action) :
    holds (session.step action).2.device := by
  have stepped := session.step_stepped action
  generalize session.step action = result at stepped
  cases stepped with
  | started options =>
      have stopped := lasting.stop start
      unfold Session.start
      cases created : Engine.create session.stop.device session.stop.capabilities options
          session.stop.order with
      | error error => exact stopped
      | ok engine =>
          obtain ⟨-, rfl⟩ := Engine.create_eq created
          exact stopped
  | stopped => exact lasting.stop start
  | scripted scripted =>
      obtain ⟨device, changed, step⟩ := Session.script_steps scripted
      rw [changed, Session.setDevice_device]
      exact lasting.meddled start (.step step)
  | absent => exact start
  | operated occupied operated =>
      rw [Session.device_of_engine? occupied] at start
      exact lasting.operated start operated
  | @requested _ engine occupied =>
      rw [Session.device_of_engine? occupied] at start
      obtain ⟨after, later⟩ := Session.request_occupied occupied action
      rw [Session.device_of_engine? later]
      exact @Session.request_keeps session (fun engine => holds engine.device) engine after
        lasting.applied start occupied action later

theorem befall (lasting : Lasting holds) (start : holds session.device) (incident : Incident) :
    holds (session.befall incident).device := by
  cases incident with
  | act action => exact lasting.step start action
  | meddle mode handle =>
      rw [Session.befall, Session.setDevice_device]
      exact lasting.meddled start (.release mode handle)

theorem endure (lasting : Lasting holds) (start : holds session.device)
    (incidents : List Incident) : holds (session.endure incidents).device := by
  induction incidents generalizing session with
  | nil => exact start
  | cons incident rest ih => exact ih (lasting.befall start incident)

end Device.Lasting

/-! ## Invariants of the engine -/

/-- What an engine with a diary has from the start and keeps, whatever happens to the images of its
device, on a device of which `suits` holds at all times. -/
structure Engine.Told (suits : Device → Prop) (holds : List Entry → Engine → Prop) : Prop where
  created : ∀ {device : Device} {capabilities : Capabilities} {options : EngineOptions}
    {order : ReleaseOrder} {engine : Engine}, suits device →
    Engine.create device capabilities options order = .ok engine → holds [] engine
  operated : ∀ {diary : List Entry} {engine after : Engine} {action : Action} {outcome : Outcome},
    holds diary engine → Session.operate engine action = some (outcome, after) →
    holds ((action.tells? outcome after).toList ++ diary) after
  meddled : ∀ {diary : List Entry} {engine : Engine} {device : Device}, holds diary engine →
    engine.device.Meddled device → holds diary { engine with device }

namespace Engine.Told

variable {suits : Device → Prop} {holds : List Entry → Engine → Prop} {session : Session}
  {diary : List Entry} {after : Engine}

theorem applied (told : Told suits holds) (request : ImageRequest) (engine : Engine)
    (start : holds diary engine) : holds diary (request.apply engine).2 := by
  obtain ⟨action, outcome, operated, silent⟩ := request.apply_operates engine
  have noted := told.operated start operated
  rwa [silent] at noted

theorem setDevice (told : Told suits holds)
    (start : ∀ engine, session.engine? = some engine → holds diary engine) {device : Device}
    (meddled : session.device.Meddled device)
    (later : (session.setDevice device).engine? = some after) : holds diary after := by
  rw [Session.setDevice_engine?] at later
  obtain ⟨engine, occupied, rfl⟩ := Option.map_eq_some_iff.mp later
  rw [Session.device_of_engine? occupied] at meddled
  exact told.meddled (start engine occupied) meddled

theorem restarted (told : Told suits holds) (lasting : Device.Lasting suits)
    (suited : suits session.device) {options : EngineOptions}
    (later : (session.stop.start options).2.engine? = some after) : holds [] after := by
  unfold Session.start at later
  cases created : Engine.create session.stop.device session.stop.capabilities options
      session.stop.order with
  | error error =>
      rw [created] at later
      cases session.stop_engine?.symm.trans later
  | ok engine =>
      rw [created] at later
      cases later
      exact told.created (lasting.stop suited) created

theorem step (told : Told suits holds) (lasting : Device.Lasting suits)
    (suited : suits session.device)
    (start : ∀ engine, session.engine? = some engine → holds diary engine) (action : Action)
    (later : (session.step action).2.engine? = some after) :
    holds (session.jot diary (.act action)) after := by
  have stepped := session.step_stepped action
  have jotted : session.jot diary (.act action) = if action.replacesEngine then [] else
      (action.tells? (session.step action).1 after).toList ++ diary := by
    rw [Session.jot, later]
  rw [jotted]
  generalize session.step action = result at stepped later
  cases stepped with
  | started options => exact told.restarted lasting suited later
  | stopped => cases session.stop_engine?.symm.trans later
  | scripted scripted =>
      obtain ⟨device, changed, step⟩ := Session.script_steps scripted
      rw [changed] at later
      have kept := told.setDevice start (.step step) later
      cases action <;> first | exact kept | cases scripted
  | absent vacant => cases vacant.symm.trans later
  | operated occupied operated =>
      cases later
      have kept := told.operated (start _ occupied) operated
      cases action <;> first | exact kept | cases operated
  | @requested _ engine occupied concerns =>
      have kept := Session.request_keeps told.applied (start _ occupied) occupied later
      cases action <;> first | exact kept | cases concerns

theorem befall (told : Told suits holds) (lasting : Device.Lasting suits)
    (suited : suits session.device)
    (start : ∀ engine, session.engine? = some engine → holds diary engine) (incident : Incident)
    (later : (session.befall incident).engine? = some after) :
    holds (session.jot diary incident) after := by
  cases incident with
  | act action => exact told.step lasting suited start action later
  | meddle mode handle => exact told.setDevice start (.release mode handle) later

theorem endure (told : Told suits holds) (lasting : Device.Lasting suits)
    (suited : suits session.device)
    (start : ∀ engine, session.engine? = some engine → holds diary engine)
    (incidents : List Incident) (later : (session.endure incidents).engine? = some after) :
    holds (session.diaryFrom diary incidents) after := by
  induction incidents generalizing session diary with
  | nil => exact start after later
  | cons incident rest ih =>
      exact ih (lasting.befall suited incident)
        (fun _ occupied => told.befall lasting suited start incident occupied) later

/-- What is told of every engine holds of the one that is there in the end. -/
theorem endure_new (told : Told suits holds) (lasting : Device.Lasting suits) {device : Device}
    {capabilities : Capabilities} {order : ReleaseOrder} (suited : suits device)
    (incidents : List Incident)
    (later : ((Session.new device capabilities order).endure incidents).engine? = some after) :
    holds ((Session.new device capabilities order).diary incidents) after := by
  have fresh : suits (Session.new device capabilities order).device := suited
  exact told.endure lasting fresh (fun _ occupied => by cases occupied) incidents later

end Engine.Told

/-- What an engine has from the start and keeps, whatever happens to the images of its device. -/
structure Engine.Enduring (holds : Engine → Prop) : Prop where
  created : ∀ {device : Device} {capabilities : Capabilities} {options : EngineOptions}
    {order : ReleaseOrder} {engine : Engine},
    Engine.create device capabilities options order = .ok engine → holds engine
  operated : ∀ {engine : Engine} {action : Action} {result : Outcome × Engine},
    holds engine → Session.operate engine action = some result → holds result.2
  exposed : ∀ {engine : Engine} {device : Device}, holds engine →
    device.issued = engine.device.issued → (engine.device.lost = true → device.lost = true) →
    holds { engine with device }

/-- An enduring property holds of every engine that comes about in a session. -/
theorem Engine.Enduring.endure_new {holds : Engine → Prop} (enduring : Enduring holds)
    {device : Device} {capabilities : Capabilities} {order : ReleaseOrder} {after : Engine}
    (incidents : List Incident)
    (later : ((Session.new device capabilities order).endure incidents).engine? = some after) :
    holds after := by
  have told : Told (fun _ => True) (fun _ engine => holds engine) :=
    ⟨fun _ created => enduring.created created, enduring.operated, fun start meddled =>
      enduring.exposed start meddled.issued meddled.lost⟩
  exact told.endure_new ⟨fun _ _ => trivial, fun _ _ => trivial, fun _ => trivial⟩ trivial incidents
    later

end Compositor
