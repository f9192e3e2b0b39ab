import Compositor.Proofs.Backlog
import Compositor.Proofs.Device.Census

/-!
# Anyone's demands on a device

A device can be used by anyone: through any number of contexts of both modes, with handles that are
dead, foreign or made up, while it is scripted and lost at any moment. A context is told by its mode
here, since contexts of one mode are alike. There are a few ways in which a device meets a demand,
and what holds of all of them holds of every demand.
-/

set_option autoImplicit false

namespace Compositor

inductive Demand where
  | openContext (mode : Mode)
  | checkLost
  | importBuffer (mode : Mode) (request : ImportRequest)
  | createOutputImage (mode : Mode) (request : ImportRequest)
  | destroyImage (mode : Mode) (handle : ImageHandle)
  | beginFrame (mode : Mode) (target : ImageHandle) (display : Display)
  | drawLayer (mode : Mode) (target : ImageHandle) (source : Option ImageHandle) (layer : Layer)
  | flush
  | finish
  | await (fence : Fence)
  | createFence (origin : FenceOrigin) (status : FenceStatus)
  | settleFence (outcome : FenceStatus) (fence : Fence)
  | signalNext
  | signalAll
  | rejectImports (buffer : BufferId)
  | allowImports (buffer : BufferId)
  | lose
  | scheduleLoss (call : ContextCall) (passing : Nat)

namespace Demand

/-- The call of a context, before which the device may be lost. -/
def call? : Demand → Option ContextCall
  | checkLost => some .checkLost
  | importBuffer .. => some .importBuffer
  | createOutputImage .. => some .createOutputImage
  | destroyImage .. => some .destroyImage
  | beginFrame .. => some .beginFrame
  | drawLayer .. => some .drawLayer
  | flush => some .flush
  | finish => some .finish
  | _ => none

end Demand

inductive Response where
  | nothing
  | flag (value : Bool)
  | done (result : Except EngineError Unit)
  | texture (result : Except BindError ImageHandle)
  | target (result : Except EngineError ImageHandle)
  | submitted (fence : Option Fence)
  /-- A fence that belongs to the caller. -/
  | created (fence : Fence)

namespace Response

def handle? : Response → Option ImageHandle
  | texture (.ok handle) | target (.ok handle) => some handle
  | _ => none

/-- The fence of a submission. -/
def fence? : Response → Option Fence
  | submitted given => given
  | _ => none

@[simp] theorem handle?_texture (result : Except BindError ImageHandle) :
    (texture result).handle? = result.toOption := by
  cases result <;> rfl

/-- A failure is told in another way, but the handle stays. -/
@[simp] theorem handle?_target (result : Except BindError ImageHandle) :
    (target (result.mapError Device.targetFailure)).handle? = result.toOption := by
  cases result <;> rfl

/-- Neither an image nor the fence of a submission is handed out. -/
def Bare (response : Response) : Prop := response.handle? = none ∧ response.fence? = none

end Response

namespace Device

def meet (device : Device) : Demand → Response × Device
  | .openContext mode => (.done (device.openContext mode), device)
  | .checkLost =>
    let (lost, device) := device.checkLost
    (.flag lost, device)
  | .importBuffer mode request =>
    let (result, device) := device.importBuffer mode request
    (.texture result, device)
  | .createOutputImage mode request =>
    let (result, device) := device.createOutputImage mode request
    (.target result, device)
  | .destroyImage mode handle => (.nothing, device.destroyImage mode handle)
  | .beginFrame mode target display =>
    let (result, device) := device.beginFrame mode target display
    (.done result, device)
  | .drawLayer mode target source layer =>
    let (result, device) := device.drawLayer mode target source layer
    (.done result, device)
  | .flush =>
    let (fence, device) := device.flush
    (.submitted fence, device)
  | .finish =>
    let (drained, device) := device.finish
    (.flag drained, device)
  | .await fence =>
    let (signaled, device) := device.await fence
    (.flag signaled, device)
  | .createFence origin status =>
    let (fence, device) := device.createFence origin status
    (.created fence, device)
  | .settleFence outcome fence => (.nothing, device.settleFence outcome fence)
  | .signalNext =>
    let (signaled, device) := device.signalNext
    (.flag signaled, device)
  | .signalAll => (.nothing, device.signalAll)
  | .rejectImports buffer => (.nothing, device.rejectImports buffer)
  | .allowImports buffer => (.nothing, device.allowImports buffer)
  | .lose => (.nothing, device.lose)
  | .scheduleLoss call passing => (.nothing, device.scheduleLoss call passing)

/-- The device as it answers, which is after a loss that was scheduled. -/
def arrived (device : Device) (demand : Demand) : Device := demand.call?.elim device device.arrive

/-- Answers a demand that has arrived. -/
def respond (device : Device) : Demand → Response × Device
  | .checkLost => (.flag device.lost, device)
  | .importBuffer mode request =>
    let (result, device) := device.answer mode .texture request
    (.texture result, device)
  | .createOutputImage mode request =>
    let (result, device) := device.answer mode .output request
    (.target (result.mapError targetFailure), device)
  | .destroyImage mode handle => (.nothing, device.acceptDestroy mode handle)
  | .beginFrame mode target _ =>
    let (result, device) := device.acceptBegin mode target
    (.done result, device)
  | .drawLayer mode target source _ =>
    let (result, device) := device.acceptDraw mode target source
    (.done result, device)
  | .flush =>
    let (fence, device) := device.acceptFlush
    (.submitted fence, device)
  | .finish =>
    let (drained, device) := device.acceptFinish
    (.flag drained, device)
  | demand => device.meet demand

/-- A demand uses an image that its context does not have. Contexts of a lost device neither begin
frames nor draw, so they do not look at the handles. -/
inductive Offends (device : Device) : Demand → Misuse → Prop where
  | destroy {mode : Mode} {handle : ImageHandle} {misuse : Misuse} :
      device.Forbids mode .destroy handle misuse →
      Offends device (.destroyImage mode handle) misuse
  | begin {mode : Mode} {target : ImageHandle} {display : Display} {misuse : Misuse} :
      device.lost = false → device.Forbids mode .beginFrame target misuse →
      Offends device (.beginFrame mode target display) misuse
  /-- Of the images of a draw, only the one to sample is looked at. -/
  | draw {mode : Mode} {target source : ImageHandle} {layer : Layer} {misuse : Misuse} :
      device.lost = false → device.Forbids mode .draw source misuse →
      Offends device (.drawLayer mode target (some source) layer) misuse

/-- Nothing changed but the history, and that does not tell of any other use. -/
structure Unmoved (before after : Device) : Prop where
  options : after.options = before.options
  fences : after.fences = before.fences
  issued : after.issued = before.issued
  live : after.live = before.live
  pending : after.pending = before.pending
  rejecting : after.rejecting = before.rejecting
  lost : after.lost = before.lost
  schedule : after.schedule = before.schedule
  created : History.created after.events = History.created before.events
  destroyed : after.destroyed = before.destroyed
  draws : after.draws = before.draws
  flushes : after.flushes = before.flushes
  finishes : after.finishes = before.finishes

/-- What becomes of the pending fences when a fence may be given. -/
inductive Shifts (before : List Fence) (given : Option Fence) : List Fence → Prop where
  | stay : Shifts before given before
  | join {fence : Fence} : given = some fence → Shifts before given (before ++ [fence])
  | oldest : Shifts before given before.tail
  | all : Shifts before given []

/-- A lost device makes no image, records no draw and gives no fence. -/
structure Barren (before : Device) (response : Response) (after : Device) : Prop where
  lost : after.lost = true
  issued : after.issued = before.issued
  created : History.created after.events = History.created before.events
  draws : after.draws = before.draws
  bare : response.Bare

variable {device : Device} {demand : Demand} {response : Response} {after : Device}

/-! ## Arrival -/

theorem meet_eq (device : Device) (demand : Demand) :
    device.meet demand = (device.arrived demand).respond demand := by
  cases demand <;> rfl

theorem arrived_steps (device : Device) (demand : Demand) :
    Steps device (device.arrived demand) := by
  unfold arrived
  cases demand.call? with
  | none => exact .refl
  | some call => exact arrive_steps device call

/-- Calls come to the device as it is, unless a loss is scheduled. -/
theorem arrived_unscheduled (idle : device.schedule = []) (demand : Demand) :
    device.arrived demand = device := by
  unfold arrived
  cases demand.call? with
  | none => rfl
  | some call =>
      cases device
      cases idle
      simp [arrive, lossDue, countDown]

theorem arrived_pending (device : Device) (demand : Demand) :
    (device.arrived demand).pending = device.pending ∨
      (device.arrived demand).lost = true ∧ (device.arrived demand).pending = [] := by
  unfold arrived
  cases demand.call? with
  | none => exact .inl rfl
  | some call =>
      dsimp only [Option.elim_some, arrive]
      split
      · exact .inr ⟨rfl, rfl⟩
      · exact .inl rfl

/-! ## Answers -/

/-- What a context holds against a demand. -/
def refusal? (device : Device) : Demand → Option Misuse
  | .destroyImage mode handle => device.misuse? mode .destroy handle
  | .beginFrame mode target _ =>
    if device.lost then none else device.misuse? mode .beginFrame target
  | .drawLayer mode _ source _ =>
    if device.lost then none else source.bind (device.misuse? mode .draw)
  | _ => none

theorem Counted.refusal?_eq_some_iff (counted : device.Counted) {misuse : Misuse} :
    device.refusal? demand = some misuse ↔ device.Offends demand misuse := by
  constructor
  · intro refused
    cases demand with
    | destroyImage mode handle => exact .destroy (counted.misuse?_eq_some_iff.mp refused)
    | beginFrame mode target display =>
        obtain ⟨usable, found⟩ : device.lost = false ∧
            device.misuse? mode .beginFrame target = some misuse := by
          simpa [refusal?] using refused
        exact .begin usable (counted.misuse?_eq_some_iff.mp found)
    | drawLayer mode target source layer =>
        cases source with
        | none => simp [refusal?] at refused
        | some source =>
            obtain ⟨usable, found⟩ : device.lost = false ∧
                device.misuse? mode .draw source = some misuse := by
              simpa [refusal?] using refused
            exact .draw usable (counted.misuse?_eq_some_iff.mp found)
    | _ => cases refused
  · intro offends
    cases offends with
    | destroy forbidden => exact counted.misuse?_eq_some_iff.mpr forbidden
    | begin usable forbidden =>
        simp [refusal?, usable, counted.misuse?_eq_some_iff.mpr forbidden]
    | draw usable forbidden =>
        simp [refusal?, usable, counted.misuse?_eq_some_iff.mpr forbidden]

/-- The ways in which a device meets a demand. Each but one leaves the context nothing to hold
against the demand. -/
inductive Meets (device : Device) (demand : Demand) : Response → Device → Prop where
  | stepped {response : Response} {after : Device} : device.refusal? demand = none →
      Steps device after → Shifts device.pending none after.pending → response.Bare →
      Meets device demand response after
  | declined {response : Response} {mode : Mode} {kind : ImageKind} {request : ImportRequest} :
      device.refusal? demand = none → response.Bare →
      Meets device demand response (device.log (.requested mode kind request))
  | made {response : Response} {mode : Mode} {kind : ImageKind} {request : ImportRequest} :
      device.refusal? demand = none → device.lost = false →
      response.handle? = some ⟨device.issued + 1⟩ → response.fence? = none →
      Meets device demand response
        ((device.log (.requested mode kind request)).issue mode kind request.buffer.id).2
  | destroyed {response : Response} {mode : Mode} {handle : ImageHandle} :
      device.refusal? demand = none → response.Bare →
      device.misuse? mode .destroy handle = none →
      Meets device demand response (device.acceptDestroy mode handle)
  | refused {response : Response} {mode : Mode} {use : ImageUse} {handles : List ImageHandle}
      {misuse : Misuse} : device.refusal? demand = some misuse → response.Bare →
      Meets device demand response
        ((device.log (.handed mode use handles)).log (.misused misuse))
  | lapsed {response : Response} {mode : Mode} {use : ImageUse} {handles : List ImageHandle} :
      device.refusal? demand = none → response.Bare →
      Meets device demand response (device.log (.handed mode use handles))
  | used {response : Response} {mode : Mode} {use : ImageUse} {handles : List ImageHandle}
      {event : DeviceEvent} : device.refusal? demand = none → device.lost = false →
      event.isNote = true → event.misuse? = none → response.Bare →
      Meets device demand response ((device.log (.handed mode use handles)).log event)
  | flushed {fence : Option Fence} {after : Device} : device.refusal? demand = none →
      Flushes device fence after → Meets device demand (.submitted fence) after

/-- Requests for images of both kinds are met alike. -/
theorem ImageAnswered.meets {mode : Mode} {kind : ImageKind} {request : ImportRequest}
    {answered : Except BindError ImageHandle × Device}
    (answers : device.ImageAnswered mode kind request answered)
    (free : device.refusal? demand = none) (given : response.handle? = answered.1.toOption)
    (unfenced : response.fence? = none) : device.Meets demand response answered.2 := by
  cases answers with
  | lost | rejected => exact .declined free ⟨given, unfenced⟩
  | made usable => exact .made free usable given unfenced

/-- So are commands, unless the device is lost or something was found against them. -/
theorem UseAnswered.meets {mode : Mode} {use : ImageUse} {handles : List ImageHandle}
    {found : Option Misuse} {refusal : EngineError} {event : DeviceEvent}
    {answered : Except EngineError Unit × Device}
    (answers : device.UseAnswered mode use handles found refusal event answered)
    (held : device.refusal? demand = if device.lost then none else found)
    (note : event.isNote = true) (silent : event.misuse? = none) :
    device.Meets demand (.done answered.1) answered.2 := by
  cases answers with
  | lost lost => exact .lapsed (by simp [held, lost]) ⟨rfl, rfl⟩
  | misused usable misused => exact .refused (by simp [held, usable, misused]) ⟨rfl, rfl⟩
  | done usable free => exact .used (by simp [held, usable, free]) usable note silent ⟨rfl, rfl⟩

theorem acceptDestroy_meets (device : Device) (mode : Mode) (handle : ImageHandle) :
    device.Meets (.destroyImage mode handle) .nothing (device.acceptDestroy mode handle) := by
  cases found : device.misuse? mode .destroy handle with
  | none => exact .destroyed found ⟨rfl, rfl⟩ found
  | some misuse =>
      have same : (device.log (.handed mode .destroy [handle])).misuse? mode .destroy handle =
        some misuse := found
      unfold acceptDestroy release
      rw [same]
      exact .refused found ⟨rfl, rfl⟩

theorem respond_meets (device : Device) (demand : Demand) :
    device.Meets demand (device.respond demand).1 (device.respond demand).2 := by
  cases demand with
  | openContext mode => exact .stepped rfl .refl .stay ⟨rfl, rfl⟩
  | checkLost => exact .stepped rfl .refl .stay ⟨rfl, rfl⟩
  | importBuffer mode request =>
      exact (answer_answered device mode .texture request).meets rfl
        (Response.handle?_texture _) rfl
  | createOutputImage mode request =>
      exact (answer_answered device mode .output request).meets rfl
        (Response.handle?_target _) rfl
  | destroyImage mode handle => exact acceptDestroy_meets device mode handle
  | beginFrame mode target display =>
      exact (acceptBegin_answered device mode target).meets rfl rfl rfl
  | drawLayer mode target source layer =>
      exact (acceptDraw_answered device mode target source).meets rfl rfl rfl
  | flush => exact .flushed rfl (acceptFlush_flushes device)
  | finish =>
      refine .stepped rfl (.single .finish) ?_ ⟨rfl, rfl⟩
      dsimp only [respond, acceptFinish]
      split
      · exact .stay
      · exact .all
  | await fence =>
      refine .stepped rfl (await_steps device fence) ?_ ⟨rfl, rfl⟩
      dsimp only [respond, meet, await]
      split
      · exact .all
      · exact .stay
  | createFence origin status =>
      exact .stepped rfl (.single (.quiet (quiet_create _ _ _))) .stay ⟨rfl, rfl⟩
  | settleFence outcome fence =>
      exact .stepped rfl (.single (.quiet (quiet_settleFence _ _ _))) .stay ⟨rfl, rfl⟩
  | signalNext =>
      refine .stepped rfl (.single (signalNext_step device)) ?_ ⟨rfl, rfl⟩
      dsimp only [respond, meet, signalNext]
      split
      · exact .stay
      · rename_i fence rest waiting
        have next : device.pending.tail = rest := by simp [waiting]
        exact next ▸ .oldest
  | signalAll => exact .stepped rfl (.single (signalAll_step device)) .all ⟨rfl, rfl⟩
  | rejectImports buffer =>
      exact .stepped rfl (.single (.quiet (quiet_reject _ _))) .stay ⟨rfl, rfl⟩
  | allowImports buffer =>
      exact .stepped rfl (.single (.quiet (quiet_allow _ _))) .stay ⟨rfl, rfl⟩
  | lose => exact .stepped rfl (.single .lose) .all ⟨rfl, rfl⟩
  | scheduleLoss call passing =>
      exact .stepped rfl (.single (.quiet (quiet_schedule _ _ _))) .stay ⟨rfl, rfl⟩

/-! ## Every answer -/

theorem log_misuses (device : Device) (event : DeviceEvent) :
    (device.log event).misuses = device.misuses ++ event.misuse?.toList := by
  cases found : event.misuse? <;> simp [misuses, history, eventsSince, log, found]

theorem Flushes.misuses {fence : Option Fence} (flushes : Flushes device fence after) :
    after.misuses = device.misuses := by
  cases flushes <;>
    simp [Device.misuses, history, eventsSince, opened, settle, log, DeviceEvent.misuse?]

namespace Meets

theorem effects (meets : device.Meets demand response after) : Effects device after := by
  cases meets with
  | stepped _ steps => exact .ofSteps steps
  | declined => exact .single (.step .request)
  | made => exact .tail (.single (.step .request)) .issue
  | destroyed => exact .single .destroy
  | refused => exact .tail (.single (.note rfl)) (.note rfl)
  | lapsed => exact .single (.note rfl)
  | used _ _ note => exact .tail (.single (.note rfl)) (.note note)
  | flushed _ flushes => exact .single (.flush flushes)

/-- What a context holds against a demand is recorded, and nothing else changes. -/
theorem unmoved (meets : device.Meets demand response after) {misuse : Misuse}
    (refused : device.refusal? demand = some misuse) : device.Unmoved after := by
  cases meets with
  | refused =>
      refine ⟨rfl, rfl, rfl, rfl, rfl, rfl, rfl, rfl, rfl, ?_, ?_, rfl, rfl⟩
      · simp [Device.destroyed, history, eventsSince, log, DeviceEvent.destroyed?]
      · simp [draws, history, eventsSince, log, DeviceEvent.draw?]
  | stepped free | declined free | made free | destroyed free | lapsed free | used free
  | flushed free => simp [free] at refused

theorem misuses (meets : device.Meets demand response after) :
    after.misuses = device.misuses ++ (device.refusal? demand).toList := by
  cases meets with
  | stepped free steps => simpa [free] using steps.extends.misuses
  | declined free => simp [free, log_misuses, DeviceEvent.misuse?]
  | made free =>
      simp [free, Device.misuses, history, eventsSince, issue, log, DeviceEvent.misuse?]
  | destroyed free _ owned =>
      rw [acceptDestroy_of_free owned]
      simp [free, Device.misuses, history, eventsSince, log, DeviceEvent.misuse?]
  | refused refused => simp [refused, log_misuses, DeviceEvent.misuse?]
  | lapsed free => simp [free, log_misuses, DeviceEvent.misuse?]
  | used free _ _ silent =>
      rw [log_misuses, log_misuses, silent]
      simp [free, DeviceEvent.misuse?]
  | flushed free flushes => simpa [free] using flushes.misuses

theorem issues (meets : device.Meets demand response after) :
    after.issuedHandles = device.issuedHandles ++ response.handle?.toList := by
  cases meets with
  | stepped _ steps _ bare => simp [bare.1, issuedHandles, steps.extends.issued]
  | declined _ bare | refused _ bare | lapsed _ bare | used _ _ _ _ bare =>
      simp [bare.1, issuedHandles, log]
  | made _ _ given => simp [given, issuedHandles, issue, log, List.range_succ]
  | destroyed _ bare owned =>
      rw [acceptDestroy_of_free owned]
      simp [bare.1, issuedHandles, log]
  | flushed _ flushes => simp [Response.handle?, issuedHandles, flushes.issued]

/-- A fence that was given stands in the history as that of a submission. -/
theorem submits (meets : device.Meets demand response after) {fence : Fence}
    (given : response.fence? = some fence) : .flushed (some fence) ∈ after.events := by
  cases meets with
  | flushed _ flushes =>
      obtain ⟨added, events, -⟩ := flushes.events
      obtain rfl := given
      simp [events]
  | made _ _ _ ungiven => simp [ungiven] at given
  | stepped _ _ _ bare | declined _ bare | destroyed _ bare | refused _ bare | lapsed _ bare
  | used _ _ _ _ bare => simp [bare.2] at given

theorem shifts (meets : device.Meets demand response after) :
    Shifts device.pending response.fence? after.pending := by
  cases meets with
  | stepped _ _ shifts bare =>
      rw [bare.2]
      exact shifts
  | declined | made | refused | lapsed | used => exact .stay
  | destroyed _ _ owned =>
      rw [acceptDestroy_of_free owned]
      exact .stay
  | flushed _ flushes =>
      cases flushes with
      | unfenced | signaled => exact .stay
      | waiting => exact .join rfl

theorem barren (meets : device.Meets demand response after) (lost : device.lost = true) :
    device.Barren response after := by
  cases meets with
  | stepped _ steps _ bare =>
      have extension := steps.extends
      exact ⟨extension.lost lost, extension.issued, extension.created, extension.draws, bare⟩
  | declined _ bare | refused _ bare | lapsed _ bare =>
      exact ⟨lost, rfl, rfl, by simp [draws, history, eventsSince, log, DeviceEvent.draw?], bare⟩
  | made _ usable | used _ usable => simp [lost] at usable
  | destroyed _ bare owned =>
      rw [acceptDestroy_of_free owned]
      exact ⟨lost, rfl, rfl, by simp [draws, history, eventsSince, log, DeviceEvent.draw?], bare⟩
  | flushed _ flushes =>
      cases flushes with
      | unfenced =>
          exact ⟨lost, rfl, rfl, by simp [draws, history, eventsSince, log, DeviceEvent.draw?],
            rfl, rfl⟩
      | signaled usable | waiting usable => simp [lost] at usable

end Meets

theorem meet_meets (device : Device) (demand : Demand) :
    (device.arrived demand).Meets demand (device.meet demand).1 (device.meet demand).2 := by
  rw [meet_eq]
  exact respond_meets _ demand

theorem meet_effects (device : Device) (demand : Demand) :
    Effects device (device.meet demand).2 :=
  (Effects.ofSteps (arrived_steps device demand)).trans (meet_meets device demand).effects

theorem meet_issues (device : Device) (demand : Demand) :
    (device.meet demand).2.issuedHandles =
      device.issuedHandles ++ (device.meet demand).1.handle?.toList := by
  have same : (device.arrived demand).issuedHandles = device.issuedHandles := by
    simp [issuedHandles, (arrived_steps device demand).extends.issued]
  rw [(meet_meets device demand).issues, same]

end Device

end Compositor
