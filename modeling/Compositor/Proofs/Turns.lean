import Mathlib.Data.List.Induction
import Compositor.Proofs.Paths.Emptying
import Compositor.Proofs.Worker
import Compositor.Session

/-!
# Turns of a session

An action takes a session through at most two turns: the device goes on by itself, an engine works,
an engine is taken down, or one is set up. What every turn keeps holds in every reachable state.
-/

set_option autoImplicit false

namespace Compositor

/-! ## Requests -/

namespace Engine

theorem bind_issued (engine : Engine) (buffer : Buffer) :
    (engine.bind buffer).2.progress.lastIssued = engine.progress.lastIssued := by
  unfold bind
  split
  · rfl
  · cases outcome : engine.poll.bindTexture buffer with
    | mk result after =>
        have same : after.progress = engine.poll.progress := by
          rw [← bindTexture_progress engine.poll buffer, outcome]
        have issued : after.progress.lastIssued = engine.progress.lastIssued := by
          rw [same]
          rfl
        cases result with
        | ok handle => exact issued
        | error cause =>
            cases fatal : cause.isFatal with
            | false => simpa [noteFailure, fatal] using issued
            | true => simpa [noteFailure, markLost, fatal] using issued

end Engine

namespace ImageRequest

theorem apply_leads {engine : Engine} {recorded : List ImageHandle}
    (rested : Moment.Rested ⟨engine, [], recorded⟩) (request : ImageRequest) :
    Leads ⟨engine, [], recorded⟩ (request.apply engine).2 := by
  cases request with
  | cache buffer => exact Engine.bind_leads rested buffer
  | unbind buffer => exact Engine.unbind_leads rested buffer

theorem apply_issued (request : ImageRequest) (engine : Engine) :
    (request.apply engine).2.progress.lastIssued = engine.progress.lastIssued := by
  cases request with
  | cache buffer => exact engine.bind_issued buffer
  | unbind buffer => rfl

end ImageRequest

namespace ImageRequests

theorem serve_leads {engine : Engine} {recorded : List ImageHandle}
    (rested : Moment.Rested ⟨engine, [], recorded⟩) (requests : ImageRequests) :
    Leads ⟨engine, [], recorded⟩ (requests.serve engine).2 := by
  unfold serve
  split
  · exact .refl rested.closed
  · exact ImageRequest.apply_leads rested _

theorem serveMany_leads (count : Nat) {engine : Engine} {recorded : List ImageHandle}
    (rested : Moment.Rested ⟨engine, [], recorded⟩) (requests : ImageRequests) :
    Leads ⟨engine, [], recorded⟩ (serveMany count requests engine).2 := by
  induction count generalizing engine recorded requests with
  | zero => exact .refl rested.closed
  | succ count ih =>
      obtain ⟨_, moves, served⟩ :=
        (serve_leads rested requests).reaches.rested rested
      have first := (serve_leads rested requests).contexts
      exact (ih served (requests.serve engine).1).after moves first

theorem serveMany_issued (count : Nat) (requests : ImageRequests) (engine : Engine) :
    (serveMany count requests engine).2.progress.lastIssued = engine.progress.lastIssued := by
  have applies : ∀ (request : ImageRequest) (after : Engine),
      after.progress.lastIssued = engine.progress.lastIssued →
        (request.apply after).2.progress.lastIssued = engine.progress.lastIssued :=
    fun request after same => (request.apply_issued after).trans same
  exact serveMany_keeps applies count requests rfl

theorem await_leads {engine : Engine} {recorded : List ImageHandle}
    (rested : Moment.Rested ⟨engine, [], recorded⟩) (requests : ImageRequests) (ticket : Ticket) :
    Leads ⟨engine, [], recorded⟩ (requests.await ticket engine).2.2 := by
  unfold await serveThrough
  dsimp only
  split
  · exact serveMany_leads _ rested requests
  · exact .refl rested.closed

end ImageRequests

def Action.choosesMode : Action → Bool
  | .draw _ | .setProtected _ => true
  | _ => false

/-- Holds for making requests, applying them and collecting their results. -/
def Action.concernsRequests : Action → Bool
  | .submit _ | .serve | .collect _ => true
  | _ => false

/-- The operation that the worker performs for a request. -/
def ImageRequest.action : ImageRequest → Action
  | .cache buffer => .bind buffer
  | .unbind buffer => .unbind buffer

/-! ## Turns -/

namespace Tenancy

def device : Tenancy → Device
  | .vacant device => device
  | .occupied engine => engine.device

/-- One turn of a session. -/
inductive Turn : Tenancy → Tenancy → Prop where
  | alone {before after : Device} : Device.Steps before after →
      Turn (.vacant before) (.vacant after)
  | work {before after : Engine} :
      (∀ recorded, Moment.Rested ⟨before, [], recorded⟩ → Reaches ⟨before, [], recorded⟩ after) →
      Turn (.occupied before) (.occupied after)
  | leave {engine : Engine} {device : Device} :
      (∀ recorded, Moment.Rested ⟨engine, [], recorded⟩ →
        ∃ last later, last.device = device ∧ engine.Dismantled last recorded later) →
      Turn (.occupied engine) (.vacant device)
  | enter {device : Device} {capabilities : Capabilities} {options : EngineOptions}
      {order : ReleaseOrder} {engine : Engine} :
      Engine.create device capabilities options order = .ok engine →
      Turn (.vacant device) (.occupied engine)

theorem Turn.stay (tenancy : Tenancy) : Turn tenancy tenancy := by
  cases tenancy with
  | vacant device => exact .alone .refl
  | occupied engine => exact .work fun _ rested => (Leads.refl rested.closed).reaches

end Tenancy

namespace Session

@[simp] theorem setEngine_device (session : Session) (engine : Engine) :
    (session.setEngine engine).device = engine.device := rfl

@[simp] theorem setDevice_device (session : Session) (device : Device) :
    (session.setDevice device).device = device := by
  unfold setDevice
  cases session.tenancy <;> rfl

@[simp] theorem setDevice_engine? (session : Session) (device : Device) :
    (session.setDevice device).engine? = session.engine?.map ({ · with device }) := by
  unfold setDevice engine?
  cases session.tenancy <;> rfl

@[simp] theorem setDevice_capabilities (session : Session) (device : Device) :
    (session.setDevice device).capabilities = session.capabilities := by
  unfold setDevice
  cases session.tenancy <;> rfl

theorem device_of_engine? {session : Session} {engine : Engine}
    (occupied : session.engine? = some engine) : session.device = engine.device := by
  unfold engine? at occupied
  unfold device
  cases tenancy : session.tenancy with
  | vacant device =>
      rw [tenancy] at occupied
      cases occupied
  | occupied other =>
      rw [tenancy] at occupied
      cases occupied
      rfl

theorem setDevice_turn (session : Session) {device : Device}
    (steps : Device.Steps session.device device) :
    session.tenancy.Turn (session.setDevice device).tenancy := by
  unfold setDevice
  unfold Session.device at steps
  cases tenancy : session.tenancy with
  | vacant before =>
      rw [tenancy] at steps
      exact .alone steps
  | occupied engine =>
      rw [tenancy] at steps
      exact .work fun _ rested =>
        (Leads.ofKept rested.closed (.ofDevice steps) id rfl rfl).reaches

/-- Scripting takes one step of the device, or none. -/
theorem script_steps {session : Session} {action : Action} {result : Outcome × Session}
    (scripted : session.script action = some result) :
    ∃ device, result.2 = session.setDevice device ∧ Device.Step session.device device := by
  cases action with
  | createFence origin status =>
      cases scripted
      exact ⟨_, rfl, .quiet (Device.quiet_create _ _ _)⟩
  | settleFence outcome fence =>
      cases scripted
      exact ⟨_, rfl, .quiet (Device.quiet_settleFence _ _ _)⟩
  | signalNext =>
      cases scripted
      exact ⟨_, rfl, Device.signalNext_step _⟩
  | signalAll =>
      cases scripted
      exact ⟨_, rfl, Device.signalAll_step _⟩
  | rejectImports buffer =>
      cases scripted
      exact ⟨_, rfl, .quiet (Device.quiet_reject _ _)⟩
  | allowImports buffer =>
      cases scripted
      exact ⟨_, rfl, .quiet (Device.quiet_allow _ _)⟩
  | lose =>
      cases scripted
      exact ⟨_, rfl, .lose⟩
  | scheduleLoss call passing =>
      cases scripted
      exact ⟨_, rfl, .quiet (Device.quiet_schedule _ _ _)⟩
  | _ => cases scripted

theorem script_turn {session : Session} {action : Action} {result : Outcome × Session}
    (scripted : session.script action = some result) :
    session.tenancy.Turn result.2.tenancy := by
  obtain ⟨device, same, step⟩ := script_steps scripted
  rw [same]
  exact session.setDevice_turn (.single step)

/-- Only frames and the choice of the context may change the active mode. -/
theorem operate_leads {engine : Engine} {action : Action} {result : Outcome × Engine}
    (operated : operate engine action = some result) (neutral : action.choosesMode = false)
    {recorded : List ImageHandle} (rested : Moment.Rested ⟨engine, [], recorded⟩) :
    Leads ⟨engine, [], recorded⟩ result.2 := by
  cases action with
  | draw | setProtected => cases neutral
  | bind buffer =>
      cases operated
      exact Engine.bind_leads rested buffer
  | unbind buffer =>
      cases operated
      exact Engine.unbind_leads rested buffer
  | invalidate buffer =>
      cases operated
      exact Engine.invalidate_leads rested buffer
  | flush =>
      cases operated
      exact Engine.flush_leads rested
  | finish =>
      cases operated
      exact Engine.finish_leads rested
  | cleanup =>
      cases operated
      exact Engine.cleanup_leads rested
  | await fence =>
      cases operated
      exact Engine.await_leads rested fence
  | watchTracer elapsed =>
      cases operated
      exact Engine.watchTracer_leads rested elapsed
  | _ => cases operated

theorem operate_reaches {engine : Engine} {action : Action} {result : Outcome × Engine}
    (operated : operate engine action = some result) {recorded : List ImageHandle}
    (rested : Moment.Rested ⟨engine, [], recorded⟩) :
    Reaches ⟨engine, [], recorded⟩ result.2 := by
  cases action with
  | draw request =>
      cases operated
      exact (Engine.draw_ends rested request).1
  | setProtected wantsSecure =>
      cases operated
      exact Engine.setProtected_reaches rested wantsSecure
  | _ => exact (operate_leads operated rfl rested).reaches

theorem request_turn {session : Session} {engine : Engine}
    (occupied : session.tenancy = .occupied engine) (action : Action) :
    session.tenancy.Turn (session.request engine action).2.tenancy := by
  have here : Tenancy.Turn (.occupied engine) session.tenancy := by
    rw [occupied]
    exact .stay _
  rw [occupied]
  cases action with
  | serve => exact .work fun _ rested => (ImageRequests.serve_leads rested session.requests).reaches
  | collect ticket =>
      exact .work fun _ rested =>
        (ImageRequests.await_leads rested session.requests ticket).reaches
  | _ => exact here

theorem stop_turn (session : Session) :
    session.tenancy.Turn session.stop.tenancy ∧
      session.stop.tenancy = .vacant session.stop.device := by
  unfold stop
  cases tenancy : session.tenancy with
  | vacant device =>
      refine ⟨?_, ?_⟩
      · rw [tenancy]
        exact .stay _
      · simp [tenancy, Session.device]
  | occupied engine =>
      refine ⟨.leave fun recorded rested => ?_, rfl⟩
      let served := session.requests.serveAll engine
      have leads : Leads ⟨engine, [], recorded⟩ served.2 :=
        ImageRequests.serveMany_leads _ rested session.requests
      obtain ⟨later, moves, servedRested⟩ := leads.reaches.rested rested
      obtain ⟨last, device, dismantled⟩ := Engine.teardown_dismantled servedRested
      refine ⟨last, later, device, moves.trans dismantled.moves, dismantled.owned,
        dismantled.inFlight, dismantled.recorded, dismantled.lastIssued.trans ?_⟩
      exact ImageRequests.serveMany_issued _ session.requests engine

theorem start_turn {session : Session} {device : Device}
    (vacant : session.tenancy = .vacant device) (options : EngineOptions) :
    session.tenancy.Turn (session.start options).2.tenancy := by
  unfold start
  cases created : Engine.create session.device session.capabilities options session.order with
  | error error => exact .stay _
  | ok engine =>
      rw [Session.device, vacant] at created
      rw [vacant]
      exact .enter created

theorem tenancy_of_engine? {session : Session} {engine : Engine}
    (occupied : session.engine? = some engine) : session.tenancy = .occupied engine := by
  unfold engine? at occupied
  cases tenancy : session.tenancy with
  | vacant device =>
      rw [tenancy] at occupied
      cases occupied
  | occupied other =>
      rw [tenancy] at occupied
      cases occupied
      rfl

theorem stop_engine? (session : Session) : session.stop.engine? = none := by
  unfold stop
  cases tenancy : session.tenancy with
  | vacant device =>
      dsimp only
      rw [engine?, tenancy]
  | occupied engine => rfl

/-- What a step of a session does: an engine is set up or taken down, or the device is scripted, or
the engine, if there is one, operates or looks after requests. -/
inductive Stepped (session : Session) : Action → Outcome × Session → Prop where
  | started (options : EngineOptions) :
      Stepped session (.start options)
        (.done (session.stop.start options).1, (session.stop.start options).2)
  | stopped :
      Stepped session .stop (if session.engine?.isSome then .nothing else .noEngine, session.stop)
  | scripted {action : Action} {result : Outcome × Session} :
      session.script action = some result → Stepped session action result
  | absent {action : Action} : session.engine? = none → Stepped session action (.noEngine, session)
  | operated {action : Action} {engine after : Engine} {outcome : Outcome} :
      session.engine? = some engine → operate engine action = some (outcome, after) →
      Stepped session action (outcome, session.setEngine after)
  | requested {action : Action} {engine : Engine} :
      session.engine? = some engine → action.concernsRequests = true →
      Stepped session action (session.request engine action)

theorem step_stepped (session : Session) (action : Action) :
    session.Stepped action (session.step action) := by
  unfold step
  cases action with
  | start options => exact .started options
  | stop => exact .stopped
  | _ =>
      dsimp only
      split
      · rename_i scripted
        exact .scripted scripted
      · rename_i unscripted
        split
        · rename_i vacant
          exact .absent vacant
        · rename_i occupied
          split
          · rename_i operated
            exact .operated occupied operated
          · rename_i idle
            exact .requested occupied (by first | rfl | contradiction)

theorem stop_capabilities (session : Session) :
    session.stop.capabilities = session.capabilities := by
  unfold stop
  cases session.tenancy <;> rfl

theorem start_capabilities (session : Session) (options : EngineOptions) :
    (session.start options).2.capabilities = session.capabilities := by
  unfold start
  cases Engine.create session.device session.capabilities options session.order <;> rfl

theorem script_eq {session : Session} {action : Action} {result : Outcome × Session}
    (scripted : session.script action = some result) :
    ∃ device, result.2 = session.setDevice device := by
  obtain ⟨device, same, -⟩ := script_steps scripted
  exact ⟨device, same⟩

theorem step_capabilities (session : Session) (action : Action) :
    (session.step action).2.capabilities = session.capabilities := by
  have stepped := session.step_stepped action
  generalize session.step action = result at stepped
  cases stepped with
  | started options => exact (start_capabilities _ options).trans session.stop_capabilities
  | stopped => exact session.stop_capabilities
  | scripted scripted =>
      obtain ⟨device, same⟩ := script_eq scripted
      rw [same, setDevice_capabilities]
  | absent => rfl
  | operated => rfl
  | requested => cases action <;> rfl

/-- An action takes one turn, or takes an engine down and then takes one turn. -/
theorem step_turn (session : Session) (action : Action) :
    session.tenancy.Turn (session.step action).2.tenancy ∨
      ∃ device, session.tenancy.Turn (.vacant device) ∧
        Tenancy.Turn (.vacant device) (session.step action).2.tenancy := by
  have stepped := session.step_stepped action
  generalize session.step action = result at stepped
  cases stepped with
  | started options =>
      obtain ⟨leaving, vacant⟩ := session.stop_turn
      rw [vacant] at leaving
      refine .inr ⟨session.stop.device, leaving, ?_⟩
      rw [← vacant]
      exact start_turn vacant options
  | stopped => exact .inl session.stop_turn.1
  | scripted scripted => exact .inl (script_turn scripted)
  | absent => exact .inl (.stay _)
  | operated occupied operated =>
      rw [tenancy_of_engine? occupied]
      exact .inl (.work fun _ rested => operate_reaches operated rested)
  | requested occupied => exact .inl (request_turn (tenancy_of_engine? occupied) action)

/-! ## Runs -/

theorem run_eq_foldl (session : Session) (actions : List Action) :
    (session.run actions).2 =
      actions.foldl (fun session action => (session.step action).2) session :=
  (List.foldl_hom Prod.snd fun _ _ => rfl).symm

/-- Each outcome of a run is the outcome of a step after a part of the run. -/
theorem run_outcomes (session : Session) (actions : List Action) :
    ∀ outcome ∈ (session.run actions).1, ∃ before action,
      outcome = ((session.run before).2.step action).1 := by
  induction actions using List.reverseRecOn with
  | nil =>
      intro outcome member
      cases member
  | append_singleton actions action ih =>
      intro outcome member
      rw [run, List.foldl_append] at member
      rcases List.mem_append.mp member with before | new
      · exact ih outcome before
      · exact ⟨actions, action, List.mem_singleton.mp new⟩

theorem run_cons (session : Session) (action : Action) (rest : List Action) :
    (session.run (action :: rest)).2 = ((session.step action).2.run rest).2 := by
  rw [run_eq_foldl, run_eq_foldl, List.foldl_cons]

theorem run_append (session : Session) (first second : List Action) :
    (session.run (first ++ second)).2 = ((session.run first).2.run second).2 := by
  rw [run_eq_foldl, run_eq_foldl, run_eq_foldl, List.foldl_append]

theorem run_capabilities (session : Session) (actions : List Action) :
    (session.run actions).2.capabilities = session.capabilities := by
  induction actions generalizing session with
  | nil => rfl
  | cons action rest ih =>
      rw [run_cons]
      exact (ih _).trans (session.step_capabilities action)

theorem run_keeps {holds : Session → Prop}
    (keeps : ∀ session action, holds session → holds (session.step action).2) {session : Session}
    (start : holds session) (actions : List Action) : holds (session.run actions).2 := by
  induction actions generalizing session with
  | nil => exact start
  | cons action rest ih =>
      rw [run_cons]
      exact ih (keeps session action start)

end Session

end Compositor
