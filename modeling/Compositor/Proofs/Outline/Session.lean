import Compositor.Proofs.Comparison
import Compositor.Proofs.Outline.Operations

/-!
# Sessions without their timing

What the actions of a session do, apart from when work completes. A run on a device that stays
usable does the same to the layout of its session as the layout would do itself, with the waits
ending as foretold. Silent actions do nothing to it.
-/

set_option autoImplicit false

namespace Compositor

/-- Whether there is an engine, and what is known of it or of the device. -/
inductive Site where
  | vacant (canvas : Canvas)
  | occupied (outline : Outline)

namespace Site

def canvas : Site → Canvas
  | .vacant canvas => canvas
  | .occupied outline => outline.canvas

def outline? : Site → Option Outline
  | .vacant _ => none
  | .occupied outline => some outline

def setCanvas (site : Site) (canvas : Canvas) : Site :=
  match site with
  | .vacant _ => .vacant canvas
  | .occupied outline => .occupied { outline with canvas }

end Site

structure Layout where
  limit : UInt32
  /-- The device is believed to have a secure context. -/
  protectedContent : Bool
  site : Site
  requests : ImageRequests

namespace Layout

def stop (layout : Layout) : Layout :=
  match layout.site with
  | .vacant _ => layout
  | .occupied outline =>
    let (requests, outline) :=
      Outline.serveMany layout.requests.waiting.length layout.requests outline
    { layout with site := .vacant outline.canvas, requests }

def start (layout : Layout) (options : EngineOptions) : Except EngineError Unit × Layout :=
  match options.check with
  | .error error => (.error (.validation error), layout)
  | .ok () =>
    let canvas := layout.site.canvas
    let hasSecure := options.enableSecure && layout.protectedContent && canvas.offersSecure
    let outline : Outline :=
      ⟨options.fenceTimeout.toNat, layout.limit, ⟨.normal, hasSecure⟩, [], [],
        options.outputCacheSize.toNat, 0, canvas⟩
    (.ok (), { layout with site := .occupied outline })

def setOutline (layout : Layout) (outline : Outline) : Layout :=
  { layout with site := .occupied outline }

def operate (signals : Nat → Bool) (layout : Layout) (outline : Outline) :
    Action → Outcome × Layout
  | .draw request =>
    let (result, outline) := outline.draw signals request
    (.frame (result.map fun status => ⟨status, ⟨0⟩⟩), layout.setOutline outline)
  | .bind buffer =>
    let (result, outline) := outline.bind buffer
    (.done result, layout.setOutline outline)
  | .unbind buffer => (.nothing, layout.setOutline (outline.unbind buffer))
  | .invalidate buffer => (.nothing, layout.setOutline (outline.invalidate buffer))
  | .setProtected wantsSecure =>
    let switched := outline.switchTo (.ofProtected wantsSecure)
    (.flag switched.contexts.active.isSecure, layout.setOutline switched)
  | .flush =>
    (.flushed (.ok ⟨0⟩), layout.setOutline { outline with issued := outline.issued.next })
  | .finish => (.flag true, layout)
  | .submit request =>
    let (ticket, requests) := layout.requests.submit request
    (.ticket ticket, { layout with requests })
  | .serve =>
    let (requests, outline) := Outline.serveMany 1 layout.requests outline
    (.nothing, { layout with requests }.setOutline outline)
  | .collect ticket =>
    let (result, requests, outline) := Outline.await layout.requests ticket outline
    (.done result, { layout with requests }.setOutline outline)
  | _ => (.nothing, layout)

def step (signals : Nat → Bool) (layout : Layout) : Action → Outcome × Layout
  | .start options =>
    let (result, layout) := layout.stop.start options
    (.done result, layout)
  | .stop =>
    (match layout.site with
      | .vacant _ => .noEngine
      | .occupied _ => .nothing,
      layout.stop)
  | .rejectImports buffer =>
    let canvas := layout.site.canvas
    (.nothing, { layout with
      site := layout.site.setCanvas { canvas with rejecting := buffer :: canvas.rejecting } })
  | .allowImports buffer =>
    let canvas := layout.site.canvas
    (.nothing, { layout with
      site := layout.site.setCanvas
        { canvas with rejecting := canvas.rejecting.filter (· ≠ buffer) } })
  | action =>
    match layout.site with
    | .vacant _ => (.noEngine, layout)
    | .occupied outline => layout.operate signals outline action

end Layout

/-! ## The layout of a session -/

def Tenancy.site : Tenancy → Site
  | .vacant device => .vacant device.canvas
  | .occupied engine => .occupied engine.outline

def Session.layout (session : Session) : Layout :=
  ⟨session.capabilities.maxTextureSize, session.capabilities.protectedContent,
    session.tenancy.site, session.requests⟩

namespace Session

theorem site_canvas (session : Session) : session.tenancy.site.canvas = session.device.canvas := by
  unfold Session.device
  cases session.tenancy <;> rfl

theorem site_outline? (session : Session) :
    session.tenancy.site.outline? = session.engine?.map Engine.outline := by
  unfold engine?
  cases session.tenancy <;> rfl

variable {session : Session} {signals : Nat → Bool}

theorem setDevice_layout_of_plain (session : Session) {device : Device}
    (plain : Device.Plain session.device device) :
    (session.setDevice device).layout = session.layout := by
  unfold setDevice
  unfold Session.device at plain
  unfold layout
  cases tenancy : session.tenancy with
  | vacant before =>
      rw [tenancy] at plain
      simp only [Tenancy.site, plain.canvas]
  | occupied engine =>
      rw [tenancy] at plain
      simp only [Tenancy.site, Engine.outline_of_plain plain]

theorem setEngine_layout {engine after : Engine} (occupied : session.engine? = some engine)
    (same : after.outline = engine.outline) :
    (session.setEngine after).layout = session.layout := by
  unfold layout
  rw [tenancy_of_engine? occupied]
  simp only [setEngine, Tenancy.site, same]

/-- Silent actions leave the layout alone, whatever becomes of the device. -/
theorem step_silent {action : Action} (silent : action.isSilent = true) :
    (session.step action).2.layout = session.layout := by
  have stepped := session.step_stepped action
  generalize session.step action = result at stepped
  cases stepped with
  | started | stopped => cases silent
  | absent => rfl
  | scripted scripted =>
      cases action with
      | createFence origin status =>
          cases scripted
          exact session.setDevice_layout_of_plain (.createFence session.device origin status)
      | settleFence outcome fence =>
          cases scripted
          exact session.setDevice_layout_of_plain (.settleFence session.device outcome fence)
      | signalNext =>
          cases scripted
          exact session.setDevice_layout_of_plain (.signalNext session.device)
      | signalAll =>
          cases scripted
          exact session.setDevice_layout_of_plain (.signalAll session.device)
      | scheduleLoss call passing =>
          cases scripted
          exact session.setDevice_layout_of_plain (.scheduleLoss session.device call passing)
      | rejectImports | allowImports | lose => cases silent
      | _ => cases scripted
  | @operated _ engine _ _ occupied operated =>
      cases action with
      | cleanup =>
          cases operated
          exact setEngine_layout occupied engine.cleanup_outline
      | await fence =>
          cases operated
          exact setEngine_layout occupied (engine.awaitAny_outline (some fence))
      | watchTracer elapsed =>
          cases operated
          exact setEngine_layout occupied rfl
      | draw | bind | unbind | invalidate | setProtected | flush | finish => cases silent
      | _ => cases operated
  | requested => cases action <;> first | rfl | cases silent

/-! ## Engines that come and go -/

theorem stop_layout (sound : session.Sound) (usable : session.stop.device.lost = false) :
    session.stop.layout = session.layout.stop := by
  have alive := fun engine => @Sound.alive session sound engine
  obtain ⟨capabilities, order, tenancy, requests⟩ := session
  cases tenancy with
  | vacant device => rfl
  | occupied engine =>
      have plain := (requests.serveAll engine).2.teardown_plain
      have served : (requests.serveAll engine).2.device.lost = false := plain.usable usable
      have before := (ImageRequests.serveMany_deals _ requests engine).usable served
      have same : Outline.serveMany requests.waiting.length requests engine.outline =
          ((requests.serveAll engine).1, (requests.serveAll engine).2.outline) :=
        ImageRequests.serveMany_outline (alive engine rfl before) served
      simp only [stop, layout, Layout.stop, Tenancy.site, same, plain.canvas]
      rfl

theorem start_layout (usable : session.device.lost = false) (options : EngineOptions) :
    session.layout.start options =
      ((session.start options).1, (session.start options).2.layout) := by
  have canvas : session.layout.site.canvas = session.device.canvas := session.site_canvas
  unfold Layout.start start
  rw [canvas]
  cases checked : options.check with
  | error error =>
      have refused : Engine.create session.device session.capabilities options session.order =
          .error (.validation error) := by
        unfold Engine.create
        rw [checked]
        rfl
      rw [refused]
  | ok =>
      rw [Engine.create_ok usable checked]
      rfl

theorem start_device (session : Session) (options : EngineOptions) :
    (session.start options).2.device = session.device := by
  unfold start
  cases created : Engine.create session.device session.capabilities options session.order with
  | error error => rfl
  | ok engine =>
      obtain ⟨-, rfl⟩ := Engine.create_eq created
      rfl

/-! ## Steps -/

/-- On a device that stays usable, an action does to the layout what the layout would do itself. -/
theorem step_layout (sound : session.Sound) {action : Action} (heard : action.isSilent = false)
    (foretold : Waits.Foretold signals (session.waits action))
    (usable : (session.step action).2.device.lost = false) :
    session.layout.step signals action =
      ((session.step action).1.unfenced, (session.step action).2.layout) := by
  have before : session.device.lost = false := (step_continues sound action).usable usable
  have alive := fun engine => @Sound.alive session sound engine
  have rested := fun engine => @Sound.rested session sound engine
  have stopped := stop_layout sound
  have started : ∀ options, (session.stop.start options).2.device.lost = false →
      session.layout.stop.start options =
        ((session.stop.start options).1, (session.stop.start options).2.layout) := by
    intro options usable
    rw [start_device] at usable
    rw [← stopped usable]
    exact start_layout usable options
  let answered (answer : Except EngineError Unit × Layout) := (Outcome.done answer.1, answer.2)
  obtain ⟨capabilities, order, tenancy, requests⟩ := session
  cases tenancy with
  | vacant device =>
      cases action with
      | start options => exact congrArg answered (started options usable)
      | lose => cases usable
      | _ => first | rfl | cases heard
  | occupied engine =>
      have alive : engine.lost = false := alive engine rfl before
      cases action with
      | start options => exact congrArg answered (started options usable)
      | stop => exact congrArg _ (stopped usable).symm
      | draw request =>
          obtain ⟨_, rested⟩ := rested engine rfl
          have same := Engine.draw_outline alive foretold usable (Engine.draw_ends rested request).2
          simp only [layout, Tenancy.site, Layout.step, Layout.operate, same]
          exact congrArg (·, _) (Outcome.frame_unfenced _).symm
      | bind buffer =>
          obtain ⟨same, -⟩ := Engine.bind_outline alive usable
          simp only [layout, Tenancy.site, Layout.step, Layout.operate, same]
          rfl
      | unbind buffer =>
          simp only [layout, Tenancy.site, Layout.step, Layout.operate, ← engine.unbind_outlined]
          rfl
      | invalidate buffer =>
          simp only [layout, Tenancy.site, Layout.step, Layout.operate,
            ← engine.invalidate_outlined]
          rfl
      | setProtected wantsSecure =>
          obtain ⟨same, -⟩ := Engine.switchTo_outline alive usable
          simp only [layout, Tenancy.site, Layout.step, Layout.operate, ← same]
          rfl
      | flush =>
          obtain ⟨⟨fence, flushed⟩, same⟩ := Engine.flush_outline alive usable
          have outcome : (Outcome.flushed engine.flush.1).unfenced = .flushed (.ok ⟨0⟩) := by
            rw [flushed]
            rfl
          simp only [layout, Tenancy.site, Layout.step, Layout.operate, ← same, ← outcome]
          rfl
      | finish =>
          obtain ⟨drained, same⟩ := Engine.finish_outline alive usable
          have outcome : Outcome.flag true = .flag engine.finish.1 := by rw [drained]
          simp only [layout, Tenancy.site, Layout.step, Layout.operate, outcome]
          rw [← same]
          rfl
      | submit request => rfl
      | serve =>
          have same := @ImageRequests.serveMany_outline engine requests 1 alive usable
          simp only [layout, Tenancy.site, Layout.step, Layout.operate, same]
          rfl
      | collect ticket =>
          have same := @ImageRequests.await_outline engine requests ticket alive usable
          simp only [layout, Tenancy.site, Layout.step, Layout.operate, same]
          rfl
      | lose => cases usable
      | rejectImports | allowImports => rfl
      | _ => cases heard

end Session

/-! ## Fences -/

theorem Sketch.lookAll_unfenced (signals : Nat → Bool) (outline : Outline) (layers : List Layer) :
    Sketch.lookAll signals outline (layers.map Layer.unfenced) =
      Sketch.lookAll signals outline layers := by
  have same : ∀ (sketch : Sketch) (index : Nat) (layer : Layer),
      sketch.look signals index layer.unfenced = sketch.look signals index layer := by
    intro sketch index layer
    rw [look, look, Layer.unfenced_buffer?]
  simp only [lookAll, List.zipIdx_map, List.foldl_map, Prod.map, id, same]

theorem Outline.draw_unfenced (signals : Nat → Bool) (outline : Outline)
    (request : FrameRequest) :
    outline.draw signals request.unfenced = outline.draw signals request := by
  unfold draw compose
  rw [FrameRequest.unfenced_mode]
  simp only [FrameRequest.unfenced, Sketch.lookAll_unfenced]
  rfl

theorem Layout.step_unfenced (signals : Nat → Bool) (layout : Layout) (action : Action) :
    layout.step signals action.unfenced = layout.step signals action := by
  cases action with
  | draw request =>
      unfold Action.unfenced step operate
      simp only [Outline.draw_unfenced]
  | _ => rfl

/-! ## Runs -/

/-- Takes one step after another, each with its waits ending as foretold. -/
def Layout.run : Layout → List (Action × (Nat → Bool)) → List (Outcome × Layout) × Layout
  | layout, [] => ([], layout)
  | layout, (action, signals) :: rest =>
    let (outcome, next) := layout.step signals action
    let (later, last) := next.run rest
    ((outcome, next) :: later, last)

namespace Session

/-- On a device that stays usable, a run is told by its actions and by how its waits end. -/
theorem run_layout {session : Session} (sound : session.Sound) {actions : List Action}
    {foretellings : List (Nat → Bool)}
    (foretold : List.Forall₂ (fun signals report => Waits.Foretold signals report.waits)
      foretellings (session.reports Action.isHeard actions))
    (usable : (session.run actions).2.device.lost = false) :
    session.layout.run
        (((session.reports Action.isHeard actions).map (·.action.unfenced)).zip foretellings) =
      ((session.reports Action.isHeard actions).map
          fun report => (report.outcome.unfenced, report.after.layout),
        (session.run actions).2.layout) := by
  induction actions generalizing session foretellings with
  | nil => rfl
  | cons action rest ih =>
      rw [run_cons] at usable ⊢
      have next := step_sound session action sound
      have stepUsable := run_usable next usable
      rw [reports_cons] at foretold ⊢
      cases silent : action.isSilent with
      | true =>
          have unheard : ¬action.isHeard = true := by simp [Action.isHeard, silent]
          rw [if_neg unheard] at foretold ⊢
          rw [← step_silent silent]
          exact ih next foretold usable
      | false =>
          have heard : action.isHeard = true := by simp [Action.isHeard, silent]
          rw [if_pos heard] at foretold ⊢
          cases foretold with
          | cons first later =>
              simp only [List.map_cons, List.zip_cons_cons, Layout.run, Layout.step_unfenced,
                step_layout sound silent first stepUsable, ih next later usable]

end Session

end Compositor
