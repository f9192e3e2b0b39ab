import Compositor.Proofs.Guard
import Compositor.Proofs.Turns

/-!
# Reachable states of a session

The invariants of an engine at rest, and those of a device without an engine, carry over from each
turn to the next. So they hold in every state that a session can reach from an unused device.
-/

set_option autoImplicit false

namespace Compositor

/-! ## New engines -/

/-- Nothing that was submitted still runs, and nothing more is recorded. -/
structure Device.Idle (device : Device) : Prop where
  fenced : device.Fenced
  recorded : device.lost = false → History.recorded device.events = []
  completed : device.lost = false → ∀ fence used since,
    History.Submitted device.events fence used since → History.Completed fence since
  safe : History.Always DeviceEvent.Safe device.events

namespace Engine

/-- A new engine on a device. -/
structure Fresh (engine : Engine) (device : Device) : Prop where
  usable : device.lost = false
  device : engine.device = device
  owned : engine.owned = []
  progress : engine.progress = .initial
  lost : engine.lost = false
  active : engine.contexts.active = .normal

variable {device : Device} {capabilities : Capabilities} {options : EngineOptions}
  {order : ReleaseOrder} {engine : Engine}

/-- Nothing but the secure context depends on the device. -/
theorem create_eq (created : create device capabilities options order = .ok engine) :
    device.lost = false ∧ engine =
      { options, capabilities, device
        contexts := ⟨.normal, options.enableSecure && capabilities.protectedContent &&
          (device.openContext .secure).isOk⟩
        textures := .empty order
        outputs := .empty options.outputCacheSize.toNat
        retired := .empty
        progress := .initial
        strategy := .select capabilities
        tracer := tracerFor options capabilities
        lost := false
        framesDrawn := 0 } := by
  unfold create Contexts.establish at created
  cases checked : options.check with
  | error error =>
      rw [checked] at created
      cases created
  | ok =>
      rw [checked] at created
      cases opened : device.openContext .normal with
      | error error =>
          rw [opened] at created
          cases created
      | ok =>
          have usable : device.lost = false := by
            unfold Device.openContext at opened
            simp only [reduceCtorEq, false_and, if_false] at opened
            split at opened
            · cases opened
            · rename_i usable
              simpa using usable
          rw [opened] at created
          cases created
          exact ⟨usable, rfl⟩

theorem create_ok (usable : device.lost = false) (checked : options.check = .ok ()) :
    create device capabilities options order =
      .ok { options, capabilities, device
            contexts := ⟨.normal, options.enableSecure && capabilities.protectedContent &&
              device.options.protectedContent⟩
            textures := .empty order
            outputs := .empty options.outputCacheSize.toNat
            retired := .empty
            progress := .initial
            strategy := .select capabilities
            tracer := tracerFor options capabilities
            lost := false
            framesDrawn := 0 } := by
  have normal : device.openContext .normal = .ok () := by simp [Device.openContext, usable]
  have secure : (device.openContext .secure).isOk = device.options.protectedContent := by
    cases offered : device.options.protectedContent <;>
      simp [Device.openContext, offered, usable, Except.isOk, Except.toBool]
  unfold create Contexts.establish
  rw [checked, normal, secure]
  rfl

theorem create_fresh (created : create device capabilities options order = .ok engine) :
    engine.Fresh device := by
  obtain ⟨usable, rfl⟩ := create_eq created
  exact ⟨usable, rfl, rfl, rfl, rfl, rfl⟩

namespace Fresh

variable {engine : Engine} {device : Device}

theorem rested (fresh : engine.Fresh device) (coherent : device.Coherent)
    (live : device.live = []) : Moment.Rested ⟨engine, [], []⟩ := by
  have held : Moment.held ⟨engine, [], []⟩ = [] := by simp [Moment.held, fresh.owned]
  have textures : engine.textures.entries = [] := by
    have owned := fresh.owned
    simp only [Engine.owned, List.append_eq_nil_iff] at owned
    exact owned.1.1
  have outputs : engine.outputs.entries = [] := by
    have owned := fresh.owned
    simp only [Engine.owned, List.append_eq_nil_iff] at owned
    exact owned.1.2
  refine ⟨⟨?_, ?_, ?_, ?_, ?_⟩, ⟨?_, ?_, ?_⟩, fun _ => ⟨?_, rfl⟩⟩
  · rw [fresh.device]
    exact coherent
  · rw [held, fresh.device, live]
    exact .nil
  · rw [textures, outputs]
    exact .empty
  · simp [held]
  · rw [fresh.active]
    rfl
  · rw [fresh.progress]
    exact .initial
  · simp [held]
  · simp [fresh.lost]
  · rw [fresh.progress]
    rfl

theorem guarded (fresh : engine.Fresh device) (idle : device.Idle) :
    Moment.Guarded ⟨engine, [], []⟩ := by
  refine ⟨?_, ?_, ?_, fun _ fence used since submitted => .inl ?_, by simp, ?_⟩
  · rw [fresh.device]
    exact idle.fenced
  · rw [fresh.progress]
    exact .initial
  · rw [fresh.device]
    exact (idle.recorded fresh.usable).symm
  · rw [fresh.device] at submitted
    exact idle.completed fresh.usable fence used since submitted
  · rw [fresh.device]
    exact idle.safe

end Fresh

end Engine

/-! ## Ownership in every reachable state -/

namespace Tenancy

/-- An engine rests, and a device without an engine has no image. -/
inductive Sound : Tenancy → Prop where
  | vacant {device : Device} : device.Coherent → device.live = [] → Sound (.vacant device)
  | occupied {engine : Engine} {recorded : List ImageHandle} :
      Moment.Rested ⟨engine, [], recorded⟩ → Sound (.occupied engine)

theorem Sound.coherent {tenancy : Tenancy} (sound : tenancy.Sound) : tenancy.device.Coherent := by
  cases sound with
  | vacant coherent => exact coherent
  | occupied rested => exact rested.owned.coherent

theorem Turn.sound {before after : Tenancy} (turn : Turn before after) (sound : before.Sound) :
    after.Sound := by
  cases turn with
  | alone steps =>
      cases sound with
      | vacant coherent live =>
          exact .vacant (coherent.of_extends steps.extends) (steps.extends.live.trans live)
  | work leads =>
      cases sound with
      | occupied rested =>
          obtain ⟨_, _, after⟩ := (leads _ rested).rested rested
          exact .occupied after
  | leave leaves =>
      cases sound with
      | occupied rested =>
          obtain ⟨last, later, rfl, dismantled⟩ := leaves _ rested
          have owned := dismantled.moves.owned rested.owned
          refine .vacant owned.coherent (owned.live_eq_nil ?_)
          rw [Moment.held, dismantled.owned]
          rfl
  | enter created =>
      cases sound with
      | vacant coherent live => exact .occupied ((Engine.create_fresh created).rested coherent live)

theorem Turn.continues {before after : Tenancy} (turn : Turn before after)
    (sound : before.Sound) : Continues before.device after.device := by
  cases turn with
  | alone steps => exact .ofExtends steps.extends
  | work reaches =>
      cases sound with
      | occupied rested =>
          obtain ⟨_, moves, -⟩ := reaches _ rested
          exact moves.continues
  | leave leaves =>
      cases sound with
      | occupied rested =>
          obtain ⟨last, later, rfl, dismantled⟩ := leaves _ rested
          exact dismantled.moves.continues
  | enter created =>
      have fresh := Engine.create_fresh created
      rw [device, device, fresh.device]
      exact .refl _

end Tenancy

namespace Session

def Sound (session : Session) : Prop := session.tenancy.Sound

theorem new_sound (options : DeviceOptions) (capabilities : Capabilities) (order : ReleaseOrder) :
    (Session.new (.new options) capabilities order).Sound :=
  .vacant (.new options) rfl

theorem step_sound (session : Session) (action : Action) (sound : session.Sound) :
    (session.step action).2.Sound := by
  rcases session.step_turn action with turn | ⟨device, leaving, turn⟩
  · exact turn.sound sound
  · exact turn.sound (leaving.sound sound)

theorem run_sound {session : Session} (sound : session.Sound) (actions : List Action) :
    (session.run actions).2.Sound :=
  run_keeps step_sound sound actions

theorem device_eq (session : Session) : session.device = session.tenancy.device := by
  unfold device Tenancy.device
  cases session.tenancy <;> rfl

theorem step_continues {session : Session} (sound : session.Sound) (action : Action) :
    Continues session.device (session.step action).2.device := by
  rw [device_eq, device_eq]
  rcases session.step_turn action with turn | ⟨device, leaving, turn⟩
  · exact turn.continues sound
  · exact (leaving.continues sound).trans (turn.continues (leaving.sound sound))

theorem run_continues {session : Session} (sound : session.Sound) (actions : List Action) :
    Continues session.device (session.run actions).2.device := by
  induction actions generalizing session with
  | nil => exact .refl _
  | cons action rest ih =>
      rw [run_cons]
      exact (step_continues sound action).trans (ih (step_sound session action sound))

theorem Sound.coherent {session : Session} (sound : session.Sound) : session.device.Coherent := by
  rw [device_eq]
  exact Tenancy.Sound.coherent sound

theorem Sound.rested {session : Session} (sound : session.Sound) {engine : Engine}
    (occupied : session.engine? = some engine) :
    ∃ recorded, Moment.Rested ⟨engine, [], recorded⟩ := by
  unfold Sound at sound
  rw [tenancy_of_engine? occupied] at sound
  cases sound with
  | occupied rested => exact ⟨_, rested⟩

theorem Sound.live_eq_nil {session : Session} (sound : session.Sound)
    (vacant : session.engine? = none) : session.device.live = [] := by
  unfold Sound at sound
  unfold engine? at vacant
  unfold device
  cases tenancy : session.tenancy with
  | vacant device =>
      rw [tenancy] at sound
      cases sound with
      | vacant _ live => exact live
  | occupied engine =>
      rw [tenancy] at vacant
      cases vacant

end Session

/-! ## Safety in every reachable state -/

namespace Device.Idle

theorem new (options : DeviceOptions) : (Device.new options).Idle where
  fenced := .new options
  recorded := fun _ => rfl
  completed := by simp [Device.new, History.Submitted]
  safe := trivial

theorem steps {before after : Device} (idle : before.Idle) (steps : Device.Steps before after) :
    after.Idle := by
  have usable : after.lost = false → before.lost = false :=
    (Continues.ofExtends steps.extends).usable
  obtain ⟨added, events, inert⟩ := steps.extends.events
  refine ⟨steps.fenced idle.fenced, fun later => ?_, fun later fence used since submitted => ?_, ?_⟩
  · rw [events, History.recorded_append fun event member =>
      ⟨(inert event member).2, DeviceEvent.isInert.uses (inert event member).1⟩]
    exact idle.recorded (usable later)
  · rw [events] at submitted
    obtain ⟨start, rfl, found⟩ := submitted.of_append added fun event member =>
      (inert event member).2
    exact (idle.completed (usable later) fence used start found).append added
  · rw [events]
    exact idle.safe.append fun event member earlier =>
      DeviceEvent.isInert.safe (inert event member).1 earlier

end Device.Idle

namespace Engine

def HasNumbers (engine : Engine) : Prop := engine.progress.lastIssued < FrameSeq.last

theorem Dismantled.idle {engine last : Engine} {recorded later : List ImageHandle}
    (dismantled : engine.Dismantled last recorded later)
    (guarded : Moment.Guarded ⟨last, [], later⟩) :
    last.device.Idle where
  fenced := guarded.fenced
  recorded := fun usable => guarded.recorded.symm.trans (dismantled.recorded usable)
  completed := fun usable fence used since submitted => by
    refine (guarded.submitted usable fence used since submitted).resolve_right ?_
    intro tracked
    obtain ⟨frame, name, -, -, flying, -⟩ := tracked
    dsimp only at flying
    rw [dismantled.inFlight] at flying
    cases flying
  safe := guarded.safe

end Engine

namespace Tenancy

/-- An engine is guarded, and a device without an engine is idle. -/
inductive Secured : Tenancy → Prop where
  | vacant {device : Device} : device.Coherent → device.live = [] → device.Idle →
      Secured (.vacant device)
  | occupied {engine : Engine} {recorded : List ImageHandle} :
      Moment.Rested ⟨engine, [], recorded⟩ → Moment.Guarded ⟨engine, [], recorded⟩ →
      engine.HasNumbers → Secured (.occupied engine)

theorem Secured.sound {tenancy : Tenancy} (secured : tenancy.Secured) : tenancy.Sound := by
  cases secured with
  | vacant coherent live => exact .vacant coherent live
  | occupied rested => exact .occupied rested

theorem Secured.fenced {tenancy : Tenancy} (secured : tenancy.Secured) :
    tenancy.device.Fenced := by
  cases secured with
  | vacant _ _ idle => exact idle.fenced
  | occupied _ guarded => exact guarded.fenced

theorem Secured.safe {tenancy : Tenancy} (secured : tenancy.Secured) :
    History.Always DeviceEvent.Safe tenancy.device.events := by
  cases secured with
  | vacant _ _ idle => exact idle.safe
  | occupied _ guarded => exact guarded.safe

def HasNumbers : Tenancy → Prop
  | .vacant _ => True
  | .occupied engine => engine.HasNumbers

instance : (tenancy : Tenancy) → Decidable tenancy.HasNumbers
  | .vacant _ => inferInstanceAs (Decidable True)
  | .occupied engine =>
      inferInstanceAs (Decidable (engine.progress.lastIssued < FrameSeq.last))

theorem Turn.secured {before after : Tenancy} (turn : Turn before after) (secured : before.Secured)
    (numbers : after.HasNumbers) : after.Secured := by
  cases turn with
  | alone steps =>
      cases secured with
      | vacant coherent live idle =>
          exact .vacant (coherent.of_extends steps.extends) (steps.extends.live.trans live)
            (idle.steps steps)
  | work leads =>
      cases secured with
      | occupied rested guarded =>
          obtain ⟨_, moves, after⟩ := (leads _ rested).rested rested
          exact .occupied after (moves.guarded rested.owned rested.paced guarded numbers) numbers
  | leave leaves =>
      cases secured with
      | occupied rested guarded issued =>
          have empty := (Turn.leave leaves).sound (.occupied rested)
          obtain ⟨last, later, rfl, dismantled⟩ := leaves _ rested
          have remaining : last.HasNumbers := by
            rw [Engine.HasNumbers, dismantled.lastIssued]
            exact issued
          cases empty with
          | vacant coherent live =>
              exact .vacant coherent live (dismantled.idle
                (dismantled.moves.guarded rested.owned rested.paced guarded remaining))
  | enter created =>
      cases secured with
      | vacant coherent live idle =>
          have fresh := Engine.create_fresh created
          exact .occupied (fresh.rested coherent live) (fresh.guarded idle) numbers

end Tenancy

namespace Session

def Secured (session : Session) : Prop := session.tenancy.Secured

theorem new_secured (options : DeviceOptions) (capabilities : Capabilities)
    (order : ReleaseOrder) : (Session.new (.new options) capabilities order).Secured :=
  .vacant (.new options) rfl (.new options)

theorem step_secured {session : Session} (action : Action) (secured : session.Secured)
    (numbers : (session.step action).2.tenancy.HasNumbers) :
    (session.step action).2.Secured := by
  rcases session.step_turn action with turn | ⟨device, leaving, turn⟩
  · exact turn.secured secured numbers
  · exact turn.secured (leaving.secured secured trivial) numbers

/-- No engine of a run makes as many submissions as there are numbers: none hands out the largest
number, after which numbers repeat. -/
def NumbersSuffice (session : Session) : List Action → Prop
  | [] => session.tenancy.HasNumbers
  | action :: rest =>
      session.tenancy.HasNumbers ∧ (session.step action).2.NumbersSuffice rest

def decideNumbers (session : Session) :
    (actions : List Action) → Decidable (session.NumbersSuffice actions)
  | [] => inferInstanceAs (Decidable session.tenancy.HasNumbers)
  | action :: rest =>
      have := (session.step action).2.decideNumbers rest
      inferInstanceAs (Decidable (session.tenancy.HasNumbers ∧
        (session.step action).2.NumbersSuffice rest))

instance (session : Session) (actions : List Action) :
    Decidable (session.NumbersSuffice actions) := session.decideNumbers actions

theorem NumbersSuffice.start {session : Session} {actions : List Action}
    (numbers : session.NumbersSuffice actions) : session.tenancy.HasNumbers := by
  cases actions with
  | nil => exact numbers
  | cons action rest => exact numbers.1

theorem run_secured {session : Session} (secured : session.Secured) {actions : List Action}
    (numbers : session.NumbersSuffice actions) : (session.run actions).2.Secured := by
  induction actions generalizing session with
  | nil => exact secured
  | cons action rest ih =>
      rw [run_cons]
      exact ih (step_secured action secured numbers.2.start) numbers.2

theorem Secured.sound {session : Session} (secured : session.Secured) : session.Sound :=
  Tenancy.Secured.sound secured

theorem Secured.fenced {session : Session} (secured : session.Secured) :
    session.device.Fenced := by
  rw [device_eq]
  exact Tenancy.Secured.fenced secured

theorem Secured.safe {session : Session} (secured : session.Secured) :
    History.Always DeviceEvent.Safe session.device.events := by
  rw [device_eq]
  exact Tenancy.Secured.safe secured

end Session

end Compositor
