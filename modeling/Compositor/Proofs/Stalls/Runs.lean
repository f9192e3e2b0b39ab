import Compositor.Proofs.Exchange.Runs
import Compositor.Proofs.Outline.Session
import Compositor.Proofs.Stalls.Bills

/-!
# Stalls

An engine stalls when it has its device drained. On a device of its own it does so in place of a
fence that it does not get, before it changes contexts, and when it is asked to, and never else. An
engine that works without fences stalls at every submission; in return nothing is outstanding while
it rests.
-/

set_option autoImplicit false

namespace Compositor

namespace Session

variable {session : Session} {action : Action}

/-- What an action has the engine do, if there is one and the action is an operation. -/
def operation? (session : Session) (action : Action) : Option OperationRecord :=
  session.engine?.bind fun before =>
    (operate before action).map fun (outcome, after) => ⟨before, action, outcome, after⟩

/-- The operations of a run, the first one first. -/
def operations (session : Session) : List Action → List OperationRecord
  | [] => []
  | action :: rest => (session.operation? action).toList ++ (session.step action).2.operations rest

theorem operations_append (session : Session) (first second : List Action) :
    session.operations (first ++ second) =
      session.operations first ++ (session.run first).2.operations second := by
  induction first generalizing session with
  | nil => rfl
  | cons action rest ih =>
      rw [List.cons_append, operations, operations, ih, run_cons, List.append_assoc]

theorem mem_operations {record : OperationRecord} {actions : List Action}
    (member : record ∈ session.operations actions) :
    operate record.before record.action = some (record.outcome, record.after) := by
  induction actions generalizing session with
  | nil => cases member
  | cons action rest ih =>
      rcases List.mem_append.mp member with now | later
      · obtain ⟨before, -, operated⟩ := Option.bind_eq_some_iff.mp (Option.mem_toList.mp now)
        obtain ⟨result, operated, same⟩ := Option.map_eq_some_iff.mp operated
        rw [← same]
        exact operated
      · exact ih later

/-- The number of drains that a run should come to: one for each submission without a fence, one for
each change of contexts, and one for each time that the engine was asked to finish. -/
def stalls (session : Session) (actions : List Action) : Nat :=
  (session.operations actions).countP OperationRecord.isUnfenced +
    (session.operations actions).countP OperationRecord.switches +
    (session.operations actions).countP OperationRecord.finishes

theorem stalls_append (session : Session) (first second : List Action) :
    session.stalls (first ++ second) =
      session.stalls first + (session.run first).2.stalls second := by
  simp only [stalls, operations_append, List.countP_append]
  omega

theorem stalls_single (session : Session) (action : Action) :
    session.stalls [action] =
      (session.operation? action).elim 0 fun record => record.bill record.flushedBare := by
  simp only [stalls, operations, List.append_nil]
  cases session.operation? action with
  | none => rfl
  | some record =>
      have counts (holds : OperationRecord → Bool) :
          [record].countP holds = (holds record).toNat := by
        cases told : holds record <;> simp [told]
      simp only [Option.toList_some, counts]
      rfl

/-- Scripting a device asks nothing of its contexts. -/
theorem script_free {result : Outcome × Session} (scripted : session.script action = some result) :
    Device.Free session.device result.2.device := by
  cases action with
  | createFence | settleFence | rejectImports | allowImports | scheduleLoss =>
      cases scripted
      rw [setDevice_device]
      exact .untold rfl
  | signalNext =>
      cases scripted
      rw [setDevice_device]
      exact .signalNext _
  | signalAll =>
      cases scripted
      rw [setDevice_device]
      exact .told rfl rfl
  | lose =>
      cases scripted
      rw [setDevice_device]
      exact .lose _
  | _ => cases scripted

/-- Requests bind and unbind, which drains nothing. -/
theorem request_free {engine : Engine} (occupied : session.engine? = some engine)
    (action : Action) : Device.Free engine.device (session.request engine action).2.device := by
  obtain ⟨after, later⟩ := request_occupied occupied action
  rw [device_of_engine? later]
  have applied (request : ImageRequest) (next : Engine)
      (free : Device.Free engine.device next.device) :
      Device.Free engine.device (request.apply next).2.device := by
    cases request with
    | cache buffer => exact free.after (next.bind_free buffer)
    | unbind buffer =>
        exact free.after (Engine.retire_calls { next.poll with textures := _ } _).free
  exact @request_keeps session (fun next => Device.Free engine.device next.device) engine after
    applied (.refl _) occupied action later

theorem operation?_eq_none (idle : ∀ engine, operate engine action = none) :
    session.operation? action = none := by
  simp [operation?, idle]

/-- No submission is in flight while an engine rests that works without fences. -/
def Landed (session : Session) : Prop :=
  ∀ engine ∈ session.engine?, engine.strategy = .blockingFinish → engine.progress.inFlight = []

theorem run_landed (options : DeviceOptions) (capabilities : Capabilities) (order : ReleaseOrder)
    (actions : List Action) : ((new (.new options) capabilities order).run actions).2.Landed := by
  intro engine occupied blocking
  rw [Option.mem_def, ← endure_actions] at occupied
  have attends := Engine.attends_told.endure_new Device.fenced_lasting (.new options) _ occupied
  exact List.map_eq_nil_iff.mp (attends.blocking blocking)

theorem step_stalls (sound : session.Sound) (landed : session.Landed)
    (stays : action.replacesEngine = false ∨ session.engine? = none)
    (usable : (session.step action).2.device.lost = false) :
    (session.step action).2.device.finishes =
      session.device.finishes + session.stalls [action] := by
  rw [stalls_single]
  have free : Device.Free session.device (session.step action).2.device →
      session.operation? action = none → (session.step action).2.device.finishes =
        session.device.finishes + (session.operation? action).elim 0 fun record =>
          record.bill record.flushedBare := by
    intro free none
    rw [none]
    exact free.finishes
  have stepped := session.step_stepped action
  generalize session.step action = result at stepped usable free
  cases stepped with
  | started options =>
      have vacant : session.engine? = none := by simpa [Action.replacesEngine] using stays
      refine free (.untold ?_) (operation?_eq_none fun _ => rfl)
      rw [start_device, stop_vacant vacant]
  | stopped =>
      have vacant : session.engine? = none := by simpa [Action.replacesEngine] using stays
      refine free (.untold ?_) (operation?_eq_none fun _ => rfl)
      rw [stop_vacant vacant]
  | scripted scripted =>
      refine free (script_free scripted) (operation?_eq_none fun engine => ?_)
      cases action <;> first | rfl | cases scripted
  | absent vacant =>
      refine free (.refl _) ?_
      simp [operation?, vacant]
  | requested occupied concerns =>
      refine free ?_ (operation?_eq_none fun engine => ?_)
      · rw [device_of_engine? occupied]
        exact request_free occupied action
      · cases action <;> first | rfl | cases concerns
  | @operated _ engine after outcome occupied operated =>
      obtain ⟨recorded, rested⟩ := sound.rested occupied
      obtain ⟨bare, toll⟩ :=
        Engine.operate_fair rested (landed engine occupied) operated usable
      have same : OperationRecord.flushedBare ⟨engine, action, outcome, after⟩ = bare :=
        toll.bare_eq
      have operation : session.operation? action = some ⟨engine, action, outcome, after⟩ := by
        simp [operation?, occupied, operated]
      rw [operation, device_of_engine? occupied, Option.elim_some, same]
      exact toll.finishes

theorem run_stalls (sound : session.Sound) (landed : ∀ actions, (session.run actions).2.Landed)
    {actions : List Action} (stays : ∀ action ∈ actions, action.replacesEngine = false)
    (usable : (session.run actions).2.device.lost = false) :
    (session.run actions).2.device.finishes =
      session.device.finishes + session.stalls actions := by
  induction actions generalizing session with
  | nil => rfl
  | cons action rest ih =>
      have next := step_sound session action sound
      rw [run_cons] at usable
      have first := step_stalls sound (landed []) (.inl (stays action List.mem_cons_self))
        ((run_continues next rest).usable usable)
      have later := ih next (fun actions => by rw [← run_cons]; exact landed (action :: actions))
        (fun other member => stays other (List.mem_cons_of_mem _ member)) usable
      have split : session.stalls (action :: rest) =
          session.stalls [action] + (session.step action).2.stalls rest :=
        session.stalls_append [action] rest
      rw [run_cons, later, first, split, Nat.add_assoc]

theorem run_vacant (vacant : session.engine? = none) {actions : List Action}
    (stays : ∀ action ∈ actions, action.replacesEngine = false) :
    (session.run actions).2.engine? = none := by
  induction actions generalizing session with
  | nil => exact vacant
  | cons action rest ih =>
      have same := session.step_engine? (stays action List.mem_cons_self)
      rw [vacant] at same
      rw [run_cons]
      exact ih (Option.not_isSome_iff_eq_none.mp (Bool.eq_false_iff.mp same))
        fun other member => stays other (List.mem_cons_of_mem _ member)

/-- What a run comes to in which an engine works on a device of its own. -/
structure WorksPromptly (session : Session) (actions : List Action) : Prop where
  /-- The device was drained as often as it should be. -/
  counted : (session.run actions).2.device.lost = false →
    (session.run actions).2.device.finishes = session.stalls actions
  cleanup : (session.run actions).2.device.lost = false →
    ∀ engine ∈ (session.run actions).2.engine?,
      engine.cleanup.2.device.finishes = engine.device.finishes
  /-- Without fences, nothing is outstanding while the engine rests. -/
  outstanding : ∀ engine ∈ (session.run actions).2.engine?, engine.strategy = .blockingFinish →
    engine.progress.inFlight = [] ∧ engine.device.pending = []
  signaled : ∀ record ∈ session.operations actions, record.before.strategy = .blockingFinish →
    ∀ fence ∈ record.fence?, record.after.device.fences.isSignaled fence = true

/-- On a device of its own, an engine stalls exactly as often as it has to: once for each submission
without a fence, for each change of contexts, and for each time that it is asked to finish. -/
theorem stalls_exact (options : DeviceOptions) (capabilities : Capabilities) (order : ReleaseOrder)
    (setup : List Action) (engineOptions : EngineOptions) (actions : List Action)
    (unoccupied : ∀ action ∈ setup, action.replacesEngine = false)
    (single : ∀ action ∈ actions, action.replacesEngine = false) :
    (new (.new options) capabilities order).WorksPromptly
      (setup ++ .start engineOptions :: actions) := by
  let fresh := new (.new options) capabilities order
  let ready := (fresh.run setup).2
  let started := (ready.step (.start engineOptions)).2
  have sound := new_sound options capabilities order
  have readySound : ready.Sound := run_sound sound setup
  have startedSound : started.Sound := step_sound ready _ readySound
  have vacant : ready.engine? = none := run_vacant rfl unoccupied
  have final : (fresh.run (setup ++ .start engineOptions :: actions)).2 =
      (started.run actions).2 := by
    rw [run_append, run_cons]
  have landed (first more : List Action) : (((fresh.run first).2).run more).2.Landed := by
    rw [← run_append]
    exact run_landed options capabilities order (first ++ more)
  have later (more : List Action) : (started.run more).2.Landed := by
    have reached := landed setup (.start engineOptions :: more)
    rwa [run_cons] at reached
  refine ⟨fun usable => ?_, fun usable engine occupied => ?_, fun engine occupied blocking => ?_,
    fun record member blocking => Engine.operate_signaled (mem_operations member) blocking⟩
  · rw [final] at usable ⊢
    have startUsable := (run_continues startedSound actions).usable usable
    have setupUsable := (step_continues readySound (.start engineOptions)).usable startUsable
    have first : ready.device.finishes = fresh.stalls setup :=
      (run_stalls sound (landed []) unoccupied setupUsable).trans (Nat.zero_add _)
    have second : started.device.finishes =
        ready.device.finishes + ready.stalls [.start engineOptions] :=
      step_stalls readySound (landed setup []) (.inr vacant) startUsable
    have third := run_stalls startedSound later single usable
    have split : fresh.stalls (setup ++ .start engineOptions :: actions) =
        fresh.stalls setup + (ready.stalls [.start engineOptions] + started.stalls actions) := by
      rw [stalls_append]
      exact congrArg _ (ready.stalls_append [.start engineOptions] actions)
    rw [third, second, first, split, Nat.add_assoc]
  · rw [final] at usable occupied
    obtain ⟨recorded, rested⟩ := (run_sound startedSound actions).rested occupied
    rw [device_of_engine? occupied] at usable
    have alive : engine.lost = false := by
      by_contra lost
      rw [Bool.not_eq_false] at lost
      exact absurd ((rested.paced.lost lost).symm.trans usable) (by simp)
    exact (Engine.cleanup_free alive rested (later actions engine occupied)).finishes
  · have watched := (run_watched sound (new_watched options capabilities order) _).of_engine?
      occupied
    have idle := run_landed options capabilities order _ engine occupied blocking
    obtain ⟨settled, flying, -⟩ := watched.covers
    rw [Progress.flying, idle] at flying
    exact ⟨idle, (List.append_eq_nil_iff.mp flying.symm).2⟩

/-- On a device that has no fences, an engine that counts on them: a flush, a frame without a
target, a switch, a cleanup, a finish, and a frame that switches back. -/
private def unfencedWork : List Action :=
  [.flush, .draw ⟨.ofSize 64 64, [], .plain ⟨9⟩ 64 64, true, none⟩, .setProtected true, .cleanup,
    .finish, .draw ⟨.ofSize 64 64, [], .plain ⟨8⟩ 64 64, true, none⟩]

private def unfencedRun : List Action :=
  [.rejectImports ⟨9⟩] ++
    .start { EngineOptions.standard with enableSecure := true } :: unfencedWork

theorem stalls_exact_without_fences :
    (new (.new ⟨false, true, false, 4096⟩) DeviceOptions.standard.capabilities
        .byArrival).WorksPromptly unfencedRun ∧
      ((new (.new ⟨false, true, false, 4096⟩) DeviceOptions.standard.capabilities
        .byArrival).run unfencedRun).2.device.lost = false ∧
      ((new (.new ⟨false, true, false, 4096⟩) DeviceOptions.standard.capabilities
        .byArrival).run unfencedRun).2.device.finishes = 5 :=
  ⟨stalls_exact ⟨false, true, false, 4096⟩ DeviceOptions.standard.capabilities .byArrival
    [.rejectImports ⟨9⟩] { EngineOptions.standard with enableSecure := true } unfencedWork
    (by decide) (by decide), by decide, by decide⟩

end Session

end Compositor
