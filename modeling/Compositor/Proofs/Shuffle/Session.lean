import Compositor.Engine.Dump
import Compositor.Proofs.Possession
import Compositor.Proofs.Shuffle.Operations

/-!
# The order of release cannot be seen

Textures that leave a cache together are released in an order that nothing determines. Two sessions
that go through the same on equal devices, and only release in different orders, always tell their
callers the same. Their devices have the same images, fences and draws; only the order in which
images were destroyed, and in which they wait for that, may differ.
-/

set_option autoImplicit false

namespace Compositor

/-! ## Requests -/

section Requests

variable {left right : Engine}

theorem ImageRequest.apply_alike (request : ImageRequest) (alike : left.Alike right) :
    Agree Engine.Alike (request.apply left) (request.apply right) := by
  cases request with
  | cache buffer => exact alike.bind buffer
  | unbind buffer => exact ⟨rfl, alike.unbind buffer⟩

namespace ImageRequests

theorem serve_alike (requests : ImageRequests) (alike : left.Alike right) :
    Agree Engine.Alike (requests.serve left) (requests.serve right) := by
  unfold serve
  cases requests.waiting with
  | nil => exact ⟨rfl, alike⟩
  | cons entry rest =>
      obtain ⟨result, first, second, applied, applying, same⟩ := (entry.2.apply_alike alike).split
      dsimp only
      rw [applied, applying]
      exact ⟨rfl, same⟩

theorem serveMany_alike (count : Nat) (requests : ImageRequests) (alike : left.Alike right) :
    Agree Engine.Alike (serveMany count requests left) (serveMany count requests right) := by
  induction count generalizing requests left right with
  | zero => exact ⟨rfl, alike⟩
  | succ count ih =>
      obtain ⟨served, first, second, one, other, same⟩ := (requests.serve_alike alike).split
      unfold serveMany
      rw [one, other]
      exact ih served same

theorem await_alike (requests : ImageRequests) (ticket : Ticket) (alike : left.Alike right) :
    Agree (Agree Engine.Alike) (requests.await ticket left) (requests.await ticket right) := by
  have served : Agree Engine.Alike (requests.serveThrough ticket left)
      (requests.serveThrough ticket right) := by
    unfold serveThrough
    cases requests.waiting.findIdx? (·.1 == ticket) with
    | none => exact ⟨rfl, alike⟩
    | some position => exact serveMany_alike (position + 1) requests alike
  obtain ⟨after, first, second, one, other, same⟩ := served.split
  unfold await
  rw [one, other]
  exact ⟨rfl, rfl, same⟩

end ImageRequests

end Requests

/-! ## Sessions -/

theorem Engine.Alike.meddled {left right : Engine} (alike : left.Alike right)
    {device other : Device} (meddled : left.device.Meddled device) (same : device.Alike other) :
    ({ left with device } : Engine).Alike { right with device := other } := by
  cases alike with
  | varied honest _ parked =>
      refine .varied ⟨?_, honest.knows.later meddled.events⟩ same parked
      exact Device.registered_lasting.meddled honest.registered meddled

namespace Session

/-- The sessions differ in the order of releases and in what comes of it. -/
inductive Alike : Session → Session → Prop where
  | vacant {capabilities : Capabilities} {order other : ReleaseOrder} {requests : ImageRequests}
      {left right : Device} : left.Registered → left.Alike right →
      Alike ⟨capabilities, order, .vacant left, requests⟩
        ⟨capabilities, other, .vacant right, requests⟩
  | occupied {capabilities : Capabilities} {order other : ReleaseOrder} {requests : ImageRequests}
      {left right : Engine} : left.Alike right →
      Alike ⟨capabilities, order, .occupied left, requests⟩
        ⟨capabilities, other, .occupied right, requests⟩

variable {left right : Session}

namespace Alike

theorem device (alike : left.Alike right) : left.device.Alike right.device := by
  cases alike with
  | vacant _ devices => exact devices
  | occupied engines => exact engines.device

theorem engine? (alike : left.Alike right) :
    Option.Rel Engine.Alike left.engine? right.engine? := by
  cases alike with
  | vacant => exact .none
  | occupied engines => exact .some engines

theorem setDevice (alike : left.Alike right) {device other : Device}
    (meddled : left.device.Meddled device) (same : device.Alike other) :
    (left.setDevice device).Alike (right.setDevice other) := by
  cases alike with
  | vacant registered =>
      exact .vacant (Device.registered_lasting.meddled registered meddled) same
  | occupied engines => exact .occupied (engines.meddled meddled same)

theorem setEngine (alike : left.Alike right) {engine other : Engine}
    (same : engine.Alike other) : (left.setEngine engine).Alike (right.setEngine other) := by
  cases alike with
  | vacant => exact .occupied same
  | occupied => exact .occupied same

theorem withRequests (alike : left.Alike right) (requests : ImageRequests) :
    ({ left with requests } : Session).Alike { right with requests } := by
  cases alike with
  | vacant registered devices => exact .vacant registered devices
  | occupied engines => exact .occupied engines

theorem registered (alike : left.Alike right) : left.device.Registered := by
  cases alike with
  | vacant registered => exact registered
  | occupied engines => exact engines.honest.registered

theorem capabilities (alike : left.Alike right) : left.capabilities = right.capabilities := by
  cases alike with
  | vacant => rfl
  | occupied => rfl

theorem requests (alike : left.Alike right) : left.requests = right.requests := by
  cases alike with
  | vacant => rfl
  | occupied => rfl

/-- Scripting concerns the device alone. -/
theorem script (alike : left.Alike right) (action : Action) :
    Option.Rel (Agree Session.Alike) (left.script action) (right.script action) := by
  have device := alike.device
  cases action with
  | createFence origin status =>
      obtain ⟨answer, same⟩ := device.createFence origin status
      exact .some ⟨congrArg Outcome.fence answer,
        alike.setDevice (.step (.quiet (Device.quiet_create _ _ _))) same⟩
  | settleFence outcome fence =>
      exact .some ⟨rfl, alike.setDevice (.step (.quiet (Device.quiet_settleFence _ _ _)))
        (device.settleFence outcome fence)⟩
  | signalNext =>
      obtain ⟨answer, same⟩ := device.signalNext
      exact .some ⟨congrArg Outcome.flag answer,
        alike.setDevice (.step (Device.signalNext_step _)) same⟩
  | signalAll =>
      exact .some ⟨rfl, alike.setDevice (.step (Device.signalAll_step _)) device.signalAll⟩
  | rejectImports buffer =>
      exact .some ⟨rfl, alike.setDevice (.step (.quiet (Device.quiet_reject _ _)))
        (device.rejectImports buffer)⟩
  | allowImports buffer =>
      exact .some ⟨rfl, alike.setDevice (.step (.quiet (Device.quiet_allow _ _)))
        (device.allowImports buffer)⟩
  | lose => exact .some ⟨rfl, alike.setDevice (.step .lose) device.lose⟩
  | scheduleLoss call passing =>
      exact .some ⟨rfl, alike.setDevice (.step (.quiet (Device.quiet_schedule _ _ _)))
        (device.scheduleLoss call passing)⟩
  | _ => exact .none

end Alike

/-! ### Operations -/

theorem operate_alike {left right : Engine} (alike : left.Alike right) (action : Action) :
    Option.Rel (Agree Engine.Alike) (operate left action) (operate right action) := by
  cases action with
  | draw request =>
      obtain ⟨answer, same⟩ := alike.draw request
      exact .some ⟨congrArg Outcome.frame answer, same⟩
  | bind buffer =>
      obtain ⟨answer, same⟩ := alike.bind buffer
      exact .some ⟨congrArg Outcome.done answer, same⟩
  | unbind buffer => exact .some ⟨rfl, alike.unbind buffer⟩
  | invalidate buffer => exact .some ⟨rfl, alike.invalidate buffer⟩
  | setProtected wantsSecure =>
      obtain ⟨answer, same⟩ := alike.setProtected wantsSecure
      exact .some ⟨congrArg Outcome.flag answer, same⟩
  | flush =>
      obtain ⟨answer, same⟩ := alike.flush
      exact .some ⟨congrArg Outcome.flushed answer, same⟩
  | finish =>
      obtain ⟨answer, same⟩ := alike.finish
      exact .some ⟨congrArg Outcome.flag answer, same⟩
  | cleanup =>
      obtain ⟨answer, same⟩ := alike.cleanup
      exact .some ⟨congrArg Outcome.flag answer, same⟩
  | await fence =>
      obtain ⟨answer, same⟩ := alike.await fence
      exact .some ⟨congrArg Outcome.flag answer, same⟩
  | watchTracer elapsed => exact .some ⟨rfl, alike.watchTracer elapsed⟩
  | _ => exact .none

namespace Alike

theorem request (alike : left.Alike right) {engine other : Engine} (same : engine.Alike other)
    (action : Action) :
    Agree Session.Alike (left.request engine action) (right.request other action) := by
  cases action with
  | submit request =>
      unfold Session.request
      rw [← alike.requests]
      exact ⟨rfl, alike.withRequests _⟩
  | serve =>
      obtain ⟨requests, first, second, served, serving, after⟩ :=
        (left.requests.serve_alike same).split
      unfold Session.request
      dsimp only
      rw [← alike.requests, served, serving]
      exact ⟨rfl, (alike.withRequests requests).setEngine after⟩
  | collect ticket =>
      obtain ⟨result, ⟨requests, first⟩, ⟨_, second⟩, awaited, awaiting, rfl, after⟩ :=
        (left.requests.await_alike ticket same).split
      unfold Session.request
      dsimp only
      rw [← alike.requests, awaited, awaiting]
      exact ⟨rfl, (alike.withRequests requests).setEngine after⟩
  | _ => exact ⟨rfl, alike⟩

theorem stop (alike : left.Alike right) : left.stop.Alike right.stop := by
  cases alike with
  | vacant registered devices => exact .vacant registered devices
  | @occupied _ _ _ requests _ _ engines =>
      obtain ⟨after, first, second, served, serving, same⟩ :=
        (requests.serveMany_alike requests.waiting.length engines).split
      unfold Session.stop ImageRequests.serveAll
      dsimp only
      rw [served, serving]
      exact .vacant (Device.registered_lasting.torn same.honest.registered) same.teardown

theorem start (alike : left.Alike right) (options : EngineOptions) :
    Agree Session.Alike (left.start options) (right.start options) := by
  have created := Engine.create_alike alike.device alike.registered left.capabilities options
    left.order right.order
  unfold Session.start
  rw [← alike.capabilities]
  generalize Engine.create left.device left.capabilities options left.order = one at created
  generalize Engine.create right.device left.capabilities options right.order = other at created
  cases created with
  | error same =>
      rw [same]
      exact ⟨rfl, alike⟩
  | ok engines => exact ⟨rfl, alike.setEngine engines⟩

end Alike

/-- What a step does that neither sets up nor takes down an engine. -/
def dispatch (session : Session) (action : Action) : Outcome × Session :=
  match session.script action with
  | some result => result
  | none =>
    match session.engine? with
    | none => (.noEngine, session)
    | some engine =>
      match operate engine action with
      | some (outcome, engine) => (outcome, session.setEngine engine)
      | none => session.request engine action

theorem step_eq_dispatch (session : Session) {action : Action}
    (keeps : action.replacesEngine = false) : session.step action = session.dispatch action := by
  cases action <;> first | rfl | cases keeps

namespace Alike

theorem dispatch (alike : left.Alike right) (action : Action) :
    Agree Session.Alike (left.dispatch action) (right.dispatch action) := by
  have scripted := alike.script action
  have engines := alike.engine?
  unfold Session.dispatch
  generalize left.script action = one at scripted
  generalize right.script action = other at scripted
  cases scripted with
  | some agree => exact agree
  | none =>
      generalize left.engine? = first at engines
      generalize right.engine? = second at engines
      cases engines with
      | none => exact ⟨rfl, alike⟩
      | @some engine rival same =>
          have operated := operate_alike same action
          dsimp only
          generalize operate engine action = result at operated
          generalize operate rival action = twin at operated
          cases operated with
          | some agree => exact ⟨agree.answer, alike.setEngine agree.state⟩
          | none => exact alike.request same action

theorem step (alike : left.Alike right) (action : Action) :
    Agree Session.Alike (left.step action) (right.step action) := by
  cases replaced : action.replacesEngine with
  | false =>
      rw [step_eq_dispatch left replaced, step_eq_dispatch right replaced]
      exact alike.dispatch action
  | true =>
      cases action with
      | start options =>
          obtain ⟨answer, same⟩ := alike.stop.start options
          exact ⟨congrArg Outcome.done answer, same⟩
      | stop =>
          have engines := alike.engine?
          have present : left.engine?.isSome = right.engine?.isSome := by
            generalize left.engine? = one at engines
            generalize right.engine? = other at engines
            cases engines <;> rfl
          exact ⟨congrArg (fun isThere => if isThere then Outcome.nothing else .noEngine) present,
            alike.stop⟩
      | _ => cases replaced

theorem befall (alike : left.Alike right) (incident : Incident) :
    (left.befall incident).Alike (right.befall incident) := by
  cases incident with
  | act action => exact (alike.step action).state
  | meddle mode handle =>
      exact alike.setDevice (.release mode handle) (alike.device.release mode handle)

theorem endure (alike : left.Alike right) (incidents : List Incident) :
    (left.endure incidents).Alike (right.endure incidents) := by
  induction incidents generalizing left right with
  | nil => exact alike
  | cons incident rest ih => exact ih (alike.befall incident)

theorem run (alike : left.Alike right) (actions : List Action) :
    Agree Session.Alike (left.run actions) (right.run actions) := by
  induction actions using List.reverseRecOn with
  | nil => exact ⟨rfl, alike⟩
  | append_singleton actions action ih =>
      have step := ih.state.step action
      unfold Session.run at ih ⊢
      rw [List.foldl_append, List.foldl_append]
      exact ⟨congrArg₂ (fun told outcome => told ++ [outcome]) ih.answer step.answer, step.state⟩

end Alike

theorem new_alike (options : DeviceOptions) (capabilities : Capabilities)
    (order other : ReleaseOrder) :
    (Session.new (.new options) capabilities order).Alike
      (Session.new (.new options) capabilities other) :=
  .vacant (.new options) (.refl _)

/-! ## What can be seen -/

/-- The images that wait for their destruction, the first one retired first. -/
def parked (session : Session) : List Image :=
  session.engine?.elim [] fun engine => engine.retired.parked

/-- Whoever looks at these sessions sees the same, apart from the order in which images were
destroyed and in which they wait for that. -/
structure Indistinct (left right : Session) : Prop where
  /-- The cached buffers, the book-keeping of submissions and all else that an engine shows. -/
  dump : left.engine?.map Engine.dump = right.engine?.map Engine.dump
  live : left.device.live = right.device.live
  issued : left.device.issued = right.device.issued
  draws : left.device.draws = right.device.draws
  pending : left.device.pending = right.device.pending
  fences : left.device.fences = right.device.fences
  lost : left.device.lost = right.device.lost
  destroyed : left.device.destroyed.Perm right.device.destroyed
  parked : left.parked.Perm right.parked

theorem Alike.indistinct (alike : left.Alike right) : left.Indistinct right := by
  have device := alike.device
  have engines := alike.engine?
  have dump : left.engine?.map Engine.dump = right.engine?.map Engine.dump := by
    generalize left.engine? = one at engines
    generalize right.engine? = other at engines
    cases engines with
    | none => rfl
    | some same =>
        cases same with
        | varied _ _ parked =>
            refine congrArg some ?_
            unfold Engine.dump Engine.pendingDestructions RetireQueue.size
            rw [parked.length_eq]
            rfl
  have parked : left.parked.Perm right.parked := by
    unfold Session.parked
    generalize left.engine? = one at engines
    generalize right.engine? = other at engines
    cases engines with
    | none => exact .refl _
    | some same => exact same.parked
  exact ⟨dump, device.live, device.issued, device.draws, device.pending, device.fences, device.lost,
    device.told_perm DeviceEvent.destroyed?, parked⟩

/-- In whatever order textures are released, sessions that do the same give the same answers, look
the same after each step and misuse the same images. On a device where others destroy images too, an
engine may release what is gone already; such misuses come in the order of the releases. -/
theorem release_order_unseen (options : DeviceOptions) (capabilities : Capabilities)
    (order other : ReleaseOrder) :
    (∀ actions : List Action,
      let left := (Session.new (.new options) capabilities order).run actions
      let right := (Session.new (.new options) capabilities other).run actions
      left.1 = right.1 ∧ left.2.Indistinct right.2 ∧
        left.2.device.misuses = right.2.device.misuses) ∧
    ∀ incidents : List Incident,
      let left := (Session.new (.new options) capabilities order).endure incidents
      let right := (Session.new (.new options) capabilities other).endure incidents
      (∀ action, (left.step action).1 = (right.step action).1) ∧ left.Indistinct right ∧
        left.device.misuses.Perm right.device.misuses := by
  have alike := new_alike options capabilities order other
  refine ⟨fun actions => ?_, fun incidents => ?_⟩
  · have ran := alike.run actions
    have left := (run_sound (new_sound options capabilities order) actions).coherent
    have right := (run_sound (new_sound options capabilities other) actions).coherent
    refine ⟨ran.answer, ran.state.indistinct, ?_⟩
    rw [left.misuses_eq, right.misuses_eq]
  · have endured := alike.endure incidents
    exact ⟨fun action => (endured.step action).answer, endured.indistinct,
      endured.device.told_perm DeviceEvent.misuse?⟩

private def lastFirst : ReleaseOrder :=
  ⟨fun _ images => images.reverse, fun _ images => images.reverse_perm⟩

/-- Two textures that the next frame does not use. -/
private def leavesTwo : List Action :=
  [.start .standard, .bind (.plain ⟨1⟩ 8 8), .bind (.plain ⟨2⟩ 8 8),
    .draw ⟨.ofSize 64 64, [], .plain ⟨9⟩ 64 64, true, none⟩]

example :
    ((Session.new (.new .standard) DeviceOptions.standard.capabilities .byArrival).run
        leavesTwo).2.device.destroyed = [⟨1⟩, ⟨2⟩] ∧
      ((Session.new (.new .standard) DeviceOptions.standard.capabilities lastFirst).run
        leavesTwo).2.device.destroyed = [⟨2⟩, ⟨1⟩] := by decide

end Session

end Compositor
