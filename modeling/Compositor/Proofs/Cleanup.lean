import Compositor.Proofs.Promises

/-!
# What a cleanup tells

A cleanup says that it released the resources of the latest submission. It says so just if something
was submitted since it last did, and all that was submitted has settled. With fences this is learned
by polling, and without them nothing is ever in flight between two operations; what comes to pass in
between, be it that the device is drained, does not change the law.
-/

set_option autoImplicit false

namespace Compositor

variable {engine after : Engine}

/-! ## Submissions in flight -/

namespace Strategy

variable {device after : Device} {progress next : Progress} {frame : FrameSeq} {fence : Fence}

theorem submitDrained_idle
    (submitted : submitDrained device progress frame = (.ok fence, next, after)) :
    next = progress.markIdle.submitted frame none ∧ after.pending = [] := by
  cases drained : device.finish.1 with
  | false =>
      rw [submitDrained_failed progress frame drained] at submitted
      cases submitted
  | true =>
      rw [submitDrained_done progress frame drained] at submitted
      cases submitted
      exact ⟨rfl, Device.acceptFinish_pending (Device.finish_usable drained)⟩

/-- A submission that has a fence of its own joins those in flight; else none is in flight. -/
theorem submit_flying {strategy : Strategy} (opened : progress.recording = some frame)
    (submitted : strategy.submit device progress frame = (.ok fence, next, after)) :
    next.cleaned = false ∧
      (strategy = .fenceGated ∧ next.flying = progress.flying ++ [fence] ∨
        next.flying = [] ∧ after.pending = []) := by
  have drains : ∀ {flushed : Device},
      submitDrained flushed progress frame = (.ok fence, next, after) →
      next.cleaned = false ∧ next.flying = [] ∧ after.pending = [] := by
    intro flushed done
    obtain ⟨rfl, idle⟩ := submitDrained_idle done
    exact ⟨rfl, Progress.flying_drained _ frame, idle⟩
  unfold submit at submitted
  cases flushed : device.flush with
  | mk given device =>
      rw [flushed] at submitted
      cases strategy with
      | blockingFinish =>
          obtain ⟨soiled, idle⟩ := drains submitted
          exact ⟨soiled, .inr idle⟩
      | fenceGated =>
          cases given with
          | some given =>
              cases submitted
              exact ⟨rfl, .inl ⟨rfl, Progress.flying_submitted opened fence⟩⟩
          | none =>
              dsimp only at submitted
              cases asked : device.checkLost with
              | mk lost known =>
                  rw [asked] at submitted
                  cases lost with
                  | true => cases submitted
                  | false =>
                      obtain ⟨soiled, idle⟩ := drains submitted
                      exact ⟨soiled, .inr idle⟩

end Strategy

namespace Engine

theorem submit_flying {frame : FrameSeq} {fence : Fence}
    (opened : engine.progress.recording = some frame)
    (submitted : engine.submit frame = (.ok fence, after)) :
    after.strategy = engine.strategy ∧ after.progress.cleaned = false ∧
      (engine.strategy = .fenceGated ∧
          after.progress.flying = engine.progress.flying ++ [fence] ∨
        after.progress.flying = [] ∧ after.device.pending = []) := by
  unfold submit at submitted
  cases outcome : engine.strategy.submit engine.device engine.progress frame with
  | mk result rest =>
      rw [outcome] at submitted
      cases result with
      | error error => cases submitted
      | ok given =>
          cases submitted
          exact ⟨rfl, Strategy.submit_flying opened outcome⟩

/-! ## An engine and its fences -/

/-- The engine waits for those of the given fences that are pending, and knows whether there is
something to release. -/
structure Attends (fences : List Fence) (owed : Bool) (engine : Engine) : Prop where
  fenced : engine.device.Fenced
  owes : ∀ fence ∈ fences, engine.device.Owes fence
  waits : ∀ fence ∈ fences, engine.device.fences.isPending fence = true →
    fence ∈ engine.progress.flying
  known : engine.progress.flying ⊆ fences
  cleaned : engine.progress.cleaned = !owed
  /-- Without fences, nothing is in flight between two operations. -/
  blocking : engine.strategy = .blockingFinish → engine.progress.flying = []

namespace Attends

variable {fences : List Fence} {owed : Bool}

/-- Nothing but settled fences left the queue. -/
theorem pass (attends : Attends fences owed engine)
    (honours : Device.Honours engine.device after.device)
    (subset : after.progress.flying ⊆ engine.progress.flying)
    (left : ∀ fence ∈ engine.progress.flying, after.device.fences.isPending fence = true →
      fence ∈ after.progress.flying)
    (cleaned : after.progress.cleaned = engine.progress.cleaned)
    (strategy : after.strategy = engine.strategy) : Attends fences owed after where
  fenced := honours.fenced attends.fenced
  owes := fun fence member => honours.owes (attends.owes fence member)
  waits := fun fence member waits =>
    left fence (attends.waits fence member
      (honours.waited attends.fenced (attends.owes fence member) waits)) waits
  known := List.Subset.trans subset attends.known
  cleaned := cleaned.trans attends.cleaned
  blocking := fun blocking => by
    rw [attends.blocking (strategy.symm.trans blocking)] at subset
    exact List.eq_nil_of_subset_nil subset

theorem keep (attends : Attends fences owed engine)
    (honours : Device.Honours engine.device after.device)
    (flying : after.progress.flying = engine.progress.flying)
    (cleaned : after.progress.cleaned = engine.progress.cleaned)
    (strategy : after.strategy = engine.strategy) : Attends fences owed after := by
  refine attends.pass honours ?_ (fun fence member _ => ?_) cleaned strategy
  · rw [flying]
    exact List.Subset.refl _
  · rw [flying]
    exact member

/-- Where nothing is pending on the device, the engine need not wait for anything. -/
theorem drain (attends : Attends fences owed engine)
    (honours : Device.Honours engine.device after.device) (idle : after.device.pending = [])
    (flying : after.progress.flying = [])
    (cleaned : after.progress.cleaned = engine.progress.cleaned)
    (strategy : after.strategy = engine.strategy) : Attends fences owed after := by
  refine attends.pass honours ?_ (fun fence member waits => ?_) cleaned strategy
  · rw [flying]
    exact List.nil_subset _
  · have owes := honours.owes (attends.owes fence (attends.known member))
    exact absurd (of_decide_eq_true waits) (owes.status (honours.fenced attends.fenced) idle)

theorem poll (attends : Attends fences owed engine) : Attends fences owed engine.poll := by
  have polled : engine.poll.progress.flying =
      engine.progress.flying.dropWhile fun fence => !engine.device.fences.isPending fence := by
    rw [Progress.flying, Progress.flying, List.dropWhile_map]
    rfl
  refine attends.pass (.refl _) ?_ (fun fence member waits => ?_) rfl rfl
  · rw [polled]
    exact List.dropWhile_subset _
  · rw [polled]
    have pending : engine.device.fences.isPending fence = true := waits
    exact mem_dropWhile member (by rw [pending]; rfl)

theorem act (attends : Attends fences owed engine) (act : Act engine after) :
    Attends fences owed after := by
  have honours := act.effects.honours
  cases act with
  | arrange _ progress strategy _ =>
      exact attends.keep honours (by rw [progress]) (by rw [progress]) strategy
  | call | abandon | fail | markLost => exact attends.keep honours rfl rfl rfl
  | poll => exact attends.poll
  | @drain device drained =>
      have usable := Device.finish_usable (congrArg Prod.fst drained)
      have idle : engine.device.finish.2.pending = [] := Device.acceptFinish_pending usable
      rw [drained] at idle
      exact attends.drain honours idle rfl rfl rfl
  | @strand _ frame _ failed =>
      have submitted := engine.submit_submitted frame
      rw [failed] at submitted
      cases submitted with
      | lost => exact attends.keep honours rfl rfl rfl

theorem acts (attends : Attends fences owed engine) (acts : Acts engine after) :
    Attends fences owed after := by
  induction acts with
  | refl => exact attends
  | tail _ act ih => exact ih.act act

theorem takeNumber (attends : Attends fences owed engine) :
    Attends fences owed engine.takeNumber :=
  attends.keep (.refl _) rfl rfl rfl

theorem setCleaned (attends : Attends fences owed engine) :
    Attends fences false { engine with progress := engine.progress.setCleaned } :=
  ⟨attends.fenced, attends.owes, attends.waits, attends.known, rfl, attends.blocking⟩

theorem submit {frame : FrameSeq} {fence : Fence} (attends : Attends fences owed engine)
    (opened : engine.progress.recording = some frame)
    (submitted : engine.submit frame = (.ok fence, after)) :
    Attends (fence :: fences) true after := by
  have effects := engine.submit_effects frame
  rw [submitted] at effects
  have fenced := effects.fenced attends.fenced
  have owes : ∀ other ∈ fence :: fences, after.device.Owes other := by
    intro other member
    rcases List.mem_cons.mp member with rfl | earlier
    · exact submit_owes submitted
    · exact effects.owes (attends.owes other earlier)
  obtain ⟨strategy, soiled, ⟨gated, joined⟩ | ⟨landed, idle⟩⟩ := submit_flying opened submitted
  · refine ⟨fenced, owes, fun other member waits => ?_, fun other member => ?_, soiled,
      fun blocking => ?_⟩
    · rw [joined, List.mem_append, List.mem_singleton]
      rcases List.mem_cons.mp member with rfl | earlier
      · exact .inr rfl
      · have waited := effects.honours.waited attends.fenced (attends.owes other earlier) waits
        exact .inl (attends.waits other earlier waited)
    · rw [joined, List.mem_append, List.mem_singleton] at member
      rcases member with before | rfl
      · exact List.mem_cons_of_mem _ (attends.known before)
      · exact List.mem_cons_self
    · cases gated.symm.trans (strategy.symm.trans blocking)
  · refine ⟨fenced, owes, fun other member waits => ?_, ?_, soiled, fun _ => landed⟩
    · exact absurd (of_decide_eq_true waits) ((owes other member).status fenced idle)
    · rw [landed]
      exact List.nil_subset _

end Attends

end Engine

/-! ## The law -/

namespace Entry

def fence? : Entry → Option Fence
  | .submitted _ fence => some fence
  | _ => none

/-- The fences of the submissions in a diary. -/
def fences (diary : List Entry) : List Fence := diary.filterMap fence?

/-- Something was submitted since a cleanup last released. -/
def owed : List Entry → Bool
  | [] => false
  | .submitted .. :: _ => true
  | .released :: _ => false
  | .dropped _ :: rest => owed rest

end Entry

namespace Engine

theorem Attends.deed {diary : List Entry} {entry : Option Entry}
    (attends : Attends (Entry.fences diary) (Entry.owed diary) engine)
    (deed : engine.Deed entry after) :
    Attends (Entry.fences (entry.toList ++ diary)) (Entry.owed (entry.toList ++ diary)) after := by
  cases deed with
  | acted path => exact attends.acts path
  | gaveUp idle rest label =>
      have kept := (attends.acts idle).takeNumber.acts rest
      rcases label with rfl | rfl <;> exact kept
  | submitted framesDrawn idle rest opened submitted =>
      have joined := ((attends.acts idle).takeNumber.acts rest).submit opened submitted
      exact ⟨joined.fenced, joined.owes, joined.waits, joined.known, joined.cleaned,
        joined.blocking⟩
  | released ready rest => exact (attends.acts ready).setCleaned.acts rest

/-- An engine attends to the fences of its own submissions. -/
theorem attends_told : Told Device.Fenced fun diary engine =>
    Attends (Entry.fences diary) (Entry.owed diary) engine where
  created := fun fenced created => by
    obtain ⟨-, rfl⟩ := create_eq created
    exact ⟨fenced, nofun, nofun, List.nil_subset _, rfl, fun _ => rfl⟩
  operated := fun attends operated => attends.deed (operate_deed operated)
  meddled := fun attends meddled => attends.keep meddled.honours rfl rfl rfl

/-! ### One cleanup -/

/-- A cleanup that finds nothing to release says so. -/
theorem cleanup_again (cleaned : engine.progress.cleaned = true) : engine.cleanup.1 = false := by
  cases strategy : engine.strategy with
  | fenceGated =>
      have polled : engine.poll.progress.cleaned = true := cleaned
      rw [cleanup_gated strategy, polled]
      rfl
  | blockingFinish =>
      rw [cleanup_blocking strategy, if_pos cleaned]

theorem cleanup_gated_iff (gated : engine.strategy = .fenceGated) :
    engine.cleanup.1 = true ↔ engine.progress.cleaned = false ∧
      ∀ fence ∈ engine.progress.flying, engine.device.fences.isPending fence = false := by
  have settled : engine.poll.progress.lastFence.isSome = false ↔
      ∀ fence ∈ engine.progress.flying, engine.device.fences.isPending fence = false := by
    have polled : engine.poll.progress.inFlight = engine.progress.inFlight.dropWhile
        fun entry => !engine.device.fences.isPending entry.2 := rfl
    rw [Progress.flying, List.forall_mem_map]
    simp [Progress.lastFence, polled]
  have same : engine.poll.progress.cleaned = engine.progress.cleaned := rfl
  rw [cleanup_gated gated, same, ← settled]
  cases engine.progress.cleaned <;> cases engine.poll.progress.lastFence.isSome <;> simp

theorem cleanup_blocking_iff (blocking : engine.strategy = .blockingFinish)
    (idle : engine.progress.isIdle = true) :
    engine.cleanup.1 = true ↔ engine.progress.cleaned = false := by
  rw [cleanup_blocking blocking, if_pos idle]
  cases engine.progress.cleaned <;> simp

theorem Attends.cleanup_iff {fences : List Fence} {owed : Bool}
    (attends : Attends fences owed engine) (closed : engine.progress.recording = none) :
    engine.cleanup.1 = true ↔
      owed = true ∧ ∀ fence ∈ fences, engine.device.fences.isPending fence = false := by
  have settled : (∀ fence ∈ engine.progress.flying,
        engine.device.fences.isPending fence = false) ↔
      ∀ fence ∈ fences, engine.device.fences.isPending fence = false := by
    refine ⟨fun settled fence member => ?_, fun settled fence flies =>
      settled fence (attends.known flies)⟩
    by_contra waits
    exact waits (settled fence (attends.waits fence member (by simpa using waits)))
  have soiled : engine.progress.cleaned = false ↔ owed = true := by
    rw [attends.cleaned]
    cases owed <;> simp
  cases strategy : engine.strategy with
  | fenceGated => rw [cleanup_gated_iff strategy, soiled, settled]
  | blockingFinish =>
      have landed := attends.blocking strategy
      have idle : engine.progress.isIdle = true := by
        have none_ : engine.progress.inFlight = [] := List.map_eq_nil_iff.mp landed
        simp [Progress.isIdle, closed, none_]
      rw [cleanup_blocking_iff strategy idle, soiled, ← settled, landed]
      simp

theorem Attends.cleanup_once {diary : List Entry}
    (attends : Attends (Entry.fences diary) (Entry.owed diary) engine)
    (released : engine.cleanup.1 = true) : engine.cleanup.2.cleanup.1 = false := by
  have deed := engine.cleanup_deed
  rw [released] at deed
  exact cleanup_again (attends.deed deed).cleaned

end Engine

/-! ### Cleanups in a session -/

namespace Entry

theorem owed_append_released {noted diary : List Entry}
    (owes : owed (noted ++ .released :: diary) = true) :
    ∃ frame fence, .submitted frame fence ∈ noted := by
  induction noted with
  | nil => cases owes
  | cons entry rest ih =>
      cases entry with
      | submitted frame fence => exact ⟨frame, fence, List.mem_cons_self⟩
      | released => cases owes
      | dropped number =>
          obtain ⟨frame, fence, member⟩ := ih owes
          exact ⟨frame, fence, List.mem_cons_of_mem _ member⟩

/-- Frames that were dropped change nothing for a cleanup. -/
theorem dropped_append {noted diary : List Entry}
    (dropped : ∀ entry ∈ noted, ∃ frame, entry = .dropped frame) :
    owed (noted ++ diary) = owed diary ∧ fences (noted ++ diary) = fences diary := by
  induction noted with
  | nil => exact ⟨rfl, rfl⟩
  | cons entry rest ih =>
      obtain ⟨frame, rfl⟩ := dropped entry List.mem_cons_self
      exact ih fun entry member => dropped entry (List.mem_cons_of_mem _ member)

end Entry

namespace Session

/-- What the law says of the engine that is there after `incidents`. -/
structure CleansUp (session : Session) (incidents : List Incident) (engine : Engine) : Prop where
  law : engine.cleanup.1 = true ↔ Entry.owed (session.diary incidents) = true ∧
    ∀ fence ∈ Entry.fences (session.diary incidents), engine.device.fences.isPending fence = false
  /-- There is nothing to release twice. -/
  once : engine.cleanup.1 = true → engine.cleanup.2.cleanup.1 = false
  /-- Something was submitted since any earlier cleanup of the engine that released. -/
  alternates : ∀ earlier between before, incidents = (earlier ++ [.act .cleanup]) ++ between →
    (∀ incident ∈ between, incident.replacesEngine = false) →
    (session.endure earlier).engine? = some before → before.cleanup.1 = true →
    engine.cleanup.1 = true →
    ∃ frame fence, .submitted frame fence ∈
      (session.endure (earlier ++ [.act .cleanup])).diary between
  /-- What submits and releases nothing makes no difference but for the fences that settle. -/
  unaffected : ∀ earlier between, incidents = earlier ++ between →
    (∀ incident ∈ between, incident.replacesEngine = false) →
    (∀ entry ∈ (session.endure earlier).diary between, ∃ frame, entry = .dropped frame) →
    (engine.cleanup.1 = true ↔ Entry.owed (session.diary earlier) = true ∧
      ∀ fence ∈ Entry.fences (session.diary earlier), engine.device.fences.isPending fence = false)

theorem diary_cleanup {session : Session} {engine : Engine}
    (occupied : session.engine? = some engine) (released : engine.cleanup.1 = true) :
    session.diary [.act .cleanup] = [.released] := by
  have stepped : session.step .cleanup = (.flag true, session.setEngine engine.cleanup.2) := by
    rw [← released]
    simp only [step, script, occupied, operate]
  rw [diary, diaryFrom, diaryFrom, jot, stepped]
  rfl

/-- In every reachable state, also in the company of other users of the device, a cleanup of a living
engine says that it released something just if there was a submission since it last said so, and no
submission waits for its fence. -/
theorem cleanup_told (options : DeviceOptions) (capabilities : Capabilities) (order : ReleaseOrder)
    (incidents : List Incident) :
    ∀ engine ∈ ((new (.new options) capabilities order).endure incidents).engine?,
      engine.lost = false → (new (.new options) capabilities order).CleansUp incidents engine := by
  intro engine reached alive
  have closed := (Engine.settled_enduring.endure_new incidents reached).closed alive
  have attends := Engine.attends_told.endure_new Device.fenced_lasting (.new options) incidents
    reached
  have law := attends.cleanup_iff closed
  refine ⟨law, attends.cleanup_once, fun earlier between before split same occupied first second =>
    ?_, fun earlier between split same dropped => ?_⟩
  · have owes := (law.mp second).1
    have noted := diary_append (new (.new options) capabilities order) earlier [.act .cleanup]
      (by simp [Incident.replacesEngine, Action.replacesEngine])
    rw [split, diary_append _ _ _ same, noted, diary_cleanup occupied first] at owes
    exact Entry.owed_append_released owes
  · rw [split, diary_append _ _ _ same] at law
    obtain ⟨owed, fences⟩ := Entry.dropped_append dropped
    rw [owed, fences] at law
    exact law

/-- A submission, a frame that fails after it, and a switch of the context. -/
private def drainedBySwitch : List Incident :=
  [.act (.start { EngineOptions.standard with enableSecure := true }), .act .flush,
    .meddle .normal ⟨1⟩, .act .cleanup, .act (.rejectImports ⟨9⟩),
    .act (.draw ⟨.ofSize 64 64, [], .plain ⟨9⟩ 64 64, true, none⟩), .act (.setProtected true)]

/-- The switch of the context drained the device, so the cleanup that follows has its answer. -/
theorem cleanup_told_after_switch :
    ∃ engine ∈ ((new (.new ⟨true, true, false, 4096⟩) DeviceOptions.standard.capabilities
        .byArrival).endure drainedBySwitch).engine?,
      engine.lost = false ∧ engine.cleanup.1 = true ∧
        (new (.new ⟨true, true, false, 4096⟩) DeviceOptions.standard.capabilities
          .byArrival).CleansUp drainedBySwitch engine := by
  have answered : ((new (.new ⟨true, true, false, 4096⟩) DeviceOptions.standard.capabilities
      .byArrival).endure drainedBySwitch).engine?.any (fun engine =>
        !engine.lost && engine.cleanup.1) = true := by decide
  obtain ⟨engine, reached, facts⟩ := (Option.any_eq_true _ _).mp answered
  simp only [Bool.and_eq_true, Bool.not_eq_true'] at facts
  obtain ⟨alive, told⟩ := facts
  exact ⟨engine, reached, alive, told,
    cleanup_told ⟨true, true, false, 4096⟩ DeviceOptions.standard.capabilities .byArrival
      drainedBySwitch engine reached alive⟩

end Session

end Compositor
