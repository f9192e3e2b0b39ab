import Compositor.Proofs.Endings
import Compositor.Proofs.Shutdown

/-!
# The ledger of an engine

Every call for a frame and every flush that succeeds is one submission. The ledger of a run lists
the submissions of the engine that is there at its end, oldest first. An engine is booked by it: what
it takes for unfinished stands in the ledger, no number in the ledger exceeds those handed out, and
the numbers are in order.
-/

set_option autoImplicit false

namespace Compositor

variable {engine : Engine} {recorded : List ImageHandle}

theorem Progress.drained_inFlight (progress : Progress) (frame : FrameSeq) :
    (progress.submitted frame none).inFlight = [] := by
  unfold submitted
  split <;> rfl

/-! ## Operations that submit nothing -/

namespace Engine.Carries

theorem bindTexture (engine : Engine) (buffer : Buffer) :
    Carries engine (engine.bindTexture buffer).2 :=
  .of_keeps ⟨rfl, rfl, rfl, rfl⟩

theorem bind (engine : Engine) (buffer : Buffer) : Carries engine (engine.bind buffer).2 := by
  unfold Engine.bind
  split
  · exact .refl engine
  · have bound := (Carries.poll engine).trans (.bindTexture engine.poll buffer)
    cases outcome : engine.poll.bindTexture buffer with
    | mk result after =>
        rw [outcome] at bound
        cases result with
        | ok handle => exact bound
        | error cause => exact bound.noteFailure cause.isFatal

theorem unbind (engine : Engine) (buffer : BufferId) : Carries engine (engine.unbind buffer) :=
  (Carries.poll engine).trans (.of_keeps ⟨rfl, rfl, rfl, rfl⟩)

theorem invalidate (engine : Engine) (buffer : BufferId) :
    Carries engine (engine.invalidate buffer) :=
  (Carries.poll engine).trans (.of_keeps ⟨rfl, rfl, rfl, rfl⟩)

theorem finish (engine : Engine) : Carries engine engine.finish.2 := by
  unfold Engine.finish
  split
  · exact .refl engine
  · cases engine.device.finish with
    | mk drained device =>
        cases drained with
        | false => exact ⟨rfl, rfl, Nat.le_refl _, List.Subset.refl _⟩
        | true => exact .idle rfl rfl rfl

theorem cleanup (engine : Engine) : Carries engine engine.cleanup.2 := by
  have cleaned := engine.strategy.cleanup_cleaned engine.device engine.progress
  unfold Engine.cleanup
  generalize engine.strategy.cleanup engine.device engine.progress = result at cleaned
  cases cleaned with
  | polled => exact .ofProgress rfl rfl rfl (List.dropWhile_suffix _).subset
  | kept | failed => exact .ofProgress rfl rfl rfl (List.Subset.refl _)
  | drained => exact .ofProgress rfl rfl rfl (List.nil_subset _)

end Engine.Carries

namespace ImageRequests

private theorem applies_carries (engine : Engine) (request : ImageRequest) (after : Engine)
    (carries : engine.Carries after) : engine.Carries (request.apply after).2 := by
  cases request with
  | cache buffer => exact carries.trans (.bind after buffer)
  | unbind buffer => exact carries.trans (.unbind after buffer)

theorem serve_carries (requests : ImageRequests) (engine : Engine) :
    engine.Carries (requests.serve engine).2 :=
  serve_keeps (applies_carries engine) requests (.refl engine)

theorem await_carries (requests : ImageRequests) (ticket : Ticket) (engine : Engine) :
    engine.Carries (requests.await ticket engine).2.2 :=
  await_keeps (applies_carries engine) requests ticket (.refl engine)

end ImageRequests

/-! ## What operations submit -/

/-- The submission that an outcome tells of. A flush does not name its number, which is the latest
one that the engine has handed out. -/
def Outcome.submission? (outcome : Outcome) (after : Engine) : Option TracedFrame :=
  match outcome with
  | .frame (.ok output) => some ⟨output.fence, output.status.frame⟩
  | .flushed (.ok given) => some ⟨given, after.progress.lastIssued⟩
  | _ => none

namespace Engine

/-- What an operation means for the book-keeping of submissions. -/
inductive Books (before : Engine) : Option TracedFrame → Engine → Prop where
  | carried {after : Engine} : before.Carries after → Books before none after
  | watched (elapsed : Nat) : Books before none (before.watchTracer elapsed)
  /-- The number of a submission is a new one, unless numbers have run out. -/
  | submitted {ready after : Engine} {fence : Fence} {frame : FrameSeq} (framesDrawn : Nat) :
      before.Carries ready → ready.progress.recording = some frame →
      frame = ready.progress.lastIssued →
      before.progress.lastIssued < frame ∨ frame = FrameSeq.last →
      ready.Submitted frame (.ok fence, after) →
      Books before (some ⟨fence, frame⟩) { after with framesDrawn }

/-- The next number exceeds all earlier ones, or it is the largest number. -/
private theorem next_advances {issued latest last : Nat} (later : issued ≤ latest) :
    issued < min (latest + 1) last ∨ min (latest + 1) last = last := by
  omega

theorem Carries.advances {later : Engine} (carries : engine.Carries later) :
    engine.progress.lastIssued < later.progress.begin.lastIssued ∨
      later.progress.begin.lastIssued = FrameSeq.last :=
  next_advances carries.issued

theorem draw_books (rested : Moment.Rested ⟨engine, [], recorded⟩) (request : FrameRequest) :
    engine.Books (Outcome.submission? (.frame (engine.draw request).1) (engine.draw request).2)
      (engine.draw request).2 := by
  have drawn := draw_drawn rested request
  have waited : engine.Carries (engine.waited request) :=
    .of_keeps (.awaitAny engine request.inputFence)
  generalize engine.draw request = result at drawn
  cases drawn with
  | lost carries => exact .carried carries
  | late | unavailable => exact .carried waited
  | @composed ready _ same alive rested ended =>
      have switched : engine.Carries ready := by
        rw [same]
        exact waited.trans (.switchTo _ request.mode)
      have bounded : ready.progress.lastIssued ≤ FrameSeq.last := rested.paced.progress.issued
      have begun : engine.Carries ready.begun := switched.trans (.begun ready bounded)
      cases ended with
      | lost carries => exact .carried (begun.trans carries)
      | refused _ keeps =>
          have kept := begun.trans (.of_keeps keeps)
          exact .carried ⟨kept.strategy, kept.tracer, kept.issued, kept.inFlight⟩
      | @submitted last after output keeps submitted numbered =>
          have open_ : last.progress.recording = some ready.begun.progress.lastIssued := by
            rw [keeps.progress]
            rfl
          have latest : ready.begun.progress.lastIssued = last.progress.lastIssued := by
            rw [keeps.progress]
          have advances : engine.progress.lastIssued < ready.begun.progress.lastIssued ∨
              ready.begun.progress.lastIssued = FrameSeq.last :=
            (switched.trans (.poll ready)).advances
          simp only [Outcome.submission?, numbered]
          exact .submitted _ (begun.trans (.of_keeps keeps)) open_ latest advances submitted

theorem Submitted.issued {ready after : Engine} {frame : FrameSeq} {fence : Fence}
    (submitted : ready.Submitted frame (.ok fence, after)) :
    after.progress.lastIssued = ready.progress.lastIssued := by
  cases submitted with
  | fenced => exact Progress.submitted_lastIssued ready.progress frame _
  | drained => exact Progress.submitted_lastIssued ready.progress.markIdle frame none

theorem Books.strategy {submission : Option TracedFrame} {after : Engine}
    (books : engine.Books submission after) : after.strategy = engine.strategy := by
  cases books with
  | carried carries => exact carries.strategy
  | watched => rfl
  | submitted _ carries _ _ _ submitted =>
      cases submitted with
      | fenced | drained => exact carries.strategy

theorem flush_books (rested : Moment.Rested ⟨engine, [], recorded⟩) :
    engine.Books (Outcome.submission? (.flushed engine.flush.1) engine.flush.2)
      engine.flush.2 := by
  unfold flush
  split
  · exact .carried (.refl engine)
  · have bounded : engine.progress.lastIssued ≤ FrameSeq.last := rested.paced.progress.issued
    have advances := (Carries.refl engine).advances
    have begun : engine.Carries { engine with progress := engine.progress.begin } :=
      ⟨rfl, rfl, Progress.issued_le_begin bounded, List.Subset.refl _⟩
    have submitted := submit_submitted { engine with progress := engine.progress.begin }
      engine.progress.begin.lastIssued
    dsimp only
    generalize ({ engine with progress := engine.progress.begin } : Engine).submit
      engine.progress.begin.lastIssued = result at submitted
    obtain ⟨result, after⟩ := result
    cases result with
    | error error =>
        cases submitted with
        | lost => exact .carried ⟨begun.strategy, begun.tracer, begun.issued, begun.inFlight⟩
    | ok fence =>
        have issued : after.progress.lastIssued = engine.progress.begin.lastIssued :=
          submitted.issued
        simp only [Outcome.submission?, issued]
        exact .submitted after.framesDrawn begun rfl rfl advances submitted

end Engine

namespace Session

theorem operate_books {after : Engine} {action : Action} {outcome : Outcome}
    (operated : operate engine action = some (outcome, after))
    (rested : Moment.Rested ⟨engine, [], recorded⟩) :
    engine.Books (outcome.submission? after) after := by
  cases action with
  | draw request =>
      cases operated
      exact Engine.draw_books rested request
  | flush =>
      cases operated
      exact Engine.flush_books rested
  | bind buffer =>
      cases operated
      exact .carried (.bind engine buffer)
  | unbind buffer =>
      cases operated
      exact .carried (.unbind engine buffer)
  | invalidate buffer =>
      cases operated
      exact .carried (.invalidate engine buffer)
  | setProtected wantsSecure =>
      cases operated
      exact .carried (.switchTo engine _)
  | finish =>
      cases operated
      exact .carried (.finish engine)
  | cleanup =>
      cases operated
      exact .carried (.cleanup engine)
  | await fence =>
      cases operated
      exact .carried (.of_keeps (.awaitAny engine (some fence)))
  | watchTracer elapsed =>
      cases operated
      exact .watched elapsed
  | _ => cases operated

end Session

/-! ## The ledger -/

/-- Holds for the actions that end the engine there is. -/
def Action.replacesEngine : Action → Bool
  | .start _ | .stop => true
  | _ => false

namespace Session

/-- The submission that the latest outcome tells of. -/
def submission? (after : Session) (outcome : Outcome) : Option TracedFrame :=
  after.engine?.bind outcome.submission?

/-- The ledger after one action. An engine that goes takes its ledger with it. -/
def book (session : Session) (ledger : List TracedFrame) (action : Action) : List TracedFrame :=
  if action.replacesEngine then []
  else
    let (outcome, after) := session.step action
    ledger ++ (after.submission? outcome).toList

def ledgerFrom (session : Session) (ledger : List TracedFrame) : List Action → List TracedFrame
  | [] => ledger
  | action :: rest =>
      (session.step action).2.ledgerFrom (session.book ledger action) rest

/-- The submissions, oldest first, of the engine that there is after a run. -/
def ledger (session : Session) (actions : List Action) : List TracedFrame :=
  session.ledgerFrom [] actions

/-- After one action, an engine is new, or it did what its book-keeping tells of. -/
inductive Kept (session : Session) (action : Action) (after : Engine) : Prop where
  | created {device : Device} {capabilities : Capabilities} {options : EngineOptions}
      {order : ReleaseOrder} : action.replacesEngine = true →
      Engine.create device capabilities options order = .ok after → Kept session action after
  | worked {before : Engine} : action.replacesEngine = false → session.engine? = some before →
      before.Books ((session.step action).2.submission? (session.step action).1) after →
      Kept session action after

theorem scripted_silent {session : Session} {action : Action} {result : Outcome × Session}
    (scripted : session.script action = some result) (after : Engine) :
    result.1.submission? after = none := by
  cases action with
  | createFence | settleFence | signalNext | signalAll | rejectImports | allowImports | lose
  | scheduleLoss =>
      cases scripted
      rfl
  | _ => cases scripted

theorem request_books (session : Session) {before after : Engine} (action : Action)
    (occupied : session.engine? = some before)
    (later : (session.request before action).2.engine? = some after) :
    before.Carries after ∧ (session.request before action).1.submission? after = none := by
  cases action with
  | serve =>
      cases later
      exact ⟨session.requests.serve_carries before, rfl⟩
  | collect ticket =>
      cases later
      exact ⟨session.requests.await_carries ticket before, rfl⟩
  | _ =>
      cases occupied.symm.trans later
      exact ⟨.refl before, rfl⟩

theorem replaced_created {session : Session} {action : Action} {after : Engine}
    (replaces : action.replacesEngine = true)
    (later : (session.step action).2.engine? = some after) : session.Kept action after := by
  cases action with
  | start options =>
      have later : (session.stop.start options).2.engine? = some after := later
      unfold start at later
      cases created : Engine.create session.stop.device session.stop.capabilities options
          session.stop.order with
      | error error =>
          rw [created] at later
          dsimp only at later
          rw [engine?, session.stop_turn.2] at later
          cases later
      | ok engine =>
          rw [created] at later
          cases later
          exact .created rfl created
  | stop =>
      have later : session.stop.engine? = some after := later
      rw [engine?, session.stop_turn.2] at later
      cases later
  | _ => cases replaces

theorem step_kept {session : Session} (sound : session.Sound) {action : Action} {after : Engine}
    (later : (session.step action).2.engine? = some after) : session.Kept action after := by
  have silent : (session.step action).2.submission? (session.step action).1 =
      (session.step action).1.submission? after := by
    rw [submission?, later, Option.bind_some]
  have stepped := session.step_stepped action
  cases replaces : action.replacesEngine with
  | true => exact replaced_created replaces later
  | false =>
      generalize same : session.step action = result at stepped later silent
      cases stepped with
      | started | stopped => cases replaces
      | scripted scripted =>
          have nothing := scripted_silent scripted after
          obtain ⟨device, changed⟩ := script_eq scripted
          rw [changed, setDevice_engine?] at later
          obtain ⟨before, occupied, rfl⟩ := Option.map_eq_some_iff.mp later
          refine .worked replaces occupied ?_
          rw [same, silent, nothing]
          exact .carried ⟨rfl, rfl, Nat.le_refl _, List.Subset.refl _⟩
      | absent vacant => cases vacant.symm.trans later
      | operated occupied operated =>
          obtain ⟨_, rested⟩ := sound.rested occupied
          have books := operate_books operated rested
          cases later
          refine .worked replaces occupied ?_
          rw [same, silent]
          exact books
      | requested occupied =>
          obtain ⟨carries, nothing⟩ := session.request_books action occupied later
          refine .worked replaces occupied ?_
          rw [same, silent, nothing]
          exact .carried carries

/-- What holds of a new engine with an empty ledger, and is kept by every operation with what it
adds to the ledger, holds along every run. -/
theorem run_booked {holds : Engine → List TracedFrame → Prop}
    (created : ∀ {device capabilities options order engine},
      Engine.create device capabilities options order = .ok engine → holds engine [])
    (kept : ∀ {before after submission ledger}, before.Books submission after →
      holds before ledger → holds after (ledger ++ submission.toList))
    {session : Session} (sound : session.Sound) {ledger : List TracedFrame}
    (start : ∀ engine ∈ session.engine?, holds engine ledger) (actions : List Action) :
    ∀ engine ∈ (session.run actions).2.engine?,
      holds engine (session.ledgerFrom ledger actions) := by
  induction actions generalizing session ledger with
  | nil => exact start
  | cons action rest ih =>
      rw [run_cons]
      refine ih (step_sound session action sound) fun engine later => ?_
      cases step_kept sound later with
      | created replaces isNew =>
          rw [book, if_pos replaces]
          exact created isNew
      | worked keeps occupied books =>
          rw [book, if_neg (by simp [keeps])]
          exact kept books (start _ occupied)

end Session

/-! ## What a ledger tells -/

namespace Engine

/-- The book-keeping of an engine is in accord with its ledger. -/
structure Booked (engine : Engine) (ledger : List TracedFrame) : Prop where
  inFlight : ∀ entry ∈ engine.progress.inFlight, ⟨entry.2, entry.1⟩ ∈ ledger
  issued : ∀ entry ∈ ledger, entry.frame ≤ engine.progress.lastIssued
  ordered : ledger.Pairwise fun left right => left.frame ≤ right.frame
  /-- As long as numbers suffice, each submission has its own. -/
  increasing : engine.HasNumbers → ledger.Pairwise fun left right => left.frame < right.frame

namespace Booked

variable {ledger : List TracedFrame}

theorem created {device : Device} {capabilities : Capabilities} {options : EngineOptions}
    {order : ReleaseOrder} (isNew : create device capabilities options order = .ok engine) :
    engine.Booked [] := by
  have progress := (create_fresh isNew).progress
  exact ⟨by simp [progress, Progress.initial], by simp, .nil, fun _ => .nil⟩

theorem carried {after : Engine} (booked : engine.Booked ledger) (carries : engine.Carries after) :
    after.Booked ledger where
  inFlight := fun entry member => booked.inFlight entry (carries.inFlight member)
  issued := fun entry member => Nat.le_trans (booked.issued entry member) carries.issued
  ordered := booked.ordered
  increasing := fun numbers => booked.increasing (Nat.lt_of_le_of_lt carries.issued numbers)

theorem submitted {ready after : Engine} {fence : Fence} {frame : FrameSeq}
    (booked : engine.Booked ledger) (carries : engine.Carries ready)
    (recording : ready.progress.recording = some frame)
    (latest : frame = ready.progress.lastIssued)
    (advances : engine.progress.lastIssued < frame ∨ frame = FrameSeq.last)
    (submitted : ready.Submitted frame (.ok fence, after)) :
    after.Booked (ledger ++ [⟨fence, frame⟩]) := by
  have issued : after.progress.lastIssued = frame := submitted.issued.trans latest.symm
  have kept := booked.carried carries
  have earlier : ∀ entry ∈ ledger, entry.frame ≤ frame := by
    intro entry member
    rw [latest]
    exact kept.issued entry member
  refine ⟨fun entry member => ?_, fun entry member => ?_, ?_, fun numbers => ?_⟩
  · cases submitted with
    | fenced =>
        have flying : entry ∈ ready.progress.inFlight ++ [(frame, fence)] := by
          rw [← Progress.submitted_inFlight recording fence]
          exact member
        rcases List.mem_append.mp flying with before | new
        · exact List.mem_append_left _ (kept.inFlight entry before)
        · rw [List.mem_singleton.mp new]
          exact List.mem_append_right _ (List.mem_singleton.mpr rfl)
    | drained =>
        have none_ : entry ∈ ([] : List (FrameSeq × Fence)) := by
          rw [← Progress.drained_inFlight ready.progress.markIdle frame]
          exact member
        cases none_
  · rw [issued]
    rcases List.mem_append.mp member with before | new
    · exact earlier entry before
    · cases List.mem_singleton.mp new
      exact Nat.le_refl _
  · refine List.pairwise_append.mpr ⟨booked.ordered, List.pairwise_singleton _ _, ?_⟩
    intro entry before new member
    rw [List.mem_singleton.mp member]
    exact earlier entry before
  · have fresh : engine.progress.lastIssued < frame := by
      refine advances.resolve_right fun full => ?_
      rw [HasNumbers, issued, full] at numbers
      exact Nat.lt_irrefl _ numbers
    have room : engine.HasNumbers := by
      rw [HasNumbers, issued] at numbers
      exact Nat.lt_trans fresh numbers
    refine List.pairwise_append.mpr ⟨booked.increasing room, List.pairwise_singleton _ _, ?_⟩
    intro entry before new member
    rw [List.mem_singleton.mp member]
    exact Nat.lt_of_le_of_lt (booked.issued entry before) fresh

theorem kept {after : Engine} {submission : Option TracedFrame}
    (books : engine.Books submission after) (booked : engine.Booked ledger) :
    after.Booked (ledger ++ submission.toList) := by
  cases books with
  | carried carries =>
      rw [Option.toList_none, List.append_nil]
      exact booked.carried carries
  | watched elapsed =>
      rw [Option.toList_none, List.append_nil]
      exact ⟨booked.inFlight, booked.issued, booked.ordered, booked.increasing⟩
  | submitted _ carries recording latest advances submitted =>
      have done := booked.submitted carries recording latest advances submitted
      exact ⟨done.inFlight, done.issued, done.ordered, done.increasing⟩

end Booked

end Engine

namespace Session

theorem ledger_booked {session : Session} (sound : session.Sound)
    (vacant : session.engine? = none) (actions : List Action) :
    ∀ engine ∈ (session.run actions).2.engine?, engine.Booked (session.ledger actions) := by
  refine run_booked Engine.Booked.created Engine.Booked.kept sound ?_ actions
  intro engine occupied
  cases vacant.symm.trans occupied

theorem submission?_given {after : Session} {outcome : Outcome} {entry : TracedFrame}
    (submits : after.submission? outcome = some entry) : outcome.given? = some entry.fence := by
  obtain ⟨engine, -, told⟩ := Option.bind_eq_some_iff.mp submits
  unfold Outcome.submission? at told
  split at told <;> cases told <;> rfl

end Session

end Compositor
