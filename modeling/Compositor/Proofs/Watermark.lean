import Compositor.Proofs.Device.Pending
import Compositor.Proofs.Ledger
import Compositor.Proofs.Settlement

/-!
# The queue of an engine and its device

The engine learns of completion by polling fences, so its queue of submissions in flight may lag
behind the device, but never the other way round: the pending fences of the device are the last ones
of that queue, and all before them have settled. A submission stays in the queue, under its own
number, as long as its fence waits.
-/

set_option autoImplicit false

namespace Compositor

variable {engine : Engine}

namespace Progress

def flying (progress : Progress) : List Fence := progress.inFlight.map Prod.snd

theorem flying_submitted {progress : Progress} {frame : FrameSeq}
    (recorded : progress.recording = some frame) (fence : Fence) :
    (progress.submitted frame (some fence)).flying = progress.flying ++ [fence] := by
  rw [flying, submitted_inFlight recorded, List.map_append]
  rfl

theorem flying_drained (progress : Progress) (frame : FrameSeq) :
    (progress.submitted frame none).flying = [] := by
  rw [flying, drained_inFlight]
  rfl

/-- A poll stops at the first pending fence, which all settled ones precede. -/
theorem flying_poll {progress : Progress} {fences : Fences} {settled waiting : List Fence}
    (split : progress.flying = settled ++ waiting)
    (done : ∀ fence ∈ settled, fences.isPending fence = false)
    (waits : ∀ fence ∈ waiting, fences.isPending fence = true) :
    (progress.poll fences).flying = waiting := by
  have polled : (progress.poll fences).flying =
      progress.flying.dropWhile fun fence => !fences.isPending fence := by
    rw [flying, flying, List.dropWhile_map]
    rfl
  rw [polled, split, List.dropWhile_append_of_pos fun fence member => by rw [done fence member]; rfl]
  cases waiting with
  | nil => rfl
  | cons fence rest =>
      exact List.dropWhile_cons_of_neg (by rw [waits fence List.mem_cons_self]; exact nofun)

end Progress

/-! ## What every move keeps -/

namespace Engine

/-- The queue of an engine is in accord with its device. -/
structure Watched (engine : Engine) : Prop where
  fenced : engine.device.Fenced
  timely : engine.device.Timely
  /-- What waits on the device is in flight, behind submissions that have settled. -/
  covers : ∃ settled, engine.progress.flying = settled ++ engine.device.pending ∧
    ∀ fence ∈ settled, engine.device.Resolved fence
  distinct : engine.progress.flying.Nodup
  ordered : engine.HasNumbers → engine.progress.Ordered

namespace Watched

theorem made (watched : engine.Watched) {fence : Fence} (flies : fence ∈ engine.progress.flying) :
    engine.device.Made fence := by
  obtain ⟨settled, split, resolved⟩ := watched.covers
  rw [split] at flies
  rcases List.mem_append.mp flies with done | waits
  · exact (resolved fence done).made
  · exact watched.fenced.made waits

theorem onDevice (watched : engine.Watched) {device : Device}
    (effects : Device.Effects engine.device device) (drains : Device.Drains engine.device device) :
    ({ engine with device } : Engine).Watched := by
  obtain ⟨settled, split, resolved⟩ := watched.covers
  obtain ⟨done, front, settles⟩ := drains
  refine ⟨effects.fenced watched.fenced, watched.timely.effects effects,
    ⟨settled ++ done, ?_, fun fence member => ?_⟩, watched.distinct, watched.ordered⟩
  · rw [split, front, List.append_assoc]
  · rcases List.mem_append.mp member with before | now
    · exact effects.resolved (resolved fence before)
    · exact settles fence now

theorem onEffect (watched : engine.Watched) {device : Device}
    (effect : Device.Effect engine.device device) (same : device.pending = engine.device.pending) :
    ({ engine with device } : Engine).Watched :=
  watched.onDevice (.single effect) (.of_same same)

theorem onProgress (watched : engine.Watched) {after : Engine} (device : after.device = engine.device)
    (flying : after.progress.flying = engine.progress.flying)
    (ordered : after.HasNumbers → after.progress.Ordered) : after.Watched := by
  refine ⟨?_, ?_, ?_, ?_, ordered⟩
  · rw [device]
    exact watched.fenced
  · rw [device]
    exact watched.timely
  · rw [device, flying]
    exact watched.covers
  · rw [flying]
    exact watched.distinct

theorem onImages (watched : engine.Watched) {after : Engine} (device : after.device = engine.device)
    (progress : after.progress = engine.progress) : after.Watched := by
  refine watched.onProgress device (by rw [progress]) fun numbers => ?_
  rw [HasNumbers, progress] at numbers
  rw [progress]
  exact watched.ordered numbers

/-- Nothing waits and nothing is taken for unfinished. -/
theorem idle {after : Engine} (fenced : after.device.Fenced) (timely : after.device.Timely)
    (nothing : after.device.pending = []) (flying : after.progress.flying = [])
    (ordered : after.HasNumbers → after.progress.Ordered) : after.Watched := by
  refine ⟨fenced, timely, ⟨[], ?_, by simp⟩, ?_, ordered⟩
  · rw [flying, nothing]
    rfl
  · rw [flying]
    exact .nil

theorem poll_flying (watched : engine.Watched) :
    engine.poll.progress.flying = engine.device.pending := by
  obtain ⟨settled, split, resolved⟩ := watched.covers
  refine Progress.flying_poll split (fun fence member => ?_) fun fence waits => ?_
  · exact decide_eq_false (resolved fence member).status
  · exact watched.fenced.isPending waits

theorem poll (watched : engine.Watched) : engine.poll.Watched := by
  have flying := watched.poll_flying
  refine ⟨watched.fenced, watched.timely, ⟨[], flying, by simp⟩, ?_, fun numbers => ?_⟩
  · rw [flying]
    exact watched.fenced.nodup
  · exact (watched.ordered numbers).poll engine.device.fences

theorem submitFenced (watched : engine.Watched) {frame : FrameSeq} {fence : Fence} {device : Device}
    (recording : engine.progress.recording = some frame)
    (flushes : Device.Flushes engine.device (some fence) device) :
    ({ engine with device, progress := engine.progress.submitted frame (some fence) } :
      Engine).Watched := by
  have effect : Device.Effect engine.device device := .flush flushes
  obtain ⟨settled, split, resolved⟩ := watched.covers
  have unmade : ¬engine.device.Made fence := by
    cases flushes <;> exact engine.device.nextFence_unmade
  refine ⟨effect.fenced watched.fenced, watched.timely.effect effect, ?_, ?_, fun numbers => ?_⟩
  · rw [Progress.flying_submitted recording, split]
    cases flushes with
    | waiting =>
        exact ⟨settled, List.append_assoc _ _ _, fun fence member =>
          effect.resolved (resolved fence member)⟩
    | signaled usable signals =>
        -- On a device that signals at once, no older fence can stand behind the new one.
        have nothing : engine.device.pending = [] := watched.timely.immediate signals
        have joined := watched.fenced.join usable
        refine ⟨settled ++ [engine.device.nextFence], ?_, fun fence member => ?_⟩
        · simp only [Device.settle, Device.log, Device.opened, nothing, List.append_nil]
        · rcases List.mem_append.mp member with before | new
          · exact effect.resolved (resolved fence before)
          · exact joined.resolves (by decide) (List.subset_append_right _ _) fence new
  · rw [Progress.flying_submitted recording]
    refine List.nodup_append.mpr ⟨watched.distinct, List.nodup_singleton _, ?_⟩
    intro other flies new single same
    rw [same, List.mem_singleton.mp single] at flies
    exact unmade (watched.made flies)
  · rw [HasNumbers, Progress.submitted_lastIssued] at numbers
    exact (watched.ordered numbers).submitted recording (some fence)

end Watched

end Engine

/-- On a device that was drained, or is lost, nothing waits. -/
theorem Engine.Watched.pending_nil (watched : engine.Watched)
    (idle : engine.device.lost = true ∨ History.Drained engine.device.events) :
    engine.device.pending = [] :=
  idle.elim watched.fenced.idle watched.timely.drained

theorem Move.watched {before after : Moment} (move : Move before after) (paced : before.Paced)
    (watched : before.engine.Watched) : after.engine.Watched := by
  have effects := move.effects
  cases move with
  | device step => exact watched.onDevice effects (step.drains watched.fenced)
  | note =>
      refine watched.onProgress rfl rfl fun numbers => ?_
      have ordered := watched.ordered numbers
      exact ⟨ordered.completed, ordered.increasing, ordered.recording⟩
  | markLost => exact watched.onImages rfl rfl
  | poll => exact watched.poll
  | begin =>
      refine watched.onProgress rfl rfl fun numbers => ?_
      have room := Nat.lt_of_le_of_lt (Progress.issued_le_begin paced.progress.issued) numbers
      exact (watched.ordered room).begin paced.progress numbers
  | abandon =>
      exact watched.onProgress rfl rfl fun numbers => (watched.ordered numbers).abandon
  | idle idle =>
      exact .idle watched.fenced watched.timely (watched.pending_nil idle) rfl fun numbers =>
        (watched.ordered numbers).markIdle
  | shift => exact watched.onImages rfl rfl
  | mark => exact watched.onImages rfl rfl
  | issue => exact watched.onEffect .issue rfl
  | destroy =>
      exact watched.onEffect .destroy (Device.acceptDestroy_pending _ _ _)
  | handOver => exact watched.onEffect (.note rfl) rfl
  | bindTarget => exact watched.onEffect (.note rfl) rfl
  | draw => exact watched.onEffect (.note rfl) rfl
  | submitFenced recording flushes => exact watched.submitFenced recording flushes
  | submitDrained recording _ _ usable =>
      refine .idle (effects.fenced watched.fenced) (watched.timely.effects effects)
        (Device.acceptFinish_pending usable) (Progress.flying_drained _ _) fun numbers => ?_
      rw [Engine.HasNumbers, Progress.submitted_lastIssued] at numbers
      exact (watched.ordered numbers).markIdle.submitted recording none
  | @flushLost engine _ _ _ _ device flushes steps lost =>
      have nothing : device.pending = [] := (effects.fenced watched.fenced).idle lost
      obtain ⟨done, front, settled⟩ := steps.drains (watched.fenced.flush flushes)
      refine watched.onDevice effects ⟨engine.device.pending, ?_, fun fence waits => settled fence ?_⟩
      · rw [nothing, List.append_nil]
      · rw [nothing, List.append_nil] at front
        rw [← front]
        exact flushes.pending_subset waits
  | activate => exact watched.onImages rfl rfl

theorem Moves.watched {before after : Moment} (moves : Moves before after) (paced : before.Paced)
    (watched : before.engine.Watched) : after.engine.Watched := by
  induction moves with
  | refl => exact watched
  | tail path move ih => exact move.watched (Moves.paced path paced) ih

/-! ## Submissions stay in flight until they settle -/

/-- A fence in flight has settled, or it waits on the device. -/
theorem Engine.Watched.resolved (watched : engine.Watched) {fence : Fence}
    (flies : fence ∈ engine.progress.flying) (settled : fence ∉ engine.device.pending) :
    engine.device.Resolved fence := by
  obtain ⟨done, split, resolved⟩ := watched.covers
  rw [split] at flies
  exact resolved fence ((List.mem_append.mp flies).resolve_right settled)

theorem Move.flies {before after : Moment} (move : Move before after)
    (watched : before.engine.Watched) {entry : FrameSeq × Fence}
    (flies : entry ∈ before.engine.progress.inFlight)
    (waits : after.engine.device.fences.isPending entry.2 = true) :
    entry ∈ after.engine.progress.inFlight := by
  have flying : entry.2 ∈ before.engine.progress.flying := List.mem_map_of_mem flies
  have effects := move.effects
  have unresolved : ¬after.engine.device.Resolved entry.2 := fun resolved =>
    resolved.status (of_decide_eq_true waits)
  cases move with
  | @poll engine =>
      have stays : engine.device.fences.isPending entry.2 = true := waits
      exact mem_dropWhile flies (by simp [stays])
  | idle idle =>
      refine absurd (watched.resolved flying ?_) unresolved
      rw [watched.pending_nil idle]
      exact List.not_mem_nil
  | submitFenced recording flushes =>
      rw [Progress.submitted_inFlight recording]
      exact List.mem_append_left _ flies
  | @submitDrained engine _ _ _ _ _ ready _ flushes same usable =>
      refine absurd ?_ unresolved
      by_cases waited : entry.2 ∈ engine.device.pending
      · have readyFenced := (watched.fenced.flush flushes).quiet same
        have drained := readyFenced.acceptFinish_drains
        obtain ⟨done, front, settled⟩ := drained
        rw [Device.acceptFinish_pending usable, List.append_nil] at front
        refine settled entry.2 ?_
        rw [← front, same.pending]
        exact flushes.pending_subset waited
      · exact effects.resolved (watched.resolved flying waited)
  | _ => exact flies

/-- A submission whose fence waits at the end of a path was in flight all along. -/
theorem Moves.flies {before after : Moment} (moves : Moves before after) (paced : before.Paced)
    (watched : before.engine.Watched) {entry : FrameSeq × Fence}
    (flies : entry ∈ before.engine.progress.inFlight)
    (waits : after.engine.device.fences.isPending entry.2 = true) :
    entry ∈ after.engine.progress.inFlight := by
  induction moves with
  | refl => exact flies
  | @tail middle after path move ih =>
      have watchedMiddle := Moves.watched path paced watched
      have made : middle.engine.device.Made entry.2 :=
        (Moves.effects path).made (watched.made (List.mem_map_of_mem flies))
      have waited : middle.engine.device.fences.isPending entry.2 = true := by
        by_contra settled
        have resolved := move.effects.resolved (made.resolved (Bool.eq_false_iff.mpr settled))
        exact resolved.status (of_decide_eq_true waits)
      exact move.flies watchedMiddle (ih waited) waits

/-! ## Turns -/

namespace Tenancy

/-- An engine is watched, and nothing waits on a device without an engine. -/
inductive Watched : Tenancy → Prop where
  | vacant {device : Device} : device.Fenced → device.Timely → device.pending = [] →
      Watched (.vacant device)
  | occupied {engine : Engine} : engine.Watched → Watched (.occupied engine)

theorem Turn.watched {before after : Tenancy} (turn : Turn before after) (sound : before.Sound)
    (watched : before.Watched) : after.Watched := by
  cases turn with
  | alone steps =>
      cases watched with
      | vacant fenced timely nothing =>
          obtain ⟨done, front, -⟩ := steps.drains fenced
          rw [nothing] at front
          exact .vacant (steps.fenced fenced) (timely.effects (.ofSteps steps))
            (List.append_eq_nil_iff.mp front.symm).2
  | work reaches =>
      cases sound with
      | occupied rested =>
          cases watched with
          | occupied watched =>
              obtain ⟨_, moves, -⟩ := reaches _ rested
              exact .occupied (moves.watched rested.paced watched)
  | leave leaves =>
      cases sound with
      | occupied rested =>
          cases watched with
          | occupied watched =>
              obtain ⟨last, later, rfl, dismantled⟩ := leaves _ rested
              have final : last.Watched := dismantled.moves.watched rested.paced watched
              obtain ⟨settled, split, -⟩ := final.covers
              rw [Progress.flying, dismantled.inFlight] at split
              exact .vacant final.fenced final.timely (List.append_eq_nil_iff.mp split.symm).2
  | enter created =>
      cases watched with
      | vacant fenced timely nothing =>
          have fresh := Engine.create_fresh created
          refine .occupied (.idle ?_ ?_ ?_ ?_ fun _ => ?_)
          · rw [fresh.device]
            exact fenced
          · rw [fresh.device]
            exact timely
          · rw [fresh.device]
            exact nothing
          · rw [fresh.progress]
            rfl
          · rw [fresh.progress]
            exact .initial

end Tenancy

namespace Session

def Watched (session : Session) : Prop := session.tenancy.Watched

theorem new_watched (options : DeviceOptions) (capabilities : Capabilities)
    (order : ReleaseOrder) : (Session.new (.new options) capabilities order).Watched :=
  .vacant (.new options) (.new options) rfl

theorem step_watched {session : Session} (sound : session.Sound) (watched : session.Watched)
    (action : Action) : (session.step action).2.Watched := by
  rcases session.step_turn action with turn | ⟨device, leaving, turn⟩
  · exact turn.watched sound watched
  · exact turn.watched (leaving.sound sound) (leaving.watched sound watched)

theorem run_watched {session : Session} (sound : session.Sound) (watched : session.Watched)
    (actions : List Action) : (session.run actions).2.Watched := by
  have both := run_keeps
    (fun session action (holds : session.Sound ∧ session.Watched) =>
      ⟨session.step_sound action holds.1, step_watched holds.1 holds.2 action⟩)
    ⟨sound, watched⟩ actions
  exact both.2

theorem Watched.of_engine? {session : Session} (watched : session.Watched)
    (occupied : session.engine? = some engine) : engine.Watched := by
  unfold Watched at watched
  rw [tenancy_of_engine? occupied] at watched
  cases watched with
  | occupied watched => exact watched

/-- An action that leaves the engine in place is a path of the engine. -/
theorem step_works {session : Session} {action : Action} {before after : Engine}
    (keeps : action.replacesEngine = false) (occupied : session.engine? = some before)
    (later : (session.step action).2.engine? = some after) :
    Tenancy.Turn (.occupied before) (.occupied after) := by
  have stepped := session.step_stepped action
  generalize session.step action = result at stepped later
  have tenancy := tenancy_of_engine? occupied
  rw [← tenancy, ← tenancy_of_engine? later]
  cases stepped with
  | started | stopped => cases keeps
  | scripted scripted => exact script_turn scripted
  | absent vacant => cases vacant.symm.trans occupied
  | operated here operated =>
      rw [tenancy_of_engine? here]
      exact .work fun _ rested => operate_reaches operated rested
  | requested here => exact request_turn (tenancy_of_engine? here) action

end Session

/-! ## The ledger -/

namespace Engine

/-- Every submission whose fence waits is in flight under its own number. -/
def Enters (engine : Engine) (ledger : List TracedFrame) : Prop :=
  ∀ entry ∈ ledger, engine.device.Made entry.fence ∧
    (engine.device.fences.isPending entry.fence = true →
      (entry.frame, entry.fence) ∈ engine.progress.inFlight)

/-- A submission is in flight, or the device was drained for it. -/
theorem Books.enters {after : Engine} {entry : TracedFrame}
    (books : engine.Books (some entry) after) :
    (entry.frame, entry.fence) ∈ after.progress.inFlight ∨ after.progress.inFlight = [] := by
  cases books with
  | @submitted ready _ fence _ _ _ recording _ _ submitted =>
      cases submitted with
      | fenced =>
          refine .inl ?_
          have joined := Progress.submitted_inFlight recording fence
          simp only [trace, joined]
          exact List.mem_append_right _ (List.mem_singleton.mpr rfl)
      | drained => exact .inr (Progress.drained_inFlight _ _)

theorem Enters.moves {before after : Moment} {ledger : List TracedFrame}
    (entered : before.engine.Enters ledger) (moves : Moves before after) (paced : before.Paced)
    (watched : before.engine.Watched) : after.engine.Enters ledger := by
  intro entry member
  obtain ⟨made, flies⟩ := entered entry member
  refine ⟨moves.effects.made made, fun waits => ?_⟩
  have waited : before.engine.device.fences.isPending entry.fence = true := by
    by_contra settled
    have resolved := moves.effects.resolved (made.resolved (Bool.eq_false_iff.mpr settled))
    exact resolved.status (of_decide_eq_true waits)
  exact moves.flies paced watched (flies waited) waits

/-- Where nothing is in flight, every fence that was given has settled. -/
theorem Watched.settled (watched : engine.Watched) (idle : engine.progress.inFlight = [])
    {fence : Fence} (owes : engine.device.Owes fence) :
    engine.device.fences.isPending fence = false := by
  obtain ⟨settled, split, -⟩ := watched.covers
  rw [Progress.flying, idle] at split
  exact decide_eq_false (owes.status watched.fenced (List.append_eq_nil_iff.mp split.symm).2)

end Engine

/-- A fence that the device owes an answer for, or has answered, is its own. -/
theorem Device.Owes.made {device : Device} {fence : Fence} (owes : device.Owes fence)
    (fenced : device.Fenced) : device.Made fence := by
  rcases owes with ⟨used, since, submitted⟩ | ⟨_, settled⟩
  · rcases fenced.settled fence used since submitted with waits | ⟨outcome, told⟩
    · exact fenced.made waits
    · obtain ⟨earlier, split, -⟩ := submitted
      have known : History.Settled outcome fence device.events := by
        rw [split]
        exact told.within _
      exact HasSettled.made (fenced.told outcome fence known)
  · exact settled.made

namespace Session

theorem step_enters {session : Session} (sound : session.Sound) (watched : session.Watched)
    {ledger : List TracedFrame}
    (entered : ∀ engine ∈ session.engine?, engine.Enters ledger) (action : Action) :
    ∀ engine ∈ (session.step action).2.engine?, engine.Enters (session.book ledger action) := by
  intro after later entry member
  cases step_kept sound later with
  | created replaces =>
      rw [book, if_pos replaces] at member
      cases member
  | @worked before keeps occupied books =>
      rw [book, if_neg (by simp [keeps])] at member
      rcases List.mem_append.mp member with earlier | new
      · obtain ⟨_, rested⟩ := sound.rested occupied
        cases step_works keeps occupied later with
        | work reaches =>
            obtain ⟨_, moves, -⟩ := reaches _ rested
            exact (entered before occupied).moves moves rested.paced
              (watched.of_engine? occupied) entry earlier
      · have submits : (session.step action).2.submission? (session.step action).1 = some entry :=
          Option.mem_toList.mp new
        rw [submits] at books
        have owes := step_owes sound action (submission?_given submits)
        rw [device_of_engine? later] at owes
        have watchedAfter := (step_watched sound watched action).of_engine? later
        refine ⟨owes.made watchedAfter.fenced, fun waits => ?_⟩
        refine books.enters.resolve_right fun idle => ?_
        exact absurd waits (Bool.eq_false_iff.mp (watchedAfter.settled idle owes))

theorem ledgerFrom_enters {session : Session} (sound : session.Sound) (watched : session.Watched)
    {ledger : List TracedFrame}
    (entered : ∀ engine ∈ session.engine?, engine.Enters ledger) (actions : List Action) :
    ∀ engine ∈ (session.run actions).2.engine?,
      engine.Enters (session.ledgerFrom ledger actions) := by
  induction actions generalizing session ledger with
  | nil => exact entered
  | cons action rest ih =>
      rw [run_cons]
      exact ih (step_sound session action sound) (step_watched sound watched action)
        (step_enters sound watched entered action)

end Session

end Compositor
