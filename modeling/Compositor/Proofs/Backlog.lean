import Compositor.Engine.Dump
import Compositor.Proofs.Cleanup

/-!
# The backlog of an engine

The submissions that still wait for their fences are the latest ones of an engine, and so are those
that it takes for unfinished. A snapshot counts the latter, as the engine knew them at its latest
poll. So it never counts too few, and it counts too many just if the oldest submission in the queue
has settled unnoticed.
-/

set_option autoImplicit false

namespace Compositor

/-! ## Calls and pending fences -/

namespace Device

variable {before after : Device}

theorem Drains.continued {middle : Device} (drains : Drains before middle)
    (effects : Effects middle after) (same : after.pending = middle.pending) :
    Drains before after := by
  obtain ⟨done, front, settled⟩ := drains
  refine ⟨done, ?_, ?_⟩
  · rw [front, same]
  · intro fence member
    exact effects.resolved (settled fence member)

theorem Drains.imaged {middle : Device} (drains : Drains before middle) {mode : Mode}
    {kind : ImageKind} {request : ImportRequest}
    {answered : Except BindError ImageHandle × Device}
    (answers : middle.ImageAnswered mode kind request answered) : Drains before answered.2 :=
  drains.continued answers.effects answers.pending_eq

theorem Drains.used {middle : Device} (drains : Drains before middle) {mode : Mode}
    {use : ImageUse} {handles : List ImageHandle} {found : Option Misuse} {refusal : EngineError}
    {event : DeviceEvent} {answered : Except EngineError Unit × Device}
    (answers : middle.UseAnswered mode use handles found refusal event answered)
    (note : event.isNote = true) : Drains before answered.2 :=
  drains.continued (answers.effects note) answers.pending_eq

/-- Only the loss that may come before a call lets fences settle. -/
theorem Call.drains (call : Call before after) (fenced : before.Fenced) :
    Drains before after := by
  have arrived (name : ContextCall) : Drains before (before.arrive name) :=
    (arrive_steps before name).drains fenced
  cases call with
  | checkLost => exact arrived .checkLost
  | importBuffer | createOutputImage => exact (arrived _).imaged (answer_answered _ _ _ _)
  | destroyImage =>
      exact Drains.continued (arrived _) (.single .destroy) (acceptDestroy_pending _ _ _)
  | beginFrame => exact (arrived _).used (acceptBegin_answered _ _ _) rfl
  | drawLayer => exact (arrived _).used (acceptDraw_answered _ _ _ _) rfl
  | await => exact (await_steps before _).drains fenced

theorem Timely.release {device : Device} (timely : device.Timely) (mode : Mode)
    (handle : ImageHandle) : (device.release mode handle).Timely := by
  unfold Device.release
  split
  · exact timely.log (by simp)
  · refine ⟨timely.immediate, ?_⟩
    intro drained
    exact timely.drained (drained.of_cons (by simp)).2

theorem Meddled.timely (meddled : before.Meddled after) (timely : before.Timely) :
    after.Timely := by
  cases meddled with
  | step step => exact timely.step step
  | release mode handle => exact timely.release mode handle

theorem release_pending (device : Device) (mode : Mode) (handle : ImageHandle) :
    (device.release mode handle).pending = device.pending := by
  unfold release
  split <;> rfl

theorem Meddled.drains (meddled : before.Meddled after) (fenced : before.Fenced) :
    Drains before after := by
  cases meddled with
  | step step => exact step.drains fenced
  | release mode handle => exact .of_same (release_pending before mode handle)

/-- The fences are in order at all times. -/
structure Orderly (device : Device) : Prop where
  fenced : device.Fenced
  timely : device.Timely

theorem orderly_lasting : Lasting Orderly where
  meddled := fun orderly meddled =>
    ⟨meddled.honours.fenced orderly.fenced, meddled.timely orderly.timely⟩
  operated := fun orderly operated =>
    have effects := (Engine.operate_deed operated).effects
    ⟨effects.fenced orderly.fenced, orderly.timely.effects effects⟩
  torn := fun {engine} orderly =>
    have effects := engine.teardown_effects
    ⟨effects.fenced orderly.fenced, orderly.timely.effects effects⟩

end Device

/-! ## New submissions -/

namespace Strategy

variable {strategy : Strategy} {device after : Device} {progress next : Progress}
  {frame : FrameSeq} {fence : Fence}

/-- The fence of a new submission is the last one to wait; or nothing waits. -/
theorem submit_queues (timely : device.Timely) (opened : progress.recording = some frame)
    (submitted : strategy.submit device progress frame = (.ok fence, next, after)) :
    (next.flying = progress.flying ++ [fence] ∧ after.pending = device.pending ++ [fence]) ∨
      (next.flying <:+ progress.flying ++ [fence] ∧ after.pending = []) := by
  have flushes := Device.acceptFlush_flushes (device.arrive .flush)
  have flown := submit_flying opened submitted
  obtain ⟨-, ⟨gated, joined⟩ | ⟨landed, idle⟩⟩ := flown
  · unfold submit Device.flush at submitted
    cases outcome : (device.arrive .flush).acceptFlush with
    | mk given flushed =>
        rw [outcome] at flushes submitted
        subst gated
        cases given with
        | some given =>
            cases submitted
            have quiet := Device.arrive_quiet flushes.usable
            cases flushes with
            | waiting => exact .inl ⟨joined, congrArg (· ++ _) quiet.pending⟩
            | signaled _ signals =>
                rw [quiet.options] at signals
                refine .inr ⟨?_, quiet.pending.trans (timely.immediate signals)⟩
                rw [joined]
        | none =>
            dsimp only at submitted
            cases asked : flushed.checkLost with
            | mk lost known =>
                rw [asked] at submitted
                cases lost with
                | true => cases submitted
                | false =>
                    obtain ⟨-, idle⟩ := submitDrained_idle submitted
                    refine .inr ⟨?_, idle⟩
                    rw [joined]
  · rw [landed]
    exact .inr ⟨List.nil_suffix, idle⟩

end Strategy

namespace Engine

variable {engine after : Engine}

theorem submit_queues {frame : FrameSeq} {fence : Fence} (timely : engine.device.Timely)
    (opened : engine.progress.recording = some frame)
    (submitted : engine.submit frame = (.ok fence, after)) :
    (after.progress.flying = engine.progress.flying ++ [fence] ∧
        after.device.pending = engine.device.pending ++ [fence]) ∨
      (after.progress.flying <:+ engine.progress.flying ++ [fence] ∧
        after.device.pending = []) := by
  unfold submit at submitted
  cases outcome : engine.strategy.submit engine.device engine.progress frame with
  | mk result rest =>
      rw [outcome] at submitted
      cases result with
      | error error => cases submitted
      | ok given =>
          cases submitted
          exact Strategy.submit_queues timely opened outcome

/-! ## An engine and its submissions -/

/-- The fences of all submissions, the latest one first: the engine has seen the oldest ones settle,
the next ones have settled unnoticed, and the latest ones wait, behind fences of others at most. -/
structure Tracks (fences : List Fence) (engine : Engine) : Prop where
  orderly : engine.device.Orderly
  owes : ∀ fence ∈ fences, engine.device.Owes fence
  queue : ∃ seen unnoticed waiting others : List Fence,
    fences.reverse = seen ++ (unnoticed ++ waiting) ∧
    engine.progress.flying = unnoticed ++ waiting ∧
    engine.device.pending = others ++ waiting ∧
    ∀ fence ∈ seen ++ unnoticed, engine.device.fences.isPending fence = false

namespace Tracks

variable {fences : List Fence}

theorem flying_suffix (tracks : Tracks fences engine) :
    engine.progress.flying <:+ fences.reverse := by
  obtain ⟨seen, unnoticed, waiting, others, split, flying, -⟩ := tracks.queue
  rw [split, flying]
  exact List.suffix_append _ _

/-- What has settled stays so. -/
theorem settled (tracks : Tracks fences engine)
    (honours : Device.Honours engine.device after.device) {fence : Fence} (known : fence ∈ fences)
    (settled : engine.device.fences.isPending fence = false) :
    after.device.fences.isPending fence = false := by
  by_contra waits
  rw [Bool.not_eq_false] at waits
  have waited := honours.waited tracks.orderly.fenced (tracks.owes fence known) waits
  simp [settled] at waited

/-- Fences may settle, and the engine takes no notice. -/
theorem pass (tracks : Tracks fences engine) (orderly : after.device.Orderly)
    (honours : Device.Honours engine.device after.device)
    (drains : Device.Drains engine.device after.device)
    (flying : after.progress.flying = engine.progress.flying) : Tracks fences after := by
  obtain ⟨seen, unnoticed, waiting, others, split, before, pending, done⟩ := tracks.queue
  obtain ⟨gone, front, resolved⟩ := drains
  have known : ∀ fence ∈ seen ++ unnoticed, fence ∈ fences := by
    intro fence member
    rw [← List.mem_reverse, split, ← List.append_assoc]
    exact List.mem_append_left _ member
  have stay : ∀ fence ∈ seen ++ unnoticed, after.device.fences.isPending fence = false := by
    intro fence member
    exact tracks.settled honours (known fence member) (done fence member)
  have owes : ∀ fence ∈ fences, after.device.Owes fence := by
    intro fence member
    exact honours.owes (tracks.owes fence member)
  rw [pending] at front
  rcases List.append_eq_append_iff.mp front with ⟨first, gone_eq, waiting_eq⟩ | ⟨rest, -, left⟩
  · -- The first ones of those that waited have settled by now.
    refine ⟨orderly, owes, seen, unnoticed ++ first, after.device.pending, [], ?_, ?_, rfl, ?_⟩
    · rw [split, waiting_eq, List.append_assoc]
    · rw [flying, before, waiting_eq, List.append_assoc]
    · intro fence member
      rw [← List.append_assoc] at member
      rcases List.mem_append.mp member with earlier | now
      · exact stay fence earlier
      · have member : fence ∈ gone := by
          rw [gone_eq]
          exact List.mem_append_right _ now
        exact decide_eq_false (resolved fence member).status
  · exact ⟨orderly, owes, seen, unnoticed, waiting, rest, split, flying.trans before, left, stay⟩

/-- Where nothing waits on the device, all submissions have settled. -/
theorem clear {given : List Fence} (orderly : after.device.Orderly)
    (owes : ∀ fence ∈ given, after.device.Owes fence) (idle : after.device.pending = [])
    (suffix : after.progress.flying <:+ given.reverse) : Tracks given after := by
  obtain ⟨seen, split⟩ := suffix
  refine ⟨orderly, owes, seen, after.progress.flying, [], [], ?_, ?_, ?_, ?_⟩
  · rw [List.append_nil, split]
  · rw [List.append_nil]
  · rw [List.append_nil, idle]
  · intro fence member
    rw [split, List.mem_reverse] at member
    exact decide_eq_false ((owes fence member).status orderly.fenced idle)

theorem poll (tracks : Tracks fences engine) : Tracks fences engine.poll := by
  obtain ⟨seen, unnoticed, waiting, others, split, flying, pending, done⟩ := tracks.queue
  refine ⟨tracks.orderly, tracks.owes, seen ++ unnoticed, [], waiting, others, ?_, ?_, pending, ?_⟩
  · rw [split, List.nil_append, List.append_assoc]
  · refine Progress.flying_poll flying ?_ ?_
    · intro fence member
      exact done fence (List.mem_append_right _ member)
    · intro fence member
      refine tracks.orderly.fenced.isPending ?_
      rw [pending]
      exact List.mem_append_right _ member
  · rw [List.append_nil]
    exact done

theorem act (tracks : Tracks fences engine) (act : Act engine after) : Tracks fences after := by
  have effects := act.effects
  have honours := effects.honours
  have orderly : after.device.Orderly :=
    ⟨effects.fenced tracks.orderly.fenced, tracks.orderly.timely.effects effects⟩
  have owes : ∀ fence ∈ fences, after.device.Owes fence := by
    intro fence member
    exact honours.owes (tracks.owes fence member)
  cases act with
  | arrange same progress =>
      refine tracks.pass orderly honours (.of_same ?_) ?_
      · rw [same]
      · rw [progress]
  | call call => exact tracks.pass orderly honours (call.drains tracks.orderly.fenced) rfl
  | poll => exact tracks.poll
  | abandon | markLost => exact tracks.pass orderly honours (.of_same rfl) rfl
  | @drain device drained =>
      have usable := Device.finish_usable (congrArg Prod.fst drained)
      have idle : engine.device.finish.2.pending = [] := Device.acceptFinish_pending usable
      rw [drained] at idle
      exact clear orderly owes idle List.nil_suffix
  | @fail device failed =>
      have lost := Device.finish_failed (congrArg Prod.fst failed)
      rw [failed] at lost
      exact clear orderly owes (orderly.fenced.idle lost) tracks.flying_suffix
  | @strand _ frame _ failed =>
      have submitted := engine.submit_submitted frame
      rw [failed] at submitted
      cases submitted with
      | lost lost => exact clear orderly owes (orderly.fenced.idle lost) tracks.flying_suffix

theorem acts (tracks : Tracks fences engine) (acts : Acts engine after) : Tracks fences after := by
  induction acts with
  | refl => exact tracks
  | tail _ act ih => exact ih.act act

theorem takeNumber (tracks : Tracks fences engine) : Tracks fences engine.takeNumber :=
  ⟨tracks.orderly, tracks.owes, tracks.queue⟩

theorem setCleaned (tracks : Tracks fences engine) :
    Tracks fences { engine with progress := engine.progress.setCleaned } :=
  ⟨tracks.orderly, tracks.owes, tracks.queue⟩

theorem submit {frame : FrameSeq} {fence : Fence} (tracks : Tracks fences engine)
    (opened : engine.progress.recording = some frame)
    (submitted : engine.submit frame = (.ok fence, after)) : Tracks (fence :: fences) after := by
  have effects := engine.submit_effects frame
  rw [submitted] at effects
  have honours := effects.honours
  have orderly : after.device.Orderly :=
    ⟨effects.fenced tracks.orderly.fenced, tracks.orderly.timely.effects effects⟩
  have owes : ∀ other ∈ fence :: fences, after.device.Owes other := by
    intro other member
    rcases List.mem_cons.mp member with rfl | earlier
    · exact submit_owes submitted
    · exact honours.owes (tracks.owes other earlier)
  rcases submit_queues tracks.orderly.timely opened submitted with
    ⟨joined, waits⟩ | ⟨suffix, idle⟩
  · obtain ⟨seen, unnoticed, waiting, others, split, flying, pending, done⟩ := tracks.queue
    refine ⟨orderly, owes, seen, unnoticed, waiting ++ [fence], others, ?_, ?_, ?_, ?_⟩
    · simp [split]
    · simp [joined, flying]
    · simp [waits, pending]
    · intro other member
      have known : other ∈ fences := by
        rw [← List.mem_reverse, split, ← List.append_assoc]
        exact List.mem_append_left _ member
      exact tracks.settled honours known (done other member)
  · refine clear orderly owes idle (suffix.trans ?_)
    obtain ⟨seen, split⟩ := tracks.flying_suffix
    refine ⟨seen, ?_⟩
    rw [List.reverse_cons, ← split, List.append_assoc]

theorem deed {diary : List Entry} {entry : Option Entry}
    (tracks : Tracks (Entry.fences diary) engine) (deed : engine.Deed entry after) :
    Tracks (Entry.fences (entry.toList ++ diary)) after := by
  cases deed with
  | acted path => exact tracks.acts path
  | gaveUp idle rest label =>
      have kept := (tracks.acts idle).takeNumber.acts rest
      rcases label with rfl | rfl <;> exact kept
  | submitted framesDrawn idle rest opened submitted =>
      have joined := ((tracks.acts idle).takeNumber.acts rest).submit opened submitted
      exact ⟨joined.orderly, joined.owes, joined.queue⟩
  | released ready rest => exact (tracks.acts ready).setCleaned.acts rest

end Tracks

/-- An engine keeps track of its own submissions. -/
theorem tracks_told : Told Device.Orderly fun diary engine =>
    Tracks (Entry.fences diary) engine where
  created := fun {device} _ _ _ _ orderly created => by
    obtain ⟨-, rfl⟩ := create_eq created
    refine ⟨orderly, nofun, [], [], [], device.pending, rfl, rfl, ?_, nofun⟩
    rw [List.append_nil]
  operated := fun tracks operated => tracks.deed (operate_deed operated)
  meddled := fun tracks meddled =>
    tracks.pass ⟨meddled.honours.fenced tracks.orderly.fenced, meddled.timely tracks.orderly.timely⟩
      meddled.honours (meddled.drains tracks.orderly.fenced) rfl

end Engine

/-! ## Snapshots -/

/-- The number of submissions in a diary that still wait for their fences. -/
def Entry.waiting (diary : List Entry) (fences : Fences) : Nat :=
  (Entry.fences diary).countP fences.isPending

namespace Engine

variable {engine : Engine} {diary : List Entry}

/-- What a snapshot tells of submissions, with `waiting` of them unsettled. -/
structure CountsBacklog (engine : Engine) (waiting : Nat) : Prop where
  enough : waiting ≤ engine.dump.inFlight
  /-- Too many are counted just if the oldest one that is counted has settled. -/
  exact_iff : engine.dump.inFlight = waiting ↔
    ∀ oldest ∈ engine.progress.inFlight.head?, engine.device.fences.isPending oldest.2 = true
  polled : engine.poll.dump.inFlight = waiting

theorem dump_inFlight (engine : Engine) : engine.dump.inFlight = engine.progress.flying.length :=
  (List.length_map Prod.snd).symm

namespace Tracks

theorem waiting_eq (tracks : Tracks (Entry.fences diary) engine) :
    ∃ unnoticed waiting : List Fence, engine.progress.flying = unnoticed ++ waiting ∧
      (∀ fence ∈ unnoticed, engine.device.fences.isPending fence = false) ∧
      (∀ fence ∈ waiting, engine.device.fences.isPending fence = true) ∧
      Entry.waiting diary engine.device.fences = waiting.length := by
  obtain ⟨seen, unnoticed, waiting, others, split, flying, pending, done⟩ := tracks.queue
  have waits : ∀ fence ∈ waiting, engine.device.fences.isPending fence = true := by
    intro fence member
    refine tracks.orderly.fenced.isPending ?_
    rw [pending]
    exact List.mem_append_right _ member
  have none : (seen ++ unnoticed).countP engine.device.fences.isPending = 0 := by
    rw [List.countP_eq_zero]
    intro fence member
    simp [done fence member]
  refine ⟨unnoticed, waiting, flying, ?_, waits, ?_⟩
  · intro fence member
    exact done fence (List.mem_append_right _ member)
  · rw [Entry.waiting, ← List.countP_reverse, split, ← List.append_assoc, List.countP_append, none,
      Nat.zero_add, List.countP_eq_length]
    exact waits

theorem counts (tracks : Tracks (Entry.fences diary) engine) :
    engine.CountsBacklog (Entry.waiting diary engine.device.fences) := by
  obtain ⟨unnoticed, waiting, flying, done, waits, count⟩ := tracks.waiting_eq
  have total : engine.dump.inFlight = unnoticed.length + waiting.length := by
    rw [dump_inFlight, flying, List.length_append]
  have polled : engine.poll.progress.flying = waiting := Progress.flying_poll flying done waits
  refine ⟨?_, ?_, ?_⟩
  · omega
  · have heads : engine.progress.inFlight.head?.map Prod.snd = (unnoticed ++ waiting).head? := by
      rw [← flying, Progress.flying, List.head?_map]
    rw [count, total]
    cases unnoticed with
    | nil =>
        simp only [List.length_nil, Nat.zero_add, true_iff]
        intro oldest first
        rw [Option.mem_def.mp first] at heads
        exact waits _ (List.mem_of_mem_head? heads.symm)
    | cons fence unnoticed =>
        obtain ⟨oldest, first, rfl⟩ := Option.map_eq_some_iff.mp heads
        have settled := done oldest.2 List.mem_cons_self
        constructor
        · intro same
          simp only [List.length_cons] at same
          omega
        · intro pending
          simp [pending oldest first] at settled
  · rw [count, dump_inFlight, polled]

end Tracks

end Engine

namespace Session

/-- In every reachable state, also in the company of other users of the device, a snapshot counts
the submissions that were in flight at the latest poll: all that wait for their fences are among
them, and the numbers agree unless the oldest one that is counted has settled since. -/
theorem snapshot_counts_backlog (options : DeviceOptions) (capabilities : Capabilities)
    (order : ReleaseOrder) (incidents : List Incident) :
    ∀ engine ∈ ((new (.new options) capabilities order).endure incidents).engine?,
      engine.CountsBacklog
        (Entry.waiting ((new (.new options) capabilities order).diary incidents)
          engine.device.fences) := by
  intro engine reached
  have tracks := Engine.tracks_told.endure_new Device.orderly_lasting
    ⟨.new options, .new options⟩ incidents reached
  exact tracks.counts

/-- Of three submissions the first one has settled; a frame was drawn in between. -/
private def oneOfThreeSettled : List Incident :=
  [.act (.start .standard), .act .flush, .meddle .normal ⟨1⟩,
    .act (.draw ⟨.ofSize 64 64, [], .plain ⟨9⟩ 64 64, true, none⟩), .act .flush, .act .signalNext]

/-- The snapshot still counts three, and two after a poll. -/
theorem snapshot_counts_backlog_before_poll :
    ∃ engine ∈ ((new (.new ⟨true, true, false, 4096⟩) DeviceOptions.standard.capabilities
        .byArrival).endure oneOfThreeSettled).engine?,
      engine.dump.inFlight = 3 ∧ engine.CountsBacklog 2 := by
  have counted : ((new (.new ⟨true, true, false, 4096⟩) DeviceOptions.standard.capabilities
      .byArrival).endure oneOfThreeSettled).engine?.any (fun engine =>
        engine.dump.inFlight == 3 && Entry.waiting ((new (.new ⟨true, true, false, 4096⟩)
          DeviceOptions.standard.capabilities .byArrival).diary oneOfThreeSettled)
          engine.device.fences == 2) = true := by decide
  obtain ⟨engine, reached, facts⟩ := (Option.any_eq_true _ _).mp counted
  simp only [Bool.and_eq_true, beq_iff_eq] at facts
  obtain ⟨three, two⟩ := facts
  refine ⟨engine, reached, three, ?_⟩
  rw [← two]
  exact snapshot_counts_backlog ⟨true, true, false, 4096⟩ DeviceOptions.standard.capabilities
    .byArrival oneOfThreeSettled engine reached

/-- On a device that signals at once, a flush is counted after its fence has signaled. -/
theorem snapshot_counts_signaled :
    ∃ engine ∈ ((new (.new .standard) DeviceOptions.standard.capabilities
        .byArrival).endure [.act (.start .standard), .act .flush]).engine?,
      (new (.new .standard) DeviceOptions.standard.capabilities .byArrival).diary
          [.act (.start .standard), .act .flush] = [.submitted 1 ⟨0⟩] ∧
        engine.device.fences.status ⟨0⟩ = .signaled ∧ engine.dump.inFlight = 1 := by
  have counted : ((new (.new .standard) DeviceOptions.standard.capabilities
      .byArrival).endure [.act (.start .standard), .act .flush]).engine?.any (fun engine =>
        engine.device.fences.status ⟨0⟩ == .signaled && engine.dump.inFlight == 1) = true := by
    decide
  obtain ⟨engine, reached, facts⟩ := (Option.any_eq_true _ _).mp counted
  simp only [Bool.and_eq_true, beq_iff_eq] at facts
  exact ⟨engine, reached, by decide, facts.1, facts.2⟩

end Session

end Compositor
