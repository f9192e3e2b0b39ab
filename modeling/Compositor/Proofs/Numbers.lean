import Compositor.Proofs.Acts
import Compositor.Proofs.Outline.Operations

/-!
# Numbers of submissions

A frame that gets as far as its layers takes the next number, and so does a flush. What becomes of it
does not matter: a number that was taken for nothing is not taken again. So the numbers that callers
learn only grow, until the largest one is reached.
-/

set_option autoImplicit false

namespace Compositor

namespace Entry

/-- The number that an entry is about. -/
def number? : Entry → Option FrameSeq
  | .submitted frame _ => some frame
  | .dropped frame => some frame
  | .released => none

/-- The numbers in a diary, the latest one first. -/
def numbers (diary : List Entry) : List FrameSeq := diary.filterMap number?

end Entry

namespace Engine

variable {engine after : Engine}

/-! ## Numbers that are taken -/

theorem Act.issued (act : Act engine after) :
    after.progress.lastIssued = engine.progress.lastIssued := by
  cases act with
  | arrange _ progress => rw [progress]
  | call | poll | abandon | drain | fail | markLost => rfl
  | @strand _ frame _ failed =>
      have settled := (engine.submit_settles frame).1
      rw [failed] at settled
      exact settled

theorem Acts.issued (acts : Acts engine after) :
    after.progress.lastIssued = engine.progress.lastIssued := by
  induction acts with
  | refl => rfl
  | tail _ act ih => exact act.issued.trans ih

/-- Numbers are taken one at a time, and told as they were taken. -/
theorem Deed.issued {entry : Option Entry} (deed : engine.Deed entry after) :
    (after.progress.lastIssued = engine.progress.lastIssued ∧ entry.bind Entry.number? = none) ∨
      (after.progress.lastIssued = engine.progress.lastIssued.next ∧
        ∀ number ∈ entry.bind Entry.number?, number = after.progress.lastIssued) := by
  cases deed with
  | acted path => exact .inl ⟨path.issued, rfl⟩
  | @gaveUp idle _ _ before rest label =>
      have taken : after.progress.lastIssued = idle.progress.lastIssued.next := rest.issued
      refine .inr ⟨taken.trans (congrArg FrameSeq.next before.issued), ?_⟩
      rcases label with rfl | rfl
      · exact nofun
      · intro number told
        exact (Option.some.inj told).symm
  | @submitted idle ready last _ _ before rest _ submitted =>
      have settled := (ready.submit_settles ready.progress.lastIssued).1
      rw [submitted] at settled
      have taken : ready.progress.lastIssued = idle.progress.lastIssued.next := rest.issued
      refine .inr ⟨settled.trans (taken.trans (congrArg FrameSeq.next before.issued)), ?_⟩
      intro number told
      exact (Option.some.inj told).symm.trans settled.symm
  | @released ready _ before rest =>
      have kept : after.progress.lastIssued = ready.progress.lastIssued := rest.issued
      exact .inl ⟨kept.trans before.issued, rfl⟩

/-! ## Numbers that are told -/

/-- The numbers in a diary were taken, the latest one last. -/
structure Numbered (diary : List Entry) (engine : Engine) : Prop where
  bounded : engine.progress.lastIssued ≤ FrameSeq.last
  taken : ∀ number ∈ Entry.numbers diary, number ≤ engine.progress.lastIssued
  decreasing : engine.HasNumbers → (Entry.numbers diary).Pairwise (· > ·)

namespace Numbered

variable {diary : List Entry}

/-- No number was taken. -/
theorem keep (numbered : Numbered diary engine)
    (issued : after.progress.lastIssued = engine.progress.lastIssued) : Numbered diary after := by
  refine ⟨?_, ?_, ?_⟩
  · rw [issued]
    exact numbered.bounded
  · rw [issued]
    exact numbered.taken
  · rw [HasNumbers, issued]
    exact numbered.decreasing

/-- The next number was taken, and may have been told. -/
theorem take (numbered : Numbered diary engine)
    (issued : after.progress.lastIssued = engine.progress.lastIssued.next) {told : Option FrameSeq}
    {later : List Entry} (tells : Entry.numbers later = told.toList ++ Entry.numbers diary)
    (own : ∀ number ∈ told, number = after.progress.lastIssued) : Numbered later after := by
  have grown : engine.progress.lastIssued ≤ after.progress.lastIssued :=
    issued ▸ Progress.issued_le_begin numbered.bounded
  refine ⟨issued ▸ Nat.min_le_right _ _, fun number member => ?_, fun room => ?_⟩
  · rw [tells] at member
    rcases List.mem_append.mp member with new | before
    · exact Nat.le_of_eq (own number (Option.mem_toList.mp new))
    · exact Nat.le_trans (numbered.taken number before) grown
  · rw [HasNumbers, issued] at room
    have grows := Progress.next_eq room
    have larger : engine.progress.lastIssued < after.progress.lastIssued := by
      rw [issued, grows]
      exact Nat.lt_succ_self _
    have roomBefore : engine.HasNumbers := Nat.lt_trans (issued ▸ larger) room
    rw [tells, List.pairwise_append]
    refine ⟨?_, numbered.decreasing roomBefore, fun number new earlier before => ?_⟩
    · cases told with
      | none => exact .nil
      | some number => exact List.pairwise_singleton _ _
    · rw [own number (Option.mem_toList.mp new)]
      exact Nat.lt_of_le_of_lt (numbered.taken earlier before) larger

theorem deed {entry : Option Entry} (numbered : Numbered diary engine)
    (deed : engine.Deed entry after) : Numbered (entry.toList ++ diary) after := by
  have tells : Entry.numbers (entry.toList ++ diary) =
      (entry.bind Entry.number?).toList ++ Entry.numbers diary := by
    cases entry with
    | none => rfl
    | some entry => cases entry <;> rfl
  rcases deed.issued with ⟨issued, silent⟩ | ⟨issued, own⟩
  · rw [silent, Option.toList_none, List.nil_append] at tells
    have kept := numbered.keep issued
    refine ⟨kept.bounded, ?_, ?_⟩
    · rw [tells]
      exact kept.taken
    · rw [tells]
      exact kept.decreasing
  · exact numbered.take issued tells own

end Numbered

theorem numbered_told : Told (fun _ => True) Numbered where
  created := fun _ created => by
    obtain ⟨-, rfl⟩ := create_eq created
    exact ⟨Nat.zero_le _, nofun, fun _ => .nil⟩
  operated := fun numbered operated => numbered.deed (operate_deed operated)
  meddled := fun numbered _ => numbered.keep rfl

end Engine

/-! ## How many numbers are taken -/

/-- Holds for what may take a number. -/
def Incident.submits : Incident → Bool
  | .act (.draw _) => true
  | .act .flush => true
  | _ => false

namespace Engine

variable {engine after : Engine} {action : Action} {outcome : Outcome}

/-- Only frames and flushes take numbers. -/
theorem operate_quiet (quiet : (Incident.act action).submits = false)
    (operated : Session.operate engine action = some (outcome, after)) :
    after.progress.lastIssued = engine.progress.lastIssued := by
  cases action with
  | bind buffer =>
      cases operated
      exact (Acts.bind engine buffer).issued
  | unbind buffer =>
      cases operated
      exact (Acts.unbind engine buffer).issued
  | invalidate buffer =>
      cases operated
      exact (Acts.invalidate engine buffer).issued
  | setProtected wantsSecure =>
      cases operated
      exact (Acts.switchTo engine _).issued
  | finish =>
      cases operated
      exact (Acts.finish engine).issued
  | cleanup =>
      cases operated
      exact congrArg Outline.issued engine.cleanup_outline
  | await fence =>
      cases operated
      exact (Acts.await engine fence).issued
  | watchTracer elapsed =>
      cases operated
      rfl
  | draw | flush => cases quiet
  | _ => cases operated

theorem operate_issued (operated : Session.operate engine action = some (outcome, after)) :
    after.progress.lastIssued ≤
      engine.progress.lastIssued + [Incident.act action].countP Incident.submits := by
  cases quiet : (Incident.act action).submits with
  | false => exact Nat.le_trans (operate_quiet quiet operated).le (Nat.le_add_right _ _)
  | true =>
      rw [List.countP_cons_of_pos quiet]
      rcases (operate_deed operated).issued with ⟨same, -⟩ | ⟨next, -⟩
      · exact Nat.le_trans same.le (Nat.le_add_right _ _)
      · exact Nat.le_trans next.le (Nat.min_le_left _ _)

end Engine

namespace Session

variable {session : Session} {bound : Nat} {after : Engine}

theorem befall_issued
    (start : ∀ engine, session.engine? = some engine → engine.progress.lastIssued ≤ bound)
    (incident : Incident) (later : (session.befall incident).engine? = some after) :
    after.progress.lastIssued ≤ bound + [incident].countP Incident.submits := by
  have kept : ∀ {device : Device}, (session.setDevice device).engine? = some after →
      after.progress.lastIssued ≤ bound + [incident].countP Incident.submits := by
    intro device changed
    rw [setDevice_engine?] at changed
    obtain ⟨engine, occupied, rfl⟩ := Option.map_eq_some_iff.mp changed
    exact Nat.le_trans (start engine occupied) (Nat.le_add_right _ _)
  cases incident with
  | meddle mode handle => exact kept later
  | act action =>
      have stepped := session.step_stepped action
      unfold befall at later
      dsimp only at later
      generalize session.step action = result at stepped later
      cases stepped with
      | started options =>
          unfold Session.start at later
          cases created : Engine.create session.stop.device session.stop.capabilities options
              session.stop.order with
          | error error =>
              rw [created] at later
              cases session.stop_engine?.symm.trans later
          | ok engine =>
              rw [created] at later
              cases later
              obtain ⟨-, rfl⟩ := Engine.create_eq created
              exact Nat.zero_le _
      | stopped => cases session.stop_engine?.symm.trans later
      | scripted scripted =>
          obtain ⟨device, changed, -⟩ := script_steps scripted
          rw [changed] at later
          exact kept later
      | absent vacant => cases vacant.symm.trans later
      | @operated _ engine _ _ occupied operated =>
          cases later
          exact Nat.le_trans (Engine.operate_issued operated)
            (Nat.add_le_add_right (start engine occupied) _)
      | @requested _ engine occupied =>
          have applied : ∀ (request : ImageRequest) (engine : Engine),
              engine.progress.lastIssued ≤ bound →
              (request.apply engine).2.progress.lastIssued ≤ bound := by
            intro request engine below
            cases request with
            | cache buffer => exact Nat.le_trans (Engine.Acts.bind engine buffer).issued.le below
            | unbind buffer => exact Nat.le_trans (Engine.Acts.unbind engine buffer).issued.le below
          have served := @request_keeps session (fun engine => engine.progress.lastIssued ≤ bound)
            engine after applied (start engine occupied) occupied action later
          exact Nat.le_trans served (Nat.le_add_right _ _)

theorem endure_issued
    (start : ∀ engine, session.engine? = some engine → engine.progress.lastIssued ≤ bound)
    (incidents : List Incident) (later : (session.endure incidents).engine? = some after) :
    after.progress.lastIssued ≤ bound + incidents.countP Incident.submits := by
  induction incidents generalizing session bound with
  | nil => exact start after later
  | cons incident rest ih =>
      have counted := ih (fun _ occupied => befall_issued start incident occupied) later
      have split : (incident :: rest).countP Incident.submits =
          [incident].countP Incident.submits + rest.countP Incident.submits :=
        @List.countP_append _ _ [incident] rest
      rwa [split, ← Nat.add_assoc]

/-- As long as fewer frames and flushes were asked for than there are numbers, the numbers of an
engine grow. -/
theorem numbers_decrease (device : Device) (capabilities : Capabilities) (order : ReleaseOrder)
    (incidents : List Incident) {engine : Engine}
    (reached : ((new device capabilities order).endure incidents).engine? = some engine)
    (room : incidents.countP Incident.submits < FrameSeq.last) :
    (Entry.numbers ((new device capabilities order).diary incidents)).Pairwise (· > ·) := by
  have fresh : ∀ engine, (new device capabilities order).engine? = some engine →
      engine.progress.lastIssued ≤ 0 := by
    intro engine occupied
    cases occupied
  have counted := endure_issued fresh incidents reached
  rw [Nat.zero_add] at counted
  have numbered := Engine.numbered_told.endure_new
    ⟨fun _ _ => trivial, fun _ _ => trivial, fun _ => trivial⟩ trivial incidents reached
  exact numbered.decreasing (Nat.lt_of_le_of_lt counted room)

end Session

end Compositor
