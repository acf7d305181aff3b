import AgentPipeline.Proofs.Command.Questions
import AgentPipeline.Proofs.Command.Yields
import AgentPipeline.Proofs.Rehearsal.Pursuit

/-!
# Performing the pursuit of a run

The command performs a pursuit against a service and on a console.  The calls
of the pursuit and no others reach the service, its operations and what they
return are noted in the scene, and its questions are answered by the lines
that are typed.  Main statement: `leads_drive`.
-/

namespace AgentPipeline

variable {σ ς : Type} [KeyValueStore σ] [DelayedService ς]

/-- From one scene to another all of this has happened in a pursuit, the
service is now in a state, and some operations were noted. -/
structure Scene.Shows (first : Scene σ ς) (start : PursuitStart σ)
    (events : List PursuitEvent) (service : ς) (noted : List OperationNotice)
    (last : Scene σ ς) : Prop where
  service : last.world.service = service
  operations : last.operations = first.operations ++ noted
  dialogue : first.console.dialogue.Continues (start.pursuit.asked events)
    (start.pursuit.fired events).length last.console.dialogue

/-- From one scene to another a pursuit is performed on a service: the service
has received its calls, its operations are noted, its questions are answered,
and the user has interrupted the command whenever the cancel handle was
fired. -/
structure Scene.Performs (first : Scene σ ς) (start : PursuitStart σ)
    (service : ς) (events : List PursuitEvent) (last : Scene σ ς) :
    Prop where
  received : Receives service ((start.requests events).map .stage)
    last.world.service
  operations : last.operations = first.operations ++ start.notices events
  dialogue : first.console.dialogue.Continues (start.pursuit.asked events)
    (start.pursuit.fired events).length last.console.dialogue

/-- From one scene to another a pursuit is performed in part: what an operation
has returned may not be noted yet, and the answer to a question that was put
may still be to be taken up. -/
structure Scene.PerformsPart (first : Scene σ ς) (start : PursuitStart σ)
    (service : ς) (events : List PursuitEvent) (last : Scene σ ς) :
    Prop where
  received : Receives service ((start.requests events).map .stage)
    last.world.service
  operations : ∃ noted, noted ≠ [] ∧ noted <+: start.notices events ∧
    last.operations = first.operations ++ noted
  dialogue : ∃ asked, first.console.dialogue.Continues
      (start.pursuit.asked events ++ asked) (start.pursuit.fired events).length
        last.console.dialogue ∧
    (start.assumesYes = true → asked = []) ∧
    asked.length ≤ (start.pursuit.after events).questionsLeft

theorem Scene.Performs.part {first last : Scene σ ς} {start : PursuitStart σ}
    {service : ς} {events : List PursuitEvent}
    (performs : first.Performs start service events last) :
    first.PerformsPart start service events last where
  received := performs.received
  operations :=
    ⟨_, List.cons_ne_nil _ _, List.prefix_refl _, performs.operations⟩
  dialogue := by
    refine ⟨[], ?_, fun _ => rfl, Nat.zero_le _⟩
    rw [List.append_nil]
    exact performs.dialogue

/-- From one scene to another a pursuit is performed until a run is left. -/
def Scene.Leaves (first : Scene σ ς) (start : PursuitStart σ) (service : ς)
    (run : Run) (last : Scene σ ς) : Prop :=
  ∃ events remark, first.Performs start service events last ∧
    (start.pursuit.after events).phase = .ended (.left run remark)

/-- From one scene to another a pursuit is performed until an operation
fails. -/
def Scene.Fails (first : Scene σ ς) (start : PursuitStart σ) (service : ς)
    (failure : CommandError) (last : Scene σ ς) : Prop :=
  ∃ events error, failure = .pipeline error ∧
    first.Performs start service events last ∧
      (start.pursuit.after events).phase = .ended (.failed error)

/-- From one scene to another a pursuit is performed until it halts for
something that the scene lacks. -/
def Scene.Halts (first : Scene σ ς) (start : PursuitStart σ) (service : ς)
    (wanted : Wanted) (last : Scene σ ς) : Prop :=
  last.Lacks wanted ∧
    ∃ events, first.PerformsPart start service events last

/-- From one scene to another an operation is followed until it has returned,
which is not noted yet. -/
def Scene.Follows (first : Scene σ ς) (start : PursuitStart σ) (service : ς)
    (events : List PursuitEvent) (operation : RunOperation)
    (noted : List OperationNotice) (ended : PipelineRehearsal σ ς)
    (last : Scene σ ς) : Prop :=
  ended.pipeline.awaited = none ∧ ∃ later,
    PipelineRehearsal.Works start service (events ++ later) ended operation
      noted ∧
    first.Shows start (events ++ later) ended.service noted last

section Shows

variable {start : PursuitStart σ} {events : List PursuitEvent} {service : ς}
  {noted : List OperationNotice} {first last : Scene σ ς}
  (shows : first.Shows start events service noted last)
include shows

omit [DelayedService ς] in
/-- The user interrupts the command while no question is open. -/
theorem Scene.Shows.cancel
    (notOver : (start.pursuit.after events).phase.isOver = false)
    (reason : String) {console : Console}
    (isSet : last.console.interruptAt ≠ none)
    (same : console.dialogue =
      { last.console.dialogue with interruptAt := none }) :
    first.Shows start (events ++ [.fire reason, .notice]) service noted
      { last with console } := by
  obtain ⟨sameAsked, nextFired⟩ := Pursuit.shown_cancel notOver reason
  refine ⟨shows.service, shows.operations, ?_⟩
  rw [sameAsked, nextFired, List.length_append, same]
  exact shows.dialogue.interrupt isSet

omit [DelayedService ς] in
/-- An answer from the service has no part in the dialogue. -/
theorem Scene.Shows.reply (outcome : Except ServiceError Json)
    (milliseconds : UInt64) :
    first.Shows start (events ++ [.reply outcome milliseconds]) service noted
      last := by
  obtain ⟨sameAsked, sameFired⟩ :=
    start.pursuit.shown_reply events outcome milliseconds
  refine ⟨shows.service, shows.operations, ?_⟩
  rw [sameAsked, sameFired]
  exact shows.dialogue

end Shows

namespace Act

open PipelineRehearsal

variable {start : PursuitStart σ} {service before : ς}
  {events : List PursuitEvent} {rehearsal : PipelineRehearsal σ ς}
  {first scene : Scene σ ς} {noted : List OperationNotice}
  {failed : CommandError → Scene σ ς → Prop}

/-- A rehearsal is kept, but for what was reported. -/
theorem leads_keepPipeline (kept : PipelineRehearsal σ ς)
    {done : PipelineRehearsal σ ς → Scene σ ς → Prop}
    {halted : Wanted → Scene σ ς → Prop}
    (shows : first.Shows start events before noted scene)
    (isKept : ∀ last : Scene σ ς,
      first.Shows start events kept.service noted last →
        done { kept with log := [] } last)
    (isHalted : ∀ wanted (last : Scene σ ς), last.Lacks wanted →
      first.Shows start events kept.service noted last →
        halted wanted last) :
    (keepPipeline kept).Leads scene done failed halted := by
  have goesOn : ∀ last : Scene σ ς, last.world.service = kept.service →
      last.operations = scene.operations →
      last.console.dialogue = scene.console.dialogue →
      first.Shows start events kept.service noted last := by
    intro last isService sameOperations sameDialogue
    refine ⟨isService, sameOperations.trans shows.operations, ?_⟩
    rw [sameDialogue]
    exact shows.dialogue
  refine .bind (leads_onWorld ?_ ?_)
  · intro console same
    exact leads_pure (isKept _ (goesOn _ rfl rfl same))
  · intro moment console same isSilent
    exact isHalted _ _ (.answer moment isSilent) (goesOn _ rfl rfl same)

/-! ## Operations -/

section Follow

variable {operation : RunOperation} (isNoted : noted ≠ [])
include isNoted

/-- While an operation is carried out the command halts without a question. -/
theorem halts_of_works
    (works : Works start service events rehearsal operation noted)
    {wanted : Wanted} {last : Scene σ ς} (lacks : last.Lacks wanted)
    (shows : first.Shows start events rehearsal.service noted last) :
    first.Halts start service wanted last := by
  refine ⟨lacks, events, ?received, ⟨noted, isNoted, ?_, shows.operations⟩,
    [], ?_, fun _ => rfl, Nat.zero_le _⟩
  case received =>
    rw [shows.service]
    exact works.tracks.received
  · rw [works.noted]
    exact List.prefix_append _ _
  · rw [List.append_nil]
    exact shows.dialogue

/-- What becomes of an operation is kept before it is followed further. -/
theorem leads_keepFollowing {more : Nat} {later : List PursuitEvent}
    (works : Works start service (events ++ later) rehearsal operation noted)
    (shows : first.Shows start (events ++ later) before noted scene)
    (goesOn : ∀ scene : Scene σ ς,
      first.Shows start (events ++ later) rehearsal.service noted scene →
      (follow { rehearsal with log := [] } more).Leads scene
        (first.Follows start service (events ++ later) operation noted)
        failed (first.Halts start service)) :
    (keepPipeline rehearsal >>= fun kept => follow kept more).Leads scene
      (first.Follows start service events operation noted)
      failed (first.Halts start service) := by
  refine .bind (leads_keepPipeline rehearsal shows ?kept ?halted)
  case kept =>
    intro last keptShows
    refine (goesOn last keptShows).imp ?_
    rintro ended last ⟨free, rest, endWorks, endShows⟩
    rw [List.append_assoc] at endWorks endShows
    exact ⟨free, later ++ rest, endWorks, endShows⟩
  case halted =>
    exact fun _ _ lacks => halts_of_works isNoted works lacks

omit isNoted in
/-- An operation that has returned is followed no further. -/
theorem leads_followed
    (works : Works start service events rehearsal operation noted)
    (shows : first.Shows start events rehearsal.service noted scene)
    (free : rehearsal.pipeline.awaited = none)
    {halted : Wanted → Scene σ ς → Prop} :
    (pure rehearsal : Act σ ς (PipelineRehearsal σ ς)).Leads scene
      (first.Follows start service events operation noted) failed halted := by
  refine leads_pure ⟨free, [], ?_⟩
  rw [List.append_nil]
  exact ⟨works, shows⟩

/-- An operation is followed until it has returned. -/
theorem leads_follow (steady : start.pursuit.IsSteady)
    (works : Works start service events rehearsal operation noted)
    (shows : first.Shows start events rehearsal.service noted scene)
    (rounds : Nat) (enough : ∀ call, rehearsal.pipeline.awaited = some call →
      4 ≤ call.stage.index + rounds) :
    (follow rehearsal rounds).Leads scene
      (first.Follows start service events operation noted)
      failed (first.Halts start service) := by
  induction rounds generalizing rehearsal events scene with
  | zero =>
      refine leads_followed works shows ?_
      cases waiting : rehearsal.pipeline.awaited with
      | none => rfl
      | some call =>
          have inside := call.stage.index_lt
          have atLeast := enough call waiting
          omega
  | succ more ih =>
      unfold follow
      split
      next none =>
        refine leads_followed works shows ?_
        rw [← Option.not_isSome_iff_eq_none, ← works.tracks.due, none]
        exact Bool.false_ne_true
      next due isDue =>
        obtain ⟨call, waiting⟩ : ∃ call,
            rehearsal.pipeline.awaited = some call := by
          rw [← Option.isSome_iff_exists, ← works.tracks.due, isDue]
          rfl
        refine .bind (leads_interruptionBefore ?passed ?taken)
        case taken =>
          intro moment console isSet same
          have waited := (rehearsal.wait_same moment).1
          obtain ⟨nextWorks, free⟩ := (works.wait moment).interrupted steady
            (waited ▸ waiting) cancelledByUser
          obtain ⟨-, tracks, -⟩ := works.isWorking steady waiting
          have nextShows := shows.cancel (by rw [tracks.phase_eq]; rfl)
            cancelledByUser (by simp [isSet]) same
          refine leads_keepFollowing isNoted nextWorks nextShows
            fun scene keptShows => ih (nextWorks.reported []) keptShows ?_
          intro other waits
          cases free.symm.trans waits
        case passed =>
          obtain ⟨outcome, milliseconds, nextWorks, later⟩ :=
            works.delivered steady waiting due
          refine leads_keepFollowing isNoted nextWorks
            (shows.reply outcome milliseconds)
            fun scene keptShows => ih (nextWorks.reported []) keptShows ?_
          -- The next call is one of a later stage, so the rounds are enough.
          intro other waits
          have atLeast := enough call waiting
          have behind := later other waits
          omega

end Follow

/-- An operation is carried out to its end. -/
theorem leads_carryOut (steady : start.pursuit.IsSteady)
    {operation : RunOperation} {turn : Turn σ}
    (begun : Works start service events (rehearsal.begin turn) operation
      (noted ++ [.called operation]))
    (shows : first.Shows start events before noted scene) :
    (carryOut rehearsal start.assumesYes operation turn).Leads scene
      (fun carried last => (∀ working, carried.2 ≠ .working working) ∧
        ∃ later, Tracks start service (events ++ later) carried.1 carried.2 ∧
          first.Shows start (events ++ later) carried.1.service
            (start.notices (events ++ later)) last)
      failed (first.Halts start service) := by
  have called : first.Shows start events before
      (noted ++ [.called operation])
      { scene with operations := scene.operations ++ [.called operation] } := by
    refine ⟨shows.service, ?_, shows.dialogue⟩
    rw [shows.operations, List.append_assoc]
  refine .bind (leads_noteOperation (.bind
    (leads_keepPipeline _ called ?kept ?halted)))
  case halted =>
    exact fun _ _ lacks => halts_of_works (by simp) begun lacks
  case kept =>
    intro scene keptShows
    refine (leads_follow (by simp) steady (begun.reported []) keptShows _
      fun call _ => ?_).andThen ?_
    · exact Nat.le_trans (by decide) (Nat.le_add_left _ _)
    rintro ended last ⟨free, later, works, endShows⟩
    have rests : ∀ working,
        ended.during start.assumesYes operation ≠ .working working := by
      intro working isPhase
      cases (works.tracks.isSteady steady).fits with
      | working _ _ waiting => cases free.symm.trans waiting
      | paused isOther | invalid isOther | ended isOther =>
          cases isPhase.symm.trans isOther
    obtain ⟨tracks, isNoted⟩ := works
    unfold returned at isNoted
    unfold during at rests tracks
    cases isResult : ended.result with
    | none =>
        rw [isResult] at rests
        exact absurd rfl (rests operation)
    | some result =>
        rw [isResult] at rests tracks
        refine .bind (leads_noteOperation
          (leads_pure ⟨rests, later, tracks, ?_⟩))
        rw [isNoted, isResult]
        refine ⟨endShows.service, ?_, endShows.dialogue⟩
        rw [← List.append_assoc, ← endShows.operations]
        rfl

/-! ## Questions -/

section Questions

variable {question : RunQuestion} {run : Run}
  (tracks : Tracks start service events rehearsal (.asking question run))
  (asks : start.assumesYes = false)
include tracks asks

theorem shown_answer (yes : Bool) :
    start.pursuit.asked (events ++ [.answer yes]) =
      start.pursuit.asked events ++ [(question, yes)] ∧
    start.pursuit.fired (events ++ [.answer yes]) =
      start.pursuit.fired events := by
  have asksStart : start.pursuit.assumesYes = false := asks
  have shown := Pursuit.shown_answer tracks.phase_eq yes
  rw [asksStart] at shown
  exact shown

/-- The command may halt when a question was put whose answer is still to be
taken up. -/
theorem halts_of_asked (steady : start.pursuit.IsSteady) {yes : Bool}
    {wanted : Wanted} {last : Scene σ ς} (lacks : last.Lacks wanted)
    (shows : first.Shows start (events ++ [.answer yes]) rehearsal.service
      (start.notices events) last) :
    first.Halts start service wanted last := by
  have continues := shows.dialogue
  obtain ⟨nextAsked, sameFired⟩ := shown_answer tracks asks yes
  rw [nextAsked, sameFired] at continues
  refine ⟨lacks, events, ?_, ⟨_, List.cons_ne_nil _ _, List.prefix_refl _,
    shows.operations⟩, [(question, yes)], continues, by simp [asks], ?_⟩
  · rw [shows.service]
    exact tracks.received
  · rw [tracks.reached]
    exact Pursuit.questionsLeft_pos (tracks.isSteady steady).fits rfl

/-- A question is answered; if the user interrupted the command instead, the
handle was fired before. -/
theorem shows_asked {earlier : List PursuitEvent} {yes interrupted : Bool}
    (shows : first.Shows start earlier before (start.notices earlier) scene)
    (sameNoted : start.notices events = start.notices earlier)
    (sameAsked : start.pursuit.asked events = start.pursuit.asked earlier)
    (isFired : (start.pursuit.fired events).length =
      (start.pursuit.fired earlier).length + if interrupted then 1 else 0)
    {console : Console} (isAsked : scene.console.dialogue.ask question.text
      question.default = ((yes, interrupted), console.dialogue)) :
    first.Shows start (events ++ [.answer yes]) before (start.notices events)
      { scene with console } := by
  obtain ⟨nextAsked, sameFired⟩ := shown_answer tracks asks yes
  rw [sameNoted]
  refine ⟨shows.service, shows.operations, ?_⟩
  rw [nextAsked, sameFired, sameAsked, isFired]
  exact shows.dialogue.ask isAsked

/-- A question is put, and the pursuit is still to take up the answer.  While
the question is open, only the cancel handle can be fired. -/
theorem leads_confirmRun (steady : start.pursuit.IsSteady)
    (shows : first.Shows start events rehearsal.service
      (start.notices events) scene) :
    (confirmRun rehearsal question).Leads scene
      (fun asked last => ∃ later,
        Tracks start service (events ++ later) asked.1 (.asking question run) ∧
          first.Shows start (events ++ later ++ [.answer asked.2])
            asked.1.service (start.notices (events ++ later)) last)
      failed (first.Halts start service) := by
  refine .bind (leads_confirm ?answered ?halted)
  case halted =>
    intro console noneLeft staysOpen isAsked
    exact halts_of_asked tracks asks steady (.line _ noneLeft staysOpen)
      (shows_asked tracks asks shows rfl rfl rfl isAsked)
  case answered =>
    rintro ⟨yes, interrupted⟩ console isAsked
    cases interrupted with
    | false =>
        refine leads_pure ⟨[], ?_⟩
        rw [List.append_nil]
        exact ⟨tracks, shows_asked tracks asks shows rfl rfl rfl isAsked⟩
    | true =>
        obtain ⟨cancelled, sameNoted⟩ := tracks.cancel cancelledByUser
        have notOver : (start.pursuit.after events).phase.isOver = false := by
          rw [tracks.phase_eq]
          rfl
        obtain ⟨sameAsked, nextFired⟩ :=
          Pursuit.shown_cancel notOver cancelledByUser
        have asked := shows_asked cancelled asks shows sameNoted sameAsked
          (by rw [nextFired, List.length_append]; rfl) isAsked
        refine .bind (leads_keepPipeline _ asked ?_ ?_)
        · intro last keptShows
          exact leads_pure ⟨_, cancelled.reported [], keptShows⟩
        · exact fun _ _ => halts_of_asked cancelled asks steady

end Questions

/-- A user who assumes yes is not asked. -/
theorem leads_askAbout (steady : start.pursuit.IsSteady)
    {question : RunQuestion} {run : Run}
    (tracks : Tracks start service events rehearsal (.asking question run))
    (shows : first.Shows start events rehearsal.service
      (start.notices events) scene) :
    (askAbout start.assumesYes rehearsal question).Leads scene
      (fun asked last => (start.assumesYes || asked.2) = asked.2 ∧ ∃ later,
        Tracks start service (events ++ later) asked.1 (.asking question run) ∧
          first.Shows start (events ++ later ++ [.answer asked.2])
            asked.1.service (start.notices (events ++ later)) last)
      failed (first.Halts start service) := by
  unfold askAbout
  split
  next assumes =>
    have assumesStart : start.pursuit.assumesYes = true := assumes
    obtain ⟨sameAsked, sameFired⟩ :=
      Pursuit.shown_answer tracks.phase_eq true
    rw [assumesStart] at sameAsked
    refine leads_pure ⟨Bool.or_true _, [], ?_⟩
    rw [List.append_nil]
    refine ⟨tracks, shows.service, shows.operations, ?_⟩
    rw [sameAsked, sameFired, if_pos rfl, List.append_nil]
    exact shows.dialogue
  next asks =>
    refine (leads_confirmRun tracks (by simpa using asks) steady shows).imp ?_
    intro asked last tracked
    exact ⟨by simp [asks], tracked⟩

/-! ## Pursuits -/

theorem leads_endPursuit (steady : start.pursuit.IsSteady)
    {ending : PursuitEnd}
    (isOver : (start.pursuit.after events).phase = .ended ending)
    (performs : first.Performs start service events scene)
    {halted : Wanted → Scene σ ς → Prop} :
    (endPursuit ending).Leads scene (first.Leaves start service)
      (first.Fails start service) halted := by
  cases ending with
  | left run remark =>
      cases remark with
      | none => exact leads_pure ⟨events, none, performs, isOver⟩
      | some remark =>
          refine .bind (leads_colors (.bind (leads_onConsole ?_)))
          exact leads_pure ⟨events, remark, ⟨performs.received,
            performs.operations, performs.dialogue⟩, isOver⟩
  | failed error => exact leads_failed ⟨events, error, rfl, performs, isOver⟩
  | unfinished run =>
      cases (steady.after events).fits with
      | ended isEnding _ isEnd =>
          cases isOver.symm.trans isEnding
          exact absurd rfl (isEnd run)
      | working isOther | paused isOther | invalid isOther =>
          cases isOver.symm.trans isOther

theorem performs_of_tracks {phase : PursuitPhase}
    (tracks : Tracks start service events rehearsal phase)
    (shows : first.Shows start events rehearsal.service
      (start.notices events) scene) :
    first.Performs start service events scene where
  received := by
    rw [shows.service]
    exact tracks.received
  operations := shows.operations
  dialogue := shows.dialogue

/-- The questions that are left are enough: every performance is a pursuit
that comes to its end. -/
theorem leads_pursue (steady : start.pursuit.IsSteady) (rounds : Nat)
    {phase : PursuitPhase}
    (tracks : Tracks start service events rehearsal phase)
    (shows : first.Shows start events rehearsal.service
      (start.notices events) scene)
    (rests : ∀ working, phase ≠ .working working)
    (enough : (start.pursuit.after events).questionsLeft ≤ rounds) :
    (pursue start.assumesYes rehearsal phase rounds).Leads scene
      (first.Leaves start service) (first.Fails start service)
      (first.Halts start service) := by
  induction rounds generalizing rehearsal events scene phase with
  | zero =>
      cases phase with
      | working operation => exact absurd rfl (rests operation)
      | ended ending =>
          exact leads_endPursuit steady tracks.phase_eq
            (performs_of_tracks tracks shows)
      | asking question run =>
          have atLeast := Pursuit.questionsLeft_pos
            (tracks.isSteady steady).fits rfl
          rw [tracks.reached] at enough
          omega
  | succ more ih =>
      cases phase with
      | working operation => exact absurd rfl (rests operation)
      | ended ending =>
          exact leads_endPursuit steady tracks.phase_eq
            (performs_of_tracks tracks shows)
      | asking question run =>
          unfold pursue
          refine (leads_askAbout steady tracks shows).andThen ?_
          rintro ⟨asked, yes⟩ scene ⟨answers, later, tracked, answered⟩
          dsimp only at answers tracked answered ⊢
          have fewer := Pursuit.questionsLeft_after (steady.after events) later
          rw [← Pursuit.after_append] at fewer
          cases answer : asked.pipeline.operationFor yes question with
          | none =>
              rw [← answers] at answer
              obtain ⟨isOver, sameRequests, sameNoted⟩ := tracked.leave answer
              refine leads_endPursuit steady isOver ⟨?_, ?_,
                answered.dialogue⟩
              · rw [sameRequests, answered.service]
                exact tracked.received
              · rw [sameNoted]
                exact answered.operations
          | some called =>
              obtain ⟨operation, turn⟩ := called
              have leads := answer
              rw [← answers] at leads
              obtain ⟨begun, oneLess⟩ := tracked.begin steady rfl leads
              refine (leads_carryOut steady begun answered).andThen ?_
              rintro ⟨next, phase⟩ scene ⟨nextRests, rest, nextTracks,
                nextShows⟩
              -- The answer has used up a question, and none was added since.
              have noMore := Pursuit.questionsLeft_after
                (steady.after (events ++ later ++ [.answer yes])) rest
              rw [← Pursuit.after_append] at noMore
              exact ih nextTracks nextShows nextRests (by omega)

/-- Every performance on a new pipeline is a pursuit that comes to its end:
with the run that the command returns, or with the error that it reports,
unless it halts for a line or an answer that the scene lacks. -/
theorem leads_drive (history : History σ) (supply : Supply)
    (maxAttempts : UInt32) (service : ς) (assumesYes : Bool)
    (request : RunRequest) (registry : ModelRegistry) (first : Scene σ ς) :
    let start : PursuitStart σ :=
      ⟨.new history supply maxAttempts, assumesYes, request, registry⟩
    (drive assumesYes (.new start.pipeline service) request registry).Leads
      first (first.Leaves start service) (first.Fails start service)
      (first.Halts start service) := by
  intro start
  have steady : start.pursuit.IsSteady :=
    Pursuit.begin_isSteady history supply maxAttempts assumesYes request
      registry
  have attempts : start.pursuit.attemptsLeft = maxAttempts.toNat - 1 :=
    Pursuit.attemptsLeft_begin history supply maxAttempts assumesYes request
      registry
  have questions := start.pursuit.questionsLeft_le
  have checkpoints := start.pursuit.checkpointsLeft_le
  have begun : Works start service []
      ((PipelineRehearsal.new start.pipeline service).begin start.turn) .start
        ([] ++ [.called .start]) := by
    have undisturbed : (PipelineRehearsal.new start.pipeline
        service).interruption = none := rfl
    refine works_start undisturbed ?_
    rcases Pursuit.start_new history supply maxAttempts request registry with
      ⟨error, isTurn⟩ | isTurn
    · simp only [PursuitStart.turn, start, isTurn]
      intro waits
      cases waits
    · simp only [PursuitStart.turn, start, isTurn]
      intro _
      exact ⟨_, List.mem_append_right _
        (List.mem_cons_of_mem _ List.mem_cons_self)⟩
  have opening : first.Shows start [] first.world.service [] first :=
    ⟨rfl, (List.append_nil _).symm, Dialogue.continues_nothing _⟩
  refine (leads_carryOut steady begun opening).andThen ?_
  rintro ⟨next, phase⟩ scene ⟨rests, later, tracks, shows⟩
  have left := Pursuit.questionsLeft_after steady later
  exact leads_pursue steady _ tracks shows rests (by
    change _ ≤ maxAttempts.toNat + 1
    rw [List.nil_append]
    omega)

end Act

end AgentPipeline
