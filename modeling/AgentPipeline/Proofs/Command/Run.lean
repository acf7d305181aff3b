import AgentPipeline.Proofs.Command.Pursuit

/-!
# What the command does for one run

The command performs the pursuit of one run.  However the service and the user
answer and whenever the user interrupts it, it calls no more operations, asks
no more questions and makes no more calls than one run takes.  Main
statements: `drive_endsInTime` and `asks_after_fire`.
-/

namespace AgentPipeline

/-- The operations that were called, in order. -/
def calledOperations (noted : List OperationNotice) : List RunOperation :=
  noted.filterMap OperationNotice.called?

/-- The operations that are called for one run that may make a number of
further attempts.  Only its start may be refused. -/
structure CallsInTime (noted : List OperationNotice) (assumesYes : Bool)
    (furtherAttempts : Nat) : Prop where
  starts : (calledOperations noted).count .start = 1
  continues : (calledOperations noted).count .continueRun ≤ 1
  regenerates :
    (calledOperations noted).count .regenerate ≤ furtherAttempts
  assumed : assumesYes = true → .regenerate ∉ calledOperations noted
  accepted : ∀ operation error,
    .returned operation (.error error) ∈ noted → operation = .start ∨
      ∃ stage message, error = .stage stage message

/-- What begins in time is in time, once the start is noted. -/
theorem CallsInTime.of_part {noted further : List OperationNotice}
    {assumesYes : Bool} {furtherAttempts : Nat}
    (inTime : CallsInTime further assumesYes furtherAttempts)
    (isPart : noted <+: further) (isStarted : .start ∈ calledOperations noted) :
    CallsInTime noted assumesYes furtherAttempts := by
  have within : (calledOperations noted).Sublist (calledOperations further) :=
    isPart.sublist.filterMap _
  refine ⟨?_, ?_, ?_, ?_, ?_⟩
  · have atMost := within.count_le .start
    rw [inTime.starts] at atMost
    exact Nat.le_antisymm atMost (List.count_pos_iff.mpr isStarted)
  · exact Nat.le_trans (within.count_le _) inTime.continues
  · exact Nat.le_trans (within.count_le _) inTime.regenerates
  · exact fun assumes called => inTime.assumed assumes (within.subset called)
  · exact fun operation error returned =>
      inTime.accepted operation error (isPart.subset returned)

section Start

variable {σ : Type} [KeyValueStore σ]

theorem calledOperations_notices (start : PursuitStart σ)
    (events : List PursuitEvent) :
    calledOperations (start.notices events) =
      .start :: start.pursuit.calls events := by
  have atStart : (OperationNotice.called .start ::
      start.turn.returns .start).filterMap OperationNotice.called? =
        [.start] := by
    simp [OperationNotice.called?]
  rw [calledOperations, PursuitStart.notices, List.filterMap_append,
    Pursuit.filterMap_notices, atStart, List.singleton_append]

theorem callsInTime_notices {start : PursuitStart σ}
    (steady : start.pursuit.IsSteady) {furtherAttempts : Nat}
    {events : List PursuitEvent}
    (ends : start.pursuit.EndsInTime furtherAttempts events) :
    CallsInTime (start.notices events) start.assumesYes furtherAttempts := by
  have called := calledOperations_notices start events
  refine ⟨?_, ?_, ?_, ?_, ?_⟩
  · rw [called, List.count_cons_self, List.count_eq_zero.mpr ends.starts]
  · rw [called, List.count_cons_of_ne (by decide)]
    exact ends.continues
  · rw [called, List.count_cons_of_ne (by decide)]
    exact ends.regenerates
  · intro assumes isCalled
    rw [called] at isCalled
    rcases List.mem_cons.mp isCalled with isStart | later
    · cases isStart
    · exact (ends.assumed assumes).1 later
  · intro operation error returned
    rcases List.mem_append.mp returned with atStart | later
    · rcases List.mem_cons.mp atStart with isCall | isReturned
      · cases isCall
      · obtain ⟨_, _, same⟩ := Turn.mem_returns.mp isReturned
        cases same
        exact .inl rfl
    · exact .inr (Pursuit.stage_of_returned steady later)

/-- The calls that are made for one run: those of its stages, and two more in
every further attempt. -/
theorem requests_start_length_le (history : History σ) (supply : Supply)
    (maxAttempts : UInt32) (assumesYes : Bool) (request : RunRequest)
    (registry : ModelRegistry) (events : List PursuitEvent) :
    let start : PursuitStart σ :=
      ⟨.new history supply maxAttempts, assumesYes, request, registry⟩
    (start.requests events).length ≤ 4 + 2 * (maxAttempts.toNat - 1) := by
  intro start
  have steady : start.pursuit.IsSteady :=
    Pursuit.begin_isSteady history supply maxAttempts assumesYes request
      registry
  have attempts : start.pursuit.attemptsLeft = maxAttempts.toNat - 1 :=
    Pursuit.attemptsLeft_begin history supply maxAttempts assumesYes request
      registry
  have later := Pursuit.requests_length_le steady events
  have ahead := start.pursuit.requestsLeft_le
  have atStart : start.turn.requests.length ≤ 1 := by
    rcases Pursuit.start_new history supply maxAttempts request registry with
      ⟨error, isTurn⟩ | isTurn
    · simp [PursuitStart.turn, start, isTurn]
    · simp [PursuitStart.turn, start, isTurn]
  rw [PursuitStart.requests, List.length_append]
  omega

end Start

/-! ## In the scene -/

variable {σ ς : Type} [DelayedService ς]

/-- From one scene to another no more happens than one run takes: of the
operations that are called, of the calls that reach the service and of the
questions that are put. -/
structure Scene.KeepsWithin (first : Scene σ ς) (service : ς)
    (assumesYes : Bool) (furtherAttempts : Nat) (last : Scene σ ς) : Prop where
  operations : ∃ noted, last.operations = first.operations ++ noted ∧
    CallsInTime noted assumesYes furtherAttempts
  requests : ∃ requests, Receives service requests last.world.service ∧
    requests.length ≤ 4 + 2 * furtherAttempts
  prompts : ∃ prompts,
    last.console.prompts = first.console.prompts ++ prompts ∧
      prompts.length ≤ if assumesYes then 0 else 1 + furtherAttempts

/-- From one scene to another nothing was asked but whether to go on behind
the checkpoint, and a line that was typed declined it; the user did not
interrupt the command, neither before nor with that line. -/
def Scene.Declines (first last : Scene σ ς) : Prop :=
  ∃ line rest, first.console.typed = some (line :: rest) ∧
    Console.reading line true = (false, false) ∧
    last.console.dialogue = { first.console.dialogue with
      typed := some rest
      prompts := first.console.prompts ++ [RunQuestion.proceed.prompt] }

section Fresh

variable [KeyValueStore σ] (history : History σ) (supply : Supply)
  (maxAttempts : UInt32) (assumesYes : Bool) (request : RunRequest)
  (registry : ModelRegistry)

/-- The questions and the calls that are left at first are enough, whatever
part of the pursuit is performed. -/
theorem keepsWithin_of_part {service : ς} {events : List PursuitEvent}
    {first last : Scene σ ς}
    (part : first.PerformsPart
      ⟨.new history supply maxAttempts, assumesYes, request, registry⟩ service
        events last) :
    first.KeepsWithin service assumesYes (maxAttempts.toNat - 1) last := by
  let start : PursuitStart σ :=
    ⟨.new history supply maxAttempts, assumesYes, request, registry⟩
  replace part : first.PerformsPart start service events last := part
  have steady : start.pursuit.IsSteady :=
    Pursuit.begin_isSteady history supply maxAttempts assumesYes request
      registry
  refine ⟨?operations, ⟨_, part.received, ?requests⟩, ?prompts⟩
  case operations =>
    obtain ⟨noted, isNoted, isPart, operations⟩ := part.operations
    refine ⟨noted, operations, (callsInTime_notices steady
      (Pursuit.endsInTime_begin history supply maxAttempts assumesYes request
        registry events)).of_part isPart ?_⟩
    cases noted with
    | nil => exact absurd rfl isNoted
    | cons head rest =>
        obtain ⟨rfl, _⟩ := List.cons_prefix_cons.mp isPart
        exact List.mem_cons_self
  case requests =>
    rw [List.length_map]
    exact requests_start_length_le history supply maxAttempts assumesYes
      request registry events
  case prompts =>
    obtain ⟨asked, continues, notAsked, isLeft⟩ := part.dialogue
    refine ⟨_, continues.prompts, ?_⟩
    have prompts : (if first.console.dialogue.typed.isSome then
        (start.pursuit.asked events ++ asked).map (·.1.prompt)
          else []).length ≤ (start.pursuit.asked events ++ asked).length := by
      split
      next => exact Nat.le_of_eq (List.length_map _)
      next => exact Nat.zero_le _
    refine Nat.le_trans prompts ?_
    split
    next assumes =>
      rw [Pursuit.asked_of_assumes assumes, notAsked assumes]
      exact Nat.zero_le _
    next =>
      have attempts : start.pursuit.attemptsLeft = maxAttempts.toNat - 1 :=
        Pursuit.attemptsLeft_begin history supply maxAttempts assumesYes
          request registry
      have questions := start.pursuit.questionsLeft_le
      have checkpoints := start.pursuit.checkpointsLeft_le
      have answered := Pursuit.asked_length_le steady events
      rw [List.length_append]
      omega

end Fresh

namespace Act

/-- The command ends, however its questions and the calls are answered and
whenever the cancel handle is fired.  Whatever it performs in a scene is the
pursuit of one run, with no more operations, calls and questions than this
takes.  Unless it halts for a line or an answer that the scene lacks, it
returns the run that is left, or reports why an operation failed.  A paused
run is returned only if the user declined at the checkpoint. -/
theorem drive_endsInTime {σ : Type} [KeyValueStore σ] (history : History σ)
    (supply : Supply) (maxAttempts : UInt32) (assumesYes : Bool)
    (request : RunRequest) (registry : ModelRegistry) :
    let start : PursuitStart σ :=
      ⟨.new history supply maxAttempts, assumesYes, request, registry⟩
    let furtherAttempts := maxAttempts.toNat - 1
    (∀ events, start.pursuit.EndsInTime furtherAttempts events) ∧
      ∀ {ς : Type} [DelayedService ς] (service : ς) (first : Scene σ ς),
        (drive assumesYes (.new start.pipeline service) request
          registry).Leads first
          (fun run last => first.Leaves start service run last ∧
            first.KeepsWithin service assumesYes furtherAttempts last ∧
            (run.status = .pausedAtCheckpoint →
              assumesYes = false ∧ first.Declines last))
          (fun failure last => first.Fails start service failure last ∧
            first.KeepsWithin service assumesYes furtherAttempts last)
          (fun wanted last => first.Halts start service wanted last ∧
            first.KeepsWithin service assumesYes furtherAttempts last) := by
  intro start furtherAttempts
  refine ⟨Pursuit.endsInTime_begin history supply maxAttempts assumesYes
    request registry, ?_⟩
  intro ς _ service first
  have steady : start.pursuit.IsSteady :=
    Pursuit.begin_isSteady history supply maxAttempts assumesYes request
      registry
  have within : ∀ {events last},
      first.PerformsPart start service events last →
        first.KeepsWithin service assumesYes furtherAttempts last :=
    keepsWithin_of_part history supply maxAttempts assumesYes request registry
  refine (leads_drive history supply maxAttempts service assumesYes request
    registry first).mono ?left ?failed ?halted
  case failed =>
    rintro failure last fails
    obtain ⟨events, _, _, performs, _⟩ := id fails
    exact ⟨fails, within performs.part⟩
  case halted =>
    rintro wanted last halts
    obtain ⟨_, events, part⟩ := id halts
    exact ⟨halts, within part⟩
  case left =>
    rintro run last leaves
    obtain ⟨events, remark, performs, isOver⟩ := id leaves
    refine ⟨leaves, within performs.part, fun paused => ?_⟩
    have notYet : start.pursuit.phase ≠ .ended (.left run remark) :=
      Pursuit.begin_ne_left history supply maxAttempts assumesYes request
        registry run remark
    -- The first answer declined, and the handle was never fired.
    obtain ⟨asks, asked, fired⟩ :=
      Pursuit.declined_at_once steady notYet isOver paused
    have continues := performs.dialogue
    rw [asked, fired] at continues
    exact ⟨asks, continues.declined⟩

end Act

/-- After some calls a service that is overheard remembers them. -/
def OverheardService.Remembers {ς : Type} (service : OverheardService ς)
    (requests : List StageRequest) (later : OverheardService ς) : Prop :=
  later.requests = service.requests ++ requests.map .stage

namespace Act

/-- After the handle was fired a call is dispatched exactly when the user is
being asked whether to repeat an attempt, and the first answer is yes.  The
calls that the command makes in a scene are those of such a pursuit, in which
the handle is fired as often as the user interrupts the command. -/
theorem asks_after_fire {σ : Type} [KeyValueStore σ] (history : History σ)
    (supply : Supply) (maxAttempts : UInt32) (assumesYes : Bool)
    (request : RunRequest) (registry : ModelRegistry) :
    let start : PursuitStart σ :=
      ⟨.new history supply maxAttempts, assumesYes, request, registry⟩
    (∀ before reason later,
      let pursuit := start.pursuit.after before
      let further := (pursuit.next (.fire reason)).requests later
      (further ≠ [] ↔ (∃ run, pursuit.phase = .asking .regenerate run) ∧
        later.findSome? PursuitEvent.answer? = some true) ∧
      start.requests (before ++ .fire reason :: later) =
        start.requests before ++ further) ∧
    ∀ {ς : Type} [DelayedService ς] (service : OverheardService ς)
      (first : Scene σ (OverheardService ς)),
      (drive assumesYes (.new start.pipeline service) request registry).Leads
        first
        (fun _ last => ∃ events, first.Performs start service events last ∧
          service.Remembers (start.requests events) last.world.service)
        (fun _ last => ∃ events, first.Performs start service events last ∧
          service.Remembers (start.requests events) last.world.service)
        (fun _ last => ∃ events, first.PerformsPart start service events last ∧
          service.Remembers (start.requests events) last.world.service) := by
  intro start
  refine ⟨?iff, ?performs⟩
  case iff =>
    intro before reason later pursuit further
    refine ⟨Pursuit.requests_after_fire history supply maxAttempts assumesYes
      request registry before reason later, ?_⟩
    rw [PursuitStart.requests, PursuitStart.requests, Pursuit.requests,
      Pursuit.along_append, ← List.append_assoc]
    rfl
  case performs =>
    intro ς _ service first
    refine (leads_drive history supply maxAttempts service assumesYes request
      registry first).mono ?leaves ?fails ?halts
    case leaves =>
      rintro run last ⟨events, _, performs, _⟩
      exact ⟨events, performs, performs.received.requests_eq⟩
    case fails =>
      rintro failure last ⟨events, _, _, performs, _⟩
      exact ⟨events, performs, performs.received.requests_eq⟩
    case halts =>
      rintro wanted last ⟨_, events, part⟩
      exact ⟨events, part, part.received.requests_eq⟩

end Act

end AgentPipeline
