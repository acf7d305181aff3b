import AgentPipeline.Proofs.Cancellation.Source

/-!
# Tasks that wait for tokens

Sources are added and cloned, issue tokens and cancel them, while tasks wait
for the tokens.  A task that is woken does not go on at once: it is scheduled,
and looks at its token when its turn comes.  Any order of these steps is a
schedule of one event loop.

Main statement: `obeys_after`.
-/

namespace AgentPipeline

/-- What can happen next on the event loop. -/
inductive CancelStep where
  | addSource
  | clone (source : Nat)
  | issue (source : Nat)
  | cancel (source : Nat) (reason : String)
  /-- A new task is to wait for an issued token. -/
  | await (issued : IssuedToken)
  /-- A scheduled task has its turn. -/
  | run (task : Nat)
deriving DecidableEq, Repr

/-- The sources and the tasks; a task is known by the number of tasks that were
started before it. -/
structure CancelTasks where
  world : CancelSources
  /-- The token of every task. -/
  awaited : List IssuedToken
  /-- The tasks that are scheduled. -/
  ready : List Nat
  /-- The tasks that have seen their token cancelled. -/
  resumed : List Nat
deriving DecidableEq, Repr

namespace CancelSources

/-- Why a step cancels a token that was issued before it: its group issues a
later token, or is cancelled while the token is current. -/
def ending? (world : CancelSources) (issued : IssuedToken) :
    CancelStep → Option String
  | .issue source => world.issueReason? source issued
  | .cancel source reason => world.cancelReason? source reason issued
  | .addSource | .clone _ | .await _ | .run _ => none

end CancelSources

namespace CancelTasks

def initial : CancelTasks := ⟨.initial, [], [], []⟩

/-- A task looks at its token, and goes on or is parked. -/
def look (tasks : CancelTasks) (task : Nat) (issued : IssuedToken) :
    CancelTasks :=
  let (world, goesOn) := tasks.world.wait task issued
  { tasks with
    world
    ready := tasks.ready.filter (· ≠ task)
    resumed := if goesOn then task :: tasks.resumed else tasks.resumed }

/-- A scheduled task has its turn. -/
def run (tasks : CancelTasks) (task : Nat) : CancelTasks :=
  match tasks.awaited[task]? with
  | some issued =>
      if task ∈ tasks.ready then tasks.look task issued else tasks
  | none => tasks

/-- A task is started that waits for an issued token. -/
def await (tasks : CancelTasks) (issued : IssuedToken) : CancelTasks :=
  if tasks.world.hasIssued issued then
    { tasks with
      awaited := tasks.awaited ++ [issued]
      ready := tasks.ready ++ [tasks.awaited.length] }
  else tasks

/-- The tasks that are woken are scheduled. -/
def schedule (tasks : CancelTasks) (world : CancelSources) (woken : List Nat) :
    CancelTasks :=
  { tasks with world, ready := tasks.ready ++ woken }

def perform (tasks : CancelTasks) : CancelStep → CancelTasks
  | .addSource => tasks.schedule tasks.world.addSource []
  | .clone source => tasks.schedule (tasks.world.clone source) []
  | .issue source =>
      let (world, _, woken) := tasks.world.issue source
      tasks.schedule world woken
  | .cancel source reason =>
      let (world, _, woken) := tasks.world.cancel source reason
      tasks.schedule world woken
  | .await issued => tasks.await issued
  | .run task => tasks.run task

def after (tasks : CancelTasks) (steps : List CancelStep) : CancelTasks :=
  steps.foldl perform tasks

@[simp]
theorem after_nil (tasks : CancelTasks) : tasks.after [] = tasks := rfl

@[simp]
theorem after_cons (tasks : CancelTasks) (step : CancelStep)
    (later : List CancelStep) :
    tasks.after (step :: later) = (tasks.perform step).after later := rfl

/-- The reasons that the steps give to a token, in their order. -/
def endings (tasks : CancelTasks) (issued : IssuedToken) :
    List CancelStep → List String
  | [] => []
  | step :: later =>
      (tasks.world.ending? issued step).toList ++
        (tasks.perform step).endings issued later

/-! ## One step -/

variable {tasks : CancelTasks}

/-- A task has its turn, or nothing happens. -/
theorem run_cases (tasks : CancelTasks) (task : Nat) :
    tasks.run task = tasks ∨
      ∃ issued, tasks.awaited[task]? = some issued ∧ task ∈ tasks.ready ∧
        tasks.run task = tasks.look task issued := by
  unfold run
  cases awaits : tasks.awaited[task]? with
  | none => exact .inl rfl
  | some issued =>
      by_cases isReady : task ∈ tasks.ready
      · exact .inr ⟨issued, rfl, isReady, if_pos isReady⟩
      · exact .inl (if_neg isReady)

theorem await_cases (tasks : CancelTasks) (issued : IssuedToken) :
    tasks.await issued = tasks ∨ tasks.world.hasIssued issued = true ∧
      tasks.await issued =
        { tasks with
          awaited := tasks.awaited ++ [issued]
          ready := tasks.ready ++ [tasks.awaited.length] } := by
  by_cases known : tasks.world.hasIssued issued = true
  · exact .inr ⟨known, if_pos known⟩
  · exact .inl (if_neg known)

theorem world_await (tasks : CancelTasks) (issued : IssuedToken) :
    (tasks.await issued).world = tasks.world := by
  rcases tasks.await_cases issued with nothing | ⟨-, isStarted⟩
  · rw [nothing]
  · rw [isStarted]

theorem look_of_cancelled {task : Nat} {issued : IssuedToken}
    (cancelled : tasks.world.isCancelled issued = true) :
    tasks.look task issued =
      { tasks with
        ready := tasks.ready.filter (· ≠ task)
        resumed := task :: tasks.resumed } := by
  simp [look, CancelSources.wait, cancelled]

theorem look_of_open {task : Nat} {issued : IssuedToken}
    (isOpen : tasks.world.isCancelled issued = false) :
    tasks.look task issued =
      { tasks with
        world := { tasks.world with
          parked := (task, issued) :: tasks.world.parked }
        ready := tasks.ready.filter (· ≠ task) } := by
  simp [look, CancelSources.wait, isOpen]

theorem continues_look (tasks : CancelTasks) (task : Nat)
    (issued : IssuedToken) :
    tasks.world.Continues (tasks.look task issued).world := by
  cases status : tasks.world.isCancelled issued with
  | true =>
      rw [look_of_cancelled status]
      exact .refl _
  | false =>
      rw [look_of_open status]
      exact ⟨id, id⟩

/-- A step leaves the sources in their groups and the tokens issued. -/
theorem continues_perform (tasks : CancelTasks) (step : CancelStep) :
    tasks.world.Continues (tasks.perform step).world := by
  cases step with
  | addSource => exact tasks.world.continues_addSource
  | clone source => exact tasks.world.continues_clone source
  | issue source => exact tasks.world.continues_issue source
  | cancel source reason => exact tasks.world.continues_cancel source reason
  | await issued => exact tasks.world_await issued ▸ .refl tasks.world
  | run task =>
      change tasks.world.Continues (tasks.run task).world
      rcases tasks.run_cases task with nothing | ⟨issued, -, -, looks⟩
      · rw [nothing]
        exact .refl tasks.world
      · rw [looks]
        exact tasks.continues_look task issued

theorem reason?_look (tasks : CancelTasks) (task : Nat)
    (awaited issued : IssuedToken) :
    (tasks.look task awaited).world.reason? issued =
      tasks.world.reason? issued := by
  cases status : tasks.world.isCancelled awaited with
  | true => rw [look_of_cancelled status]
  | false =>
      rw [look_of_open status]
      rfl

/-- A step gives a reason to a token that it ends and that has none yet. -/
theorem reason?_perform (ordered : tasks.world.AreOrdered) (step : CancelStep)
    {issued : IssuedToken} (known : tasks.world.hasIssued issued = true) :
    (tasks.perform step).world.reason? issued =
      (tasks.world.reason? issued <|> tasks.world.ending? issued step) := by
  have unended : ∀ reason : Option String, (reason <|> none) = reason := by
    simp
  cases step with
  | issue source => exact CancelSources.reason?_issue ordered source known
  | cancel source reason =>
      exact tasks.world.reason?_cancel source reason issued
  | addSource =>
      exact (tasks.world.reason?_addSource issued).trans (unended _).symm
  | clone source =>
      exact (tasks.world.reason?_clone source issued).trans (unended _).symm
  | await awaited =>
      exact (congrArg (·.reason? issued) (tasks.world_await awaited)).trans
        (unended _).symm
  | run task =>
      refine Eq.trans ?_ (unended _).symm
      change (tasks.run task).world.reason? issued = _
      rcases tasks.run_cases task with nothing | ⟨awaited, -, -, looks⟩
      · rw [nothing]
      · rw [looks, reason?_look]

/-! ## The invariant -/

/-- The sources are sound, and no task is forgotten: it is scheduled, it is
parked for its token, or it has gone on because the token was cancelled. -/
structure IsSound (tasks : CancelTasks) : Prop where
  world : tasks.world.IsSound
  known : ∀ (task : Nat) issued, tasks.awaited[task]? = some issued →
    tasks.world.hasIssued issued = true
  kept : ∀ (task : Nat) issued, tasks.awaited[task]? = some issued →
    task ∈ tasks.ready ∨ (task, issued) ∈ tasks.world.parked ∨
      task ∈ tasks.resumed
  resumed : ∀ task ∈ tasks.resumed, ∃ issued : IssuedToken,
    tasks.awaited[task]? = some issued ∧
      tasks.world.isCancelled issued = true

theorem isSound_initial : initial.IsSound :=
  ⟨CancelSources.isSound_initial, nofun, nofun, nofun⟩

/-- A token keeps its first reason. -/
theorem keeps_perform (sound : tasks.world.IsSound) (step : CancelStep)
    {issued : IssuedToken} {reason : String}
    (isReason : tasks.world.reason? issued = some reason) :
    (tasks.perform step).world.reason? issued = some reason := by
  have cancelled : tasks.world.isCancelled issued = true := by
    rw [CancelSources.isCancelled_eq, isReason]
    rfl
  rw [reason?_perform sound.ordered step
    (CancelSources.hasIssued_of_isCancelled cancelled), isReason]
  rfl

theorem isCancelled_perform (sound : tasks.world.IsSound) (step : CancelStep)
    {issued : IssuedToken}
    (cancelled : tasks.world.isCancelled issued = true) :
    (tasks.perform step).world.isCancelled issued = true := by
  rw [CancelSources.isCancelled_eq] at cancelled ⊢
  obtain ⟨reason, isReason⟩ := Option.isSome_iff_exists.mp cancelled
  rw [keeps_perform sound step isReason]
  rfl

/-- The parked tasks that a step does not wake wait on. -/
theorem IsSound.schedule (sound : tasks.IsSound) {world : CancelSources}
    {woken : List Nat} (isSound : world.IsSound)
    (continues : tasks.world.Continues world)
    (lasting : ∀ issued, tasks.world.isCancelled issued = true →
      world.isCancelled issued = true)
    (wakes : ∀ waiting ∈ tasks.world.parked,
      waiting.1 ∈ woken ∨ waiting ∈ world.parked) :
    (tasks.schedule world woken).IsSound where
  world := isSound
  known task issued awaits :=
    continues.hasIssued (sound.known task issued awaits)
  kept task issued awaits := by
    rcases sound.kept task issued awaits with isReady | isParked | hasResumed
    · exact .inl (List.mem_append_left _ isReady)
    · rcases wakes _ isParked with isWoken | isParked
      · exact .inl (List.mem_append_right _ isWoken)
      · exact .inr (.inl isParked)
    · exact .inr (.inr hasResumed)
  resumed task hasResumed := by
    obtain ⟨issued, awaits, cancelled⟩ := sound.resumed task hasResumed
    exact ⟨issued, awaits, lasting issued cancelled⟩

/-- A task that was started is scheduled. -/
theorem IsSound.await (sound : tasks.IsSound) (issued : IssuedToken) :
    (tasks.await issued).IsSound := by
  rcases tasks.await_cases issued with nothing | ⟨known, isStarted⟩
  · rw [nothing]
    exact sound
  rw [isStarted]
  have split : ∀ {task : Nat} {other : IssuedToken},
      (tasks.awaited ++ [issued])[task]? = some other →
      tasks.awaited[task]? = some other ∨
        task = tasks.awaited.length ∧ other = issued := by
    intro task other awaits
    rcases Nat.lt_or_ge task tasks.awaited.length with before | behind
    · exact .inl ((List.getElem?_append_left before).symm.trans awaits)
    · rw [List.getElem?_append_right behind, List.getElem?_singleton] at awaits
      split at awaits
      · exact .inr ⟨by omega, (Option.some.inj awaits).symm⟩
      · cases awaits
  refine ⟨sound.world, ?known, ?kept, ?resumed⟩
  case known =>
    intro task other awaits
    rcases split awaits with awaits | ⟨-, rfl⟩
    · exact sound.known task other awaits
    · exact known
  case kept =>
    intro task other awaits
    rcases split awaits with awaits | ⟨rfl, rfl⟩
    · exact (sound.kept task other awaits).imp_left (List.mem_append_left _)
    · exact .inl (List.mem_append_right _ (List.mem_singleton_self _))
  case resumed =>
    intro task hasResumed
    obtain ⟨other, awaits, cancelled⟩ := sound.resumed task hasResumed
    have inside := (List.getElem?_eq_some_iff.mp awaits).1
    exact ⟨other, (List.getElem?_append_left inside).trans awaits, cancelled⟩

/-- A task that has its turn goes on or is parked. -/
theorem IsSound.look (sound : tasks.IsSound) {task : Nat}
    {issued : IssuedToken} (awaits : tasks.awaited[task]? = some issued) :
    (tasks.look task issued).IsSound := by
  have stays : ∀ {other : Nat}, other ∈ tasks.ready → other ≠ task →
      other ∈ tasks.ready.filter (· ≠ task) := by
    intro other isReady different
    exact List.mem_filter.mpr ⟨isReady, by simpa using different⟩
  have known := sound.known task issued awaits
  cases status : tasks.world.isCancelled issued with
  | true =>
      rw [look_of_cancelled status]
      refine ⟨sound.world, sound.known, fun other awaited otherAwaits => ?_, ?_⟩
      · by_cases same : other = task
        · exact .inr (.inr (same ▸ List.mem_cons_self))
        · exact (sound.kept other awaited otherAwaits).imp (stays · same)
            (.imp_right (List.mem_cons_of_mem task))
      · exact List.forall_mem_cons.mpr ⟨⟨issued, awaits, status⟩, sound.resumed⟩
  | false =>
      rw [look_of_open status]
      refine ⟨?_, sound.known, fun other awaited otherAwaits => ?_,
        sound.resumed⟩
      · have isSound := sound.world.wait task known
        rwa [CancelSources.wait, status] at isSound
      · by_cases same : other = task
        · obtain rfl : awaited = issued := by
            rw [same, awaits] at otherAwaits
            exact (Option.some.inj otherAwaits).symm
          exact .inr (.inl (same ▸ List.mem_cons_self))
        · exact (sound.kept other awaited otherAwaits).imp (stays · same)
            (.imp_left (List.mem_cons_of_mem _))

theorem IsSound.perform (sound : tasks.IsSound) (step : CancelStep) :
    (tasks.perform step).IsSound := by
  have continues := tasks.continues_perform step
  have lasting : ∀ issued, tasks.world.isCancelled issued = true →
      (tasks.perform step).world.isCancelled issued = true :=
    fun _ => isCancelled_perform sound.world step
  cases step with
  | addSource =>
      exact sound.schedule sound.world.addSource continues lasting
        fun _ isParked => .inr isParked
  | clone source =>
      refine sound.schedule (sound.world.clone source) continues lasting
        fun _ isParked => .inr ?_
      rwa [CancelSources.parked_clone]
  | issue source =>
      exact sound.schedule (sound.world.issue source) continues lasting
        fun _ isParked => CancelSources.woken_or_parked_issue source isParked
  | cancel source reason =>
      exact sound.schedule (sound.world.cancel source reason) continues lasting
        fun _ isParked =>
          CancelSources.woken_or_parked_cancel source reason isParked
  | await issued => exact sound.await issued
  | run task =>
      change (tasks.run task).IsSound
      rcases tasks.run_cases task with nothing | ⟨issued, awaits, -, looks⟩
      · rw [nothing]
        exact sound
      · rw [looks]
        exact sound.look awaits

/-! ## A whole run -/

theorem IsSound.after (sound : tasks.IsSound) (steps : List CancelStep) :
    (tasks.after steps).IsSound := by
  induction steps generalizing tasks with
  | nil => exact sound
  | cons step later induction => exact induction (sound.perform step)

theorem continues_after (tasks : CancelTasks) (steps : List CancelStep) :
    tasks.world.Continues (tasks.after steps).world := by
  induction steps generalizing tasks with
  | nil => exact .refl tasks.world
  | cons step later induction =>
      exact (tasks.continues_perform step).trans (induction _)

/-- A token has the reason of what ended it first. -/
theorem reason?_after (sound : tasks.IsSound) {issued : IssuedToken}
    (known : tasks.world.hasIssued issued = true) (steps : List CancelStep) :
    (tasks.after steps).world.reason? issued =
      (tasks.world.reason? issued <|>
        (tasks.endings issued steps).head?) := by
  induction steps generalizing tasks with
  | nil => simp [endings]
  | cons step later induction =>
      rw [after_cons, induction (sound.perform step)
        ((tasks.continues_perform step).hasIssued known),
        reason?_perform sound.world.ordered step known, endings]
      cases tasks.world.reason? issued <;>
        cases tasks.world.ending? issued step <;> rfl

/-- There is a reason as soon as one step ends the token. -/
theorem isSome_endings_iff (tasks : CancelTasks) (issued : IssuedToken)
    (steps : List CancelStep) :
    (tasks.endings issued steps).head?.isSome = true ↔
      ∃ earlier step rest, steps = earlier ++ step :: rest ∧
        ((tasks.after earlier).world.ending? issued step).isSome = true := by
  induction steps generalizing tasks with
  | nil => simp [endings]
  | cons step later induction =>
      rw [endings]
      cases ends : tasks.world.ending? issued step with
      | some reason =>
          exact iff_of_true rfl ⟨[], step, later, rfl, by simp [ends]⟩
      | none =>
          rw [Option.toList_none, List.nil_append, induction]
          constructor
          · rintro ⟨earlier, other, rest, rfl, ending⟩
            exact ⟨step :: earlier, other, rest, rfl, ending⟩
          · rintro ⟨_ | ⟨first, earlier⟩, other, rest, parts, ending⟩
            · obtain ⟨rfl, rfl⟩ := List.cons.inj parts
              simp [ends] at ending
            · obtain ⟨rfl, rfl⟩ := List.cons.inj parts
              exact ⟨earlier, other, rest, rfl, ending⟩

/-- A task goes on waiting for the token it was started with. -/
theorem awaited_perform (step : CancelStep) {task : Nat}
    {issued : IssuedToken} (awaits : tasks.awaited[task]? = some issued) :
    (tasks.perform step).awaited[task]? = some issued := by
  cases step with
  | addSource | clone | issue | cancel => exact awaits
  | await other =>
      have inside := (List.getElem?_eq_some_iff.mp awaits).1
      change (tasks.await other).awaited[task]? = some issued
      rcases tasks.await_cases other with nothing | ⟨-, isStarted⟩
      · rwa [nothing]
      · rw [isStarted]
        exact (List.getElem?_append_left inside).trans awaits
  | run other =>
      change (tasks.run other).awaited[task]? = some issued
      rcases tasks.run_cases other with nothing | ⟨awaited, -, -, looks⟩
      · rwa [nothing]
      · rwa [looks]

/-- A task that has gone on does not wait again. -/
theorem resumed_perform (step : CancelStep) {task : Nat}
    (hasResumed : task ∈ tasks.resumed) :
    task ∈ (tasks.perform step).resumed := by
  cases step with
  | addSource | clone | issue | cancel => exact hasResumed
  | await other =>
      change task ∈ (tasks.await other).resumed
      rcases tasks.await_cases other with nothing | ⟨-, isStarted⟩
      · rwa [nothing]
      · rwa [isStarted]
  | run other =>
      change task ∈ (tasks.run other).resumed
      rcases tasks.run_cases other with nothing | ⟨awaited, -, -, looks⟩
      · rwa [nothing]
      · rw [looks, look]
        split
        split
        · exact List.mem_cons_of_mem other hasResumed
        · exact hasResumed

theorem resumed_after (steps : List CancelStep) {task : Nat}
    (hasResumed : task ∈ tasks.resumed) :
    task ∈ (tasks.after steps).resumed := by
  induction steps generalizing tasks with
  | nil => exact hasResumed
  | cons step later induction =>
      exact induction (resumed_perform step hasResumed)

/-- Whoever waits for a cancelled token is not parked. -/
theorem IsSound.ready_or_resumed (sound : tasks.IsSound) {task : Nat}
    {issued : IssuedToken} (awaits : tasks.awaited[task]? = some issued)
    (cancelled : tasks.world.isCancelled issued = true) :
    task ∈ tasks.ready ∨ task ∈ tasks.resumed := by
  rcases sound.kept task issued awaits with isReady | isParked | hasResumed
  · exact .inl isReady
  · have isOpen := sound.world.waits.isOpen _ isParked
    cases cancelled.symm.trans isOpen
  · exact .inr hasResumed

/-- With its token cancelled, a task goes on when it next has its turn. -/
theorem IsSound.resumed_run (sound : tasks.IsSound) {task : Nat}
    {issued : IssuedToken} (awaits : tasks.awaited[task]? = some issued)
    (cancelled : tasks.world.isCancelled issued = true) :
    task ∈ (tasks.perform (.run task)).resumed := by
  rcases sound.ready_or_resumed awaits cancelled with isReady | hasResumed
  · have looks : tasks.run task = tasks.look task issued := by
      simp only [run, awaits, if_pos isReady]
    change task ∈ (tasks.run task).resumed
    rw [looks, look_of_cancelled cancelled]
    exact List.mem_cons_self
  · exact resumed_perform _ hasResumed

theorem IsSound.resumed_after (sound : tasks.IsSound) {task : Nat}
    {issued : IssuedToken} (awaits : tasks.awaited[task]? = some issued)
    (cancelled : tasks.world.isCancelled issued = true)
    {steps : List CancelStep} (runs : .run task ∈ steps) :
    task ∈ (tasks.after steps).resumed := by
  induction steps generalizing tasks with
  | nil => cases runs
  | cons step later induction =>
      rcases List.mem_cons.mp runs with rfl | runs
      · exact CancelTasks.resumed_after later
          (sound.resumed_run awaits cancelled)
      · exact induction (sound.perform step) (awaited_perform step awaits)
          (isCancelled_perform sound.world step cancelled) runs

/-! ## The law of the tokens -/

/-- What holds of the tokens at some moment, whatever happens later. -/
structure Obeys (tasks : CancelTasks) : Prop where
  /-- A new source has a group of its own, which has no token. -/
  opens : let next := (tasks.perform .addSource).world
    next.current? tasks.world.sources.length = none ∧
      ∀ source, source < tasks.world.sources.length →
        next.groupOf? source ≠ next.groupOf? tasks.world.sources.length
  /-- A clone always has the current token of its source. -/
  shares : ∀ source later, source < tasks.world.sources.length →
    let next := ((tasks.perform (.clone source)).after later).world
    next.current? tasks.world.sources.length = next.current? source
  /-- A token is new and current when it is issued.  It is cancelled exactly
  when its group has issued a later one or was cancelled while it was current,
  with the reason of whichever came first. -/
  issues : ∀ source, source < tasks.world.sources.length →
    ∃ issued, (tasks.world.issue source).2.1 = some issued ∧
      tasks.world.hasIssued issued = false ∧
      let next := tasks.perform (.issue source)
      next.world.current? source = some issued ∧ ∀ later,
        ((next.after later).world.isCancelled issued = true ↔
          ∃ earlier step rest, later = earlier ++ step :: rest ∧
            ((next.after earlier).world.ending? issued step).isSome) ∧
        (next.after later).world.reason? issued =
          (next.endings issued later).head?
  /-- A reason never changes. -/
  lasts : ∀ issued reason later, tasks.world.reason? issued = some reason →
    (tasks.after later).world.reason? issued = some reason
  /-- A group has at most one token that is not cancelled. -/
  unique : ∀ issued other, issued.group = other.group →
    tasks.world.hasIssued issued = true → tasks.world.hasIssued other = true →
    tasks.world.isCancelled issued = false →
    tasks.world.isCancelled other = false → issued = other
  /-- Cancelling answers true exactly when it cancels the current token. -/
  cancels : ∀ source reason, (tasks.world.cancel source reason).2.1 = true ↔
    ∃ issued, tasks.world.current? source = some issued ∧
      tasks.world.isCancelled issued = false ∧
      (tasks.perform (.cancel source reason)).world.reason? issued = some reason
  /-- Otherwise nothing happens. -/
  refuses : ∀ source reason, (tasks.world.cancel source reason).2.1 = false →
    tasks.perform (.cancel source reason) = tasks
  /-- No other token is touched. -/
  spares : ∀ source reason issued,
    tasks.world.current? source ≠ some issued →
    (tasks.perform (.cancel source reason)).world.reason? issued =
      tasks.world.reason? issued
  /-- A task can wait for any token, cancelled or not. -/
  awaits : ∀ issued, tasks.world.hasIssued issued = true →
    (tasks.perform (.await issued)).awaited[tasks.awaited.length]? =
      some issued
  /-- Whatever cancels a token schedules the tasks that are parked for it. -/
  wakes : ∀ source,
    (tasks.perform (.issue source)).ready =
        tasks.ready ++ tasks.world.waitingFor source ∧
      ∀ reason, (tasks.perform (.cancel source reason)).ready =
        tasks.ready ++ tasks.world.waitingFor source
  /-- A task whose token is cancelled has gone on, or is scheduled and goes on
  when it has its turn. -/
  resumes : ∀ (task : Nat) issued, tasks.awaited[task]? = some issued →
    tasks.world.isCancelled issued = true →
    (task ∈ tasks.ready ∨ task ∈ tasks.resumed) ∧ ∀ later,
      .run task ∈ later → task ∈ (tasks.after later).resumed
  /-- No task goes on before. -/
  waits : ∀ task ∈ tasks.resumed, ∃ issued : IssuedToken,
    tasks.awaited[task]? = some issued ∧ tasks.world.isCancelled issued = true

theorem IsSound.shares (sound : tasks.IsSound) {source : Nat}
    (inside : source < tasks.world.sources.length) (later : List CancelStep) :
    let next := ((tasks.perform (.clone source)).after later).world
    next.current? tasks.world.sources.length = next.current? source := by
  obtain ⟨group, -, isGroup, -⟩ := sound.world.placed.exists_group inside
  have continues := (tasks.perform (.clone source)).continues_after later
  have ofSource :=
    continues.groupOf? ((tasks.world.continues_clone source).groupOf? isGroup)
  have ofClone :=
    continues.groupOf? (CancelSources.groupOf?_clone isGroup)
  exact CancelSources.current?_congr (ofClone.trans ofSource.symm)

theorem IsSound.issues (sound : tasks.IsSound) {source : Nat}
    (inside : source < tasks.world.sources.length) :
    ∃ issued, (tasks.world.issue source).2.1 = some issued ∧
      tasks.world.hasIssued issued = false ∧
      let next := tasks.perform (.issue source)
      next.world.current? source = some issued ∧ ∀ later,
        ((next.after later).world.isCancelled issued = true ↔
          ∃ earlier step rest, later = earlier ++ step :: rest ∧
            ((next.after earlier).world.ending? issued step).isSome) ∧
        (next.after later).world.reason? issued =
          (next.endings issued later).head? := by
  obtain ⟨issued, isIssued, isNew, isCurrent, isKnown, isOpen⟩ :=
    CancelSources.issue_of_placed sound.world.placed inside
  refine ⟨issued, isIssued, isNew, isCurrent, fun later => ?_⟩
  have openNow : (tasks.perform (.issue source)).world.reason? issued =
      none := isOpen
  have isFirst : ((tasks.perform (.issue source)).after later).world.reason?
      issued =
      ((tasks.perform (.issue source)).endings issued later).head? := by
    rw [reason?_after (sound.perform (.issue source)) isKnown, openNow]
    rfl
  refine ⟨?_, isFirst⟩
  rw [CancelSources.isCancelled_eq, isFirst]
  exact isSome_endings_iff ..

theorem IsSound.lasts (sound : tasks.IsSound) {issued : IssuedToken}
    {reason : String} (later : List CancelStep)
    (isReason : tasks.world.reason? issued = some reason) :
    (tasks.after later).world.reason? issued = some reason := by
  induction later generalizing tasks with
  | nil => exact isReason
  | cons step later induction =>
      exact induction (sound.perform step)
        (keeps_perform sound.world step isReason)

theorem cancels (tasks : CancelTasks) (source : Nat) (reason : String) :
    (tasks.world.cancel source reason).2.1 = true ↔
      ∃ issued, tasks.world.current? source = some issued ∧
        tasks.world.isCancelled issued = false ∧
        (tasks.perform (.cancel source reason)).world.reason? issued =
          some reason := by
  have given : ∀ issued, tasks.world.current? source = some issued →
      tasks.world.isCancelled issued = false →
      (tasks.perform (.cancel source reason)).world.reason? issued =
        some reason := by
    intro issued current isOpen
    have noReason : tasks.world.reason? issued = none := by
      simpa [CancelSources.isCancelled_eq] using isOpen
    refine (tasks.world.reason?_cancel source reason issued).trans ?_
    rw [noReason, CancelSources.cancelReason?, if_pos current]
    rfl
  rw [tasks.world.cancel_eq_true_iff]
  constructor
  · rintro ⟨issued, current, isOpen⟩
    exact ⟨issued, current, isOpen, given issued current isOpen⟩
  · rintro ⟨issued, current, isOpen, -⟩
    exact ⟨issued, current, isOpen⟩

theorem perform_cancel_of_refused {source : Nat} {reason : String}
    (refused : (tasks.world.cancel source reason).2.1 = false) :
    tasks.perform (.cancel source reason) = tasks := by
  have nothing := CancelSources.cancel_of_refused refused
  have still : tasks.perform (.cancel source reason) =
      tasks.schedule tasks.world [] := by
    rw [CancelTasks.perform, nothing]
  rw [still, CancelTasks.schedule, List.append_nil]

theorem spares (tasks : CancelTasks) (source : Nat) (reason : String)
    {issued : IssuedToken}
    (notCurrent : tasks.world.current? source ≠ some issued) :
    (tasks.perform (.cancel source reason)).world.reason? issued =
      tasks.world.reason? issued := by
  refine (tasks.world.reason?_cancel source reason issued).trans ?_
  rw [CancelSources.cancelReason?, if_neg notCurrent]
  simp

theorem IsSound.wakes (sound : tasks.IsSound) (source : Nat) :
    (tasks.perform (.issue source)).ready =
        tasks.ready ++ tasks.world.waitingFor source ∧
      ∀ reason, (tasks.perform (.cancel source reason)).ready =
        tasks.ready ++ tasks.world.waitingFor source := by
  have waits := sound.world.waits
  exact ⟨congrArg (tasks.ready ++ ·) (CancelSources.woken_issue waits source),
    fun reason => congrArg (tasks.ready ++ ·)
      (CancelSources.woken_cancel waits source reason)⟩

theorem awaits_perform {issued : IssuedToken}
    (known : tasks.world.hasIssued issued = true) :
    (tasks.perform (.await issued)).awaited[tasks.awaited.length]? =
      some issued := by
  have isStarted : (tasks.await issued).awaited =
      tasks.awaited ++ [issued] := by
    rw [await, if_pos known]
  change (tasks.await issued).awaited[tasks.awaited.length]? = some issued
  rw [isStarted]
  exact List.getElem?_concat_length

/-- Whatever is done with the sources, in whatever order the tasks have their
turns: the tokens obey their law. -/
theorem obeys_after (steps : List CancelStep) :
    (initial.after steps).Obeys := by
  have sound := isSound_initial.after steps
  exact {
    opens := CancelSources.addSource_of_placed sound.world.placed
    shares := fun _ later inside => sound.shares inside later
    issues := fun _ inside => sound.issues inside
    lasts := fun _ _ later isReason => sound.lasts later isReason
    unique := fun _ _ => sound.world.ordered.unique
    cancels := cancels _
    refuses := fun _ _ => perform_cancel_of_refused
    spares := fun source reason _ => spares _ source reason
    awaits := fun _ => awaits_perform
    wakes := sound.wakes
    resumes := fun _ _ awaits cancelled =>
      ⟨sound.ready_or_resumed awaits cancelled,
        fun _ => sound.resumed_after awaits cancelled⟩
    waits := sound.resumed }

end CancelTasks

end AgentPipeline
