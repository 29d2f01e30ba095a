import ConceptScript.Workspace.Publisher

/-!
Contract: starting and stopping the loop of the publisher, with any number of calls at a time.

A start looks at the flag first and at the slot later, and a stop raises the flag first and takes
the loop out of the slot later. In between anything may happen. So a start can make a loop behind
the last stop, and nobody tells that loop to end. It ends on its own, because a loop looks at the
flag whenever it has waited.

Owns the steps of starts, stops and loops, that calls made in one go are such runs, and which loops
ever run a pass.

Does not own what a pass does.
-/

set_option autoImplicit false

namespace ConceptScript.Publisher

inductive Loop.Phase where
  | waiting
  | passing
  | ended
  deriving DecidableEq, Repr

structure Loop where
  phase : Loop.Phase := .waiting
  /-- The number of stops that raised the flag before the loop was made. It hears of later ones. -/
  missed : Nat
  deriving DecidableEq, Repr

/-- How far a call that stops the loop has got. -/
inductive Stop where
  /-- The flag is up. -/
  | signalled
  /-- It took a loop out of the slot and waits for its end. -/
  | joining (index : Nat)
  /-- It is over. The loop is the one that it took. -/
  | returned (index : Option Nat)
  deriving DecidableEq, Repr

/-- A stop that took what was in the slot. -/
def Stop.ofSlot : Option Nat → Stop
  | some index => .joining index
  | none => .returned none

structure Lifecycle where
  publisher : Publisher
  /-- All loops ever made, known by their indices. -/
  loops : List Loop := []
  /-- The loop in the slot, which is there while the publisher counts as running. -/
  slot : Option Nat := none
  /-- The starts that have found the flag down and have not got to the slot yet. -/
  starting : Nat := 0
  /-- The stops that have raised the flag, the latest first. -/
  stops : List Stop := []
  /-- The loop of every pass that has begun, the latest first. -/
  begun : List Nat := []
  deriving DecidableEq, Repr

namespace Lifecycle

def initial (interval : Nat) : Lifecycle :=
  { publisher := { interval := interval } }

/-- Makes a loop, unless there is one in the slot. -/
def spawn (state : Lifecycle) (time : Nat) : Lifecycle :=
  if state.publisher.isRunning then state
  else
    { state with
      publisher := state.publisher.occupy time
      loops := state.loops ++ [{ missed := state.stops.length }]
      slot := some state.loops.length }

/-- Moves a loop into a phase. -/
def enter (state : Lifecycle) (index : Nat) (loop : Loop) (phase : Loop.Phase) : Lifecycle :=
  { state with loops := state.loops.set index { loop with phase := phase } }

/-- The publisher when a loop has completed a pass and waits again. -/
def afterPass (state : Lifecycle) (index : Nat) (lastPublish : Option Instant) (time : Nat) :
    Publisher :=
  { state.publisher with
    lastPublish := lastPublish
    waitingSince := if state.slot = some index then some time else state.publisher.waitingSince }

inductive Step : Lifecycle → Lifecycle → Prop where
  /-- A start finds the flag down. -/
  | check {state : Lifecycle}
      (isDown : state.publisher.stopped = false) :
      Step state { state with starting := state.starting + 1 }
  /-- Such a start gets to the slot, whatever the flag is by then. -/
  | occupy {state : Lifecycle} {others : Nat} (time : Nat)
      (isStarting : state.starting = others + 1) :
      Step state { state.spawn time with starting := others }
  | signal {state : Lifecycle} :
      Step state
        { state with
          publisher := state.publisher.signalStop
          stops := .signalled :: state.stops }
  | take {state : Lifecycle} {later earlier : List Stop}
      (isSignalled : state.stops = later ++ .signalled :: earlier) :
      Step state
        { state with
          publisher := state.publisher.release
          slot := none
          stops := later ++ .ofSlot state.slot :: earlier }
  /-- A waiting loop hears of a stop. -/
  | hear {state : Lifecycle} {loop : Loop} (index : Nat)
      (isLoop : state.loops[index]? = some loop)
      (isWaiting : loop.phase = .waiting)
      (isNew : loop.missed < state.stops.length) :
      Step state (state.enter index loop .ended)
  /-- A loop has waited and finds the flag up. -/
  | quit {state : Lifecycle} {loop : Loop} (index : Nat)
      (isLoop : state.loops[index]? = some loop)
      (isWaiting : loop.phase = .waiting)
      (isUp : state.publisher.stopped = true) :
      Step state (state.enter index loop .ended)
  /-- A loop has waited and finds the flag down. -/
  | begin {state : Lifecycle} {loop : Loop} (index : Nat)
      (isLoop : state.loops[index]? = some loop)
      (isWaiting : loop.phase = .waiting)
      (isDown : state.publisher.stopped = false) :
      Step state { state.enter index loop .passing with begun := index :: state.begun }
  | complete {state : Lifecycle} {loop : Loop} (index : Nat) (lastPublish : Option Instant)
      (time : Nat)
      (isLoop : state.loops[index]? = some loop)
      (isPassing : loop.phase = .passing) :
      Step state
        { state.enter index loop .waiting with
          publisher := state.afterPass index lastPublish time }
  /-- A stop gets to know that the loop that it took has ended. -/
  | join {state : Lifecycle} {index : Nat} {loop : Loop} {later earlier : List Stop}
      (isJoining : state.stops = later ++ .joining index :: earlier)
      (isLoop : state.loops[index]? = some loop)
      (isEnded : loop.phase = .ended) :
      Step state { state with stops := later ++ .returned (some index) :: earlier }

inductive Steps : Lifecycle → Lifecycle → Prop where
  | refl (state : Lifecycle) : Steps state state
  | tail {first second third : Lifecycle}
      (earlier : Steps first second) (step : Step second third) :
      Steps first third

theorem Steps.trans
    {first second third : Lifecycle}
    (earlier : Steps first second)
    (later : Steps second third) :
    Steps first third := by
  induction later with
  | refl => exact earlier
  | tail _ step inductionHypothesis => exact .tail inductionHypothesis step

variable {state next : Lifecycle}

/-! ## What a step does to the loops -/

theorem getElem?_enter
    {index : Nat} {loop : Loop}
    (isLoop : state.loops[index]? = some loop) (phase : Loop.Phase) (other : Nat) :
    (state.enter index loop phase).loops[other]? =
      if index = other then some { loop with phase := phase } else state.loops[other]? := by
  have isBelow := (List.getElem?_eq_some_iff.1 isLoop).1
  rw [enter, List.getElem?_set]
  by_cases isSame : index = other
  · subst isSame
    simp [isBelow]
  · simp [isSame]

theorem getElem?_spawn (state : Lifecycle) (time index : Nat) :
    (state.spawn time).loops[index]? = state.loops[index]? ∨
      (state.spawn time).loops[index]? = some { missed := state.stops.length } := by
  unfold spawn
  split
  · exact .inl rfl
  · rw [List.getElem?_append]
    split
    · exact .inl rfl
    · next isBehind =>
      rcases isLast : index - state.loops.length with _ | distance
      · exact .inr rfl
      · left
        rw [List.getElem?_eq_none (Nat.le_of_not_lt isBehind)]
        rfl

/-- The loop with this index is in this phase. -/
def In (state : Lifecycle) (phase : Loop.Phase) (index : Nat) : Prop :=
  ∃ loop, state.loops[index]? = some loop ∧ loop.phase = phase

theorem In.eq
    {phase other : Loop.Phase} {index : Nat}
    (isIn : state.In phase index)
    (isOther : state.In other index) :
    phase = other := by
  obtain ⟨loop, isLoop, rfl⟩ := isIn
  obtain ⟨sameLoop, isSame, rfl⟩ := isOther
  rw [isLoop] at isSame
  cases isSame
  rfl

theorem in_enter_iff
    {index : Nat} {loop : Loop}
    (isLoop : state.loops[index]? = some loop) (entered phase : Loop.Phase) (other : Nat) :
    (state.enter index loop entered).In phase other ↔
      index = other ∧ entered = phase ∨ index ≠ other ∧ state.In phase other := by
  unfold In
  rw [getElem?_enter isLoop]
  by_cases isSame : index = other
  · simp [isSame]
  · simp [isSame]

/-- A loop that has ended stays so. -/
theorem In.ended_step
    {index : Nat}
    (hasEnded : state.In .ended index)
    (step : Step state next) :
    next.In .ended index := by
  have stays : ∀ {other : Nat} {loop : Loop} {phase : Loop.Phase}, state.loops[other]? = some loop →
      loop.phase ≠ .ended → (state.enter other loop phase).In .ended index := by
    intro other loop phase isLoop notEnded
    refine (in_enter_iff isLoop phase .ended index).2 (.inr ⟨?_, hasEnded⟩)
    rintro rfl
    exact notEnded (In.eq ⟨loop, isLoop, rfl⟩ hasEnded)
  cases step with
  | check | signal | take | join => exact hasEnded
  | occupy time isStarting =>
    obtain ⟨loop, isLoop, isEnded⟩ := hasEnded
    have isBelow := (List.getElem?_eq_some_iff.1 isLoop).1
    refine ⟨loop, ?_, isEnded⟩
    unfold spawn
    split
    · exact isLoop
    · rw [List.getElem?_append_left isBelow]
      exact isLoop
  | hear _ isLoop isWaiting | quit _ isLoop isWaiting | begin _ isLoop isWaiting =>
    exact stays isLoop (by simp [isWaiting])
  | complete _ _ _ isLoop isPassing => exact stays isLoop (by simp [isPassing])

/-- Only a loop that begins a pass comes to run one. -/
theorem passing_of_step
    {index : Nat}
    (step : Step state next)
    (isPassing : next.In .passing index) :
    state.In .passing index ∨ index ∈ next.begun := by
  have isOther : ∀ {other : Nat} {loop : Loop} {phase : Loop.Phase},
      state.loops[other]? = some loop → phase ≠ .passing →
        (state.enter other loop phase).In .passing index → state.In .passing index := by
    intro other loop phase isLoop notPassing isIn
    rcases (in_enter_iff isLoop phase .passing index).1 isIn with ⟨-, isPassing⟩ | ⟨-, isOther⟩
    · exact absurd isPassing notPassing
    · exact isOther
  cases step with
  | check | signal | take | join => exact .inl isPassing
  | occupy time isStarting =>
    obtain ⟨loop, isLoop, isIn⟩ := isPassing
    rcases getElem?_spawn state time index with isOld | isNew
    · exact .inl ⟨loop, isOld ▸ isLoop, isIn⟩
    · obtain rfl : { missed := state.stops.length } = loop := Option.some.inj (isNew ▸ isLoop)
      cases isIn
  | hear _ isLoop | quit _ isLoop => exact .inl (isOther isLoop (by decide) isPassing)
  | complete _ _ _ isLoop => exact .inl (isOther isLoop (by decide) isPassing)
  | begin other isLoop =>
    rcases (in_enter_iff isLoop .passing .passing index).1 isPassing with ⟨rfl, -⟩ | ⟨-, isOld⟩
    · exact .inr List.mem_cons_self
    · exact .inl isOld

/-- A pass begins only while the flag is down. -/
theorem begun_step
    (step : Step state next) :
    next.begun = state.begun ∨
      state.publisher.stopped = false ∧
        ∃ index, index < state.loops.length ∧ next.begun = index :: state.begun := by
  cases step with
  | check | signal | take | join | hear | quit | complete => exact .inl rfl
  | occupy time isStarting =>
    left
    unfold spawn
    split <;> rfl
  | begin index isLoop _ isDown =>
    exact .inr ⟨isDown, index, (List.getElem?_eq_some_iff.1 isLoop).1, rfl⟩

/-! ## What a step does to the stops -/

theorem stops_spawn (state : Lifecycle) (time : Nat) : (state.spawn time).stops = state.stops := by
  unfold spawn
  split <;> rfl

/-- A stop that took a loop returns when that loop has ended. -/
theorem returned_of_step
    {index : Nat}
    (step : Step state next)
    (hasReturned : .returned (some index) ∈ next.stops) :
    .returned (some index) ∈ state.stops ∨ state.In .ended index := by
  cases step with
  | check | hear | quit | begin | complete => exact .inl hasReturned
  | occupy time _ => exact .inl (stops_spawn state time ▸ hasReturned)
  | signal => exact .inl (by simpa using hasReturned)
  | take isSignalled =>
    left
    rw [isSignalled]
    cases isSlot : state.slot <;> simpa [isSlot, Stop.ofSlot] using hasReturned
  | @join other loop later earlier isJoining isLoop isEnded =>
    rw [isJoining]
    by_cases isSame : index = other
    · exact .inr ⟨loop, isSame ▸ isLoop, isEnded⟩
    · left
      simpa [isSame] using hasReturned

theorem stops_ne_nil_step
    (wasStopped : state.stops ≠ [])
    (step : Step state next) :
    next.stops ≠ [] := by
  cases step with
  | check | hear | quit | begin | complete => exact wasStopped
  | occupy time _ => exact (stops_spawn state time).symm ▸ wasStopped
  | signal | take | join => simp

/-! ## Calls in one go -/

/-- No call is on its way to the slot, and the loop in it waits and was not told to stop. -/
structure AtRest (state : Lifecycle) : Prop where
  slot : state.publisher.isRunning = state.slot.isSome
  down : state.slot.isSome → state.publisher.stopped = false
  waiting : ∀ index, state.slot = some index → state.In .waiting index

theorem atRest_initial (interval : Nat) : AtRest (initial interval) where
  slot := rfl
  down := by simp [initial]
  waiting := by simp [initial]

theorem occupy_of_isRunning
    {publisher : Publisher}
    (isRunning : publisher.isRunning = true) (time : Nat) :
    publisher.occupy time = publisher := by
  obtain ⟨since, isSince⟩ := Option.isSome_iff_exists.1 isRunning
  rw [Publisher.occupy, isSince, Option.getD_some, ← isSince]

theorem AtRest.start
    (atRest : AtRest state) (time : Nat) :
    ∃ reached, Steps state reached ∧ AtRest reached ∧
      reached.publisher = state.publisher.start time := by
  unfold Publisher.start
  split
  · exact ⟨state, .refl state, atRest, rfl⟩
  · next notStopped =>
    have isDown : state.publisher.stopped = false := by simpa using notStopped
    have run : Steps state
        { ({ state with starting := state.starting + 1 } : Lifecycle).spawn time with
          starting := state.starting } :=
      .tail (.tail (.refl state) (.check isDown)) (.occupy time rfl)
    refine ⟨_, run, ?_⟩
    by_cases isRunning : state.publisher.isRunning = true
    · rw [occupy_of_isRunning isRunning, spawn, if_pos isRunning]
      exact ⟨atRest, rfl⟩
    · rw [spawn, if_neg isRunning]
      refine ⟨⟨rfl, fun _ => isDown, ?_⟩, rfl⟩
      intro index isSlot
      cases isSlot
      exact ⟨{ missed := state.stops.length }, by simp, rfl⟩

theorem exists_lastPublish_pass
    (client : Client) (now : Instant) (publisher : Publisher) (workspace : Workspace) :
    ∃ lastPublish, (Publisher.pass client now publisher workspace).publisher =
      { publisher with lastPublish := lastPublish } := by
  unfold Publisher.pass
  split
  · exact ⟨publisher.lastPublish, rfl⟩
  · next batch _ =>
    dsimp only
    split
    · exact ⟨publisher.lastPublish, rfl⟩
    · exact ⟨publisher.lastPublish, rfl⟩
    · exact ⟨some batch.startedAt, rfl⟩

/-- If the loop is due, it begins and completes a pass. -/
theorem AtRest.tick
    (atRest : AtRest state) (client : Client) (now : Instant) (time : Nat)
    (workspace : Workspace) :
    ∃ reached, Steps state reached ∧ AtRest reached ∧
      reached.publisher = (Publisher.tick client now time state.publisher workspace).publisher := by
  unfold Publisher.tick
  split
  · next isDue =>
    have isRunning : state.publisher.isRunning = true := by
      obtain ⟨since, isSince, -⟩ := (Option.any_eq_true ..).1 isDue
      simp [Publisher.isRunning, isSince]
    obtain ⟨index, isSlot⟩ := Option.isSome_iff_exists.1 (atRest.slot ▸ isRunning)
    have isDown := atRest.down (by simp [isSlot])
    obtain ⟨loop, isLoop, isWaiting⟩ := atRest.waiting index isSlot
    obtain ⟨lastPublish, isPass⟩ := exists_lastPublish_pass client now state.publisher workspace
    have passing := getElem?_enter isLoop .passing index
    rw [if_pos rfl] at passing
    have run := Steps.tail (.tail (.refl state) (.begin index isLoop isWaiting isDown))
      (.complete index lastPublish time passing rfl)
    refine ⟨_, run, ⟨?_, fun _ => isDown, ?_⟩, ?_⟩
    · simp [afterPass, Publisher.isRunning, enter, isSlot]
    · intro other isOther
      obtain rfl : index = other := Option.some.inj (isSlot.symm.trans isOther)
      exact (in_enter_iff passing .waiting .waiting index).2 (.inl ⟨rfl, rfl⟩)
    · simp [afterPass, enter, isSlot, isPass]
  · exact ⟨state, .refl state, atRest, rfl⟩

/-- A stop raises the flag, takes the loop and waits for its end. -/
theorem AtRest.stop
    (atRest : AtRest state) :
    ∃ reached, Steps state reached ∧ AtRest reached ∧
      reached.publisher = state.publisher.stop ∧
      reached.stops = .returned state.slot :: state.stops := by
  have taken : Steps state
      { state with
        publisher := state.publisher.stop
        slot := none
        stops := [] ++ .ofSlot state.slot :: state.stops } :=
    .tail (.tail (.refl state) .signal) (.take (List.nil_append _).symm)
  cases isSlot : state.slot with
  | none =>
    rw [isSlot] at taken
    exact ⟨_, taken, ⟨rfl, by simp, by simp⟩, rfl, rfl⟩
  | some index =>
    obtain ⟨loop, isLoop, isWaiting⟩ := atRest.waiting index isSlot
    have ended := getElem?_enter isLoop .ended index
    rw [if_pos rfl] at ended
    rw [isSlot] at taken
    have run := taken.tail (.quit index isLoop isWaiting rfl)
    have joined := run.tail (.join rfl ended rfl)
    exact ⟨_, joined, ⟨rfl, by simp [enter], by simp [enter]⟩, rfl, rfl⟩

/-- What happens to a publisher when nothing comes in between. -/
inductive Action where
  | start (time : Nat)
  | tick (client : Client) (now : Instant) (time : Nat) (workspace : Workspace)
  | stop

def Action.apply (publisher : Publisher) : Action → Publisher
  | .start time => publisher.start time
  | .tick client now time workspace => (publisher.tick client now time workspace).publisher
  | .stop => publisher.stop

theorem AtRest.apply
    (atRest : AtRest state) (action : Action) :
    ∃ reached, Steps state reached ∧ AtRest reached ∧
      reached.publisher = action.apply state.publisher := by
  cases action with
  | start time => exact atRest.start time
  | tick client now time workspace => exact atRest.tick client now time workspace
  | stop =>
    obtain ⟨reached, run, isAtRest, isStopped, -⟩ := atRest.stop
    exact ⟨reached, run, isAtRest, isStopped⟩

theorem AtRest.foldl_apply
    (atRest : AtRest state) (actions : List Action) :
    ∃ reached, Steps state reached ∧ AtRest reached ∧
      reached.publisher = actions.foldl Action.apply state.publisher := by
  induction actions generalizing state with
  | nil => exact ⟨state, .refl state, atRest, rfl⟩
  | cons action actions inductionHypothesis =>
    obtain ⟨second, run, isAtRest, isSecond⟩ := atRest.apply action
    obtain ⟨reached, goesOn, lastAtRest, isReached⟩ := inductionHypothesis isAtRest
    rw [isSecond] at isReached
    exact ⟨reached, run.trans goesOn, lastAtRest, isReached⟩

/-- Calls and passes that are made one after the other are a run. -/
theorem exists_run_of_actions (interval : Nat) (actions : List Action) :
    ∃ reached, Steps (initial interval) reached ∧
      reached.publisher = actions.foldl Action.apply { interval := interval } := by
  obtain ⟨reached, run, -, isReached⟩ := (atRest_initial interval).foldl_apply actions
  exact ⟨reached, run, isReached⟩

/-! ## What holds of every run -/

structure Sound (state : Lifecycle) : Prop where
  slot : state.publisher.isRunning = state.slot.isSome
  flag : state.publisher.stopped = false ↔ state.stops = []
  /-- Without a stop, a loop stays in the slot, so that there is no other. -/
  single : state.stops = [] → state.loops.length ≤ state.slot.toList.length
  begun : ∀ index ∈ state.begun, index = 0
  passing : ∀ index, state.In .passing index → index ∈ state.begun
  returned : ∀ index, .returned (some index) ∈ state.stops → state.In .ended index

theorem sound_initial (interval : Nat) : Sound (initial interval) where
  slot := rfl
  flag := by simp [initial]
  single := by simp [initial]
  begun := by simp [initial]
  passing := by simp [initial, In]
  returned := by simp [initial]

theorem Sound.slot_step
    (sound : Sound state)
    (step : Step state next) :
    next.publisher.isRunning = next.slot.isSome := by
  cases step with
  | check | hear | quit | begin | join | signal => exact sound.slot
  | occupy =>
    unfold spawn
    split
    · exact sound.slot
    · rfl
  | take => rfl
  | complete =>
    have same := sound.slot
    simp only [afterPass, isRunning, enter] at same ⊢
    split
    · next isOwn => simp [isOwn]
    · exact same

theorem Sound.flag_step
    (sound : Sound state)
    (step : Step state next) :
    next.publisher.stopped = false ↔ next.stops = [] := by
  cases step with
  | check | hear | quit | begin | complete => exact sound.flag
  | occupy =>
    unfold spawn
    split <;> exact sound.flag
  | signal => simp [signalStop]
  | take isSignalled =>
    have isUp := sound.flag
    simpa [isSignalled, release] using isUp
  | join isJoining =>
    have isUp := sound.flag
    simpa [isJoining] using isUp

theorem Sound.single_step
    (sound : Sound state)
    (step : Step state next)
    (noStop : next.stops = []) :
    next.loops.length ≤ next.slot.toList.length := by
  cases step with
  | check => exact sound.single noStop
  | hear | quit | begin | complete =>
    rw [enter, List.length_set]
    exact sound.single noStop
  | occupy time _ =>
    rw [stops_spawn] at noStop
    have isSingle := sound.single noStop
    unfold spawn
    split
    · exact isSingle
    · next notRunning =>
      have isEmpty : state.slot = none := by simpa [sound.slot] using notRunning
      simpa [isEmpty] using isSingle
  | signal | take | join => simp at noStop

theorem Sound.begun_eq_zero_of_step
    (sound : Sound state)
    (step : Step state next) :
    ∀ index ∈ next.begun, index = 0 := by
  rcases begun_step step with isSame | ⟨isDown, first, isBelow, isBegun⟩
  · rw [isSame]
    exact sound.begun
  · have isSingle := sound.single (sound.flag.1 isDown)
    have atMostOne : state.slot.toList.length ≤ 1 := by cases state.slot <;> simp
    rw [isBegun, List.forall_mem_cons]
    exact ⟨by omega, sound.begun⟩

theorem Sound.step
    (sound : Sound state)
    (step : Step state next) :
    Sound next where
  slot := sound.slot_step step
  flag := sound.flag_step step
  single := sound.single_step step
  begun := sound.begun_eq_zero_of_step step
  passing := by
    intro index isPassing
    rcases passing_of_step step isPassing with wasPassing | isBegun
    · have wasBegun := sound.passing index wasPassing
      rcases begun_step step with isSame | ⟨-, first, -, isBegun⟩
      · exact isSame ▸ wasBegun
      · exact isBegun ▸ List.mem_cons_of_mem first wasBegun
    · exact isBegun
  returned := by
    intro index hasReturned
    rcases returned_of_step step hasReturned with hadReturned | hasEnded
    · exact (sound.returned index hadReturned).ended_step step
    · exact hasEnded.ended_step step

theorem Sound.steps
    (sound : Sound state)
    (run : Steps state next) :
    Sound next := by
  induction run with
  | refl => exact sound
  | tail _ step inductionHypothesis => exact inductionHypothesis.step step

theorem In.ended_steps
    {index : Nat}
    (hasEnded : state.In .ended index)
    (run : Steps state next) :
    next.In .ended index := by
  induction run with
  | refl => exact hasEnded
  | tail _ step inductionHypothesis => exact inductionHypothesis.ended_step step

/-- Once a stop has raised the flag, no pass begins. -/
theorem Sound.begun_of_stopped
    (sound : Sound state)
    (wasStopped : state.stops ≠ [])
    (run : Steps state next) :
    next.stops ≠ [] ∧ next.begun = state.begun := by
  induction run with
  | refl => exact ⟨wasStopped, rfl⟩
  | tail earlier step inductionHypothesis =>
    obtain ⟨isStopped, isSame⟩ := inductionHypothesis
    refine ⟨stops_ne_nil_step isStopped step, ?_⟩
    rcases begun_step step with isStill | ⟨isDown, -⟩
    · exact isStill.trans isSame
    · exact absurd ((sound.steps earlier).flag.1 isDown) isStopped

/-- No pass begins once a stop has raised the flag. All passes belong to one loop. When the stop
that took that loop out of the slot has returned, none is running, and none will. -/
theorem begun_of_steps
    {interval : Nat} {reached last : Lifecycle}
    (run : Steps (initial interval) reached)
    (goesOn : Steps reached last) :
    (reached.stops ≠ [] → last.begun = reached.begun) ∧
      (∀ index ∈ last.begun, ∀ other ∈ last.begun, index = other) ∧
      ∀ index ∈ last.begun, .returned (some index) ∈ reached.stops →
        (∀ loop ∈ last.loops, loop.phase ≠ .passing) ∧ last.begun = reached.begun := by
  have sound := (sound_initial interval).steps run
  have lastSound := sound.steps goesOn
  have noMore (wasStopped : reached.stops ≠ []) := (sound.begun_of_stopped wasStopped goesOn).2
  refine ⟨noMore, ?_, ?_⟩
  · intro index isBegun other isOther
    rw [lastSound.begun index isBegun, lastSound.begun other isOther]
  · intro index isBegun hasReturned
    refine ⟨?_, noMore (List.ne_nil_of_mem hasReturned)⟩
    intro loop isLoop isPassing
    obtain ⟨other, isOther⟩ := List.getElem?_of_mem isLoop
    have otherPassing : last.In .passing other := ⟨loop, isOther, isPassing⟩
    have otherBegun := lastSound.passing other otherPassing
    -- The loop that is running is the one that has begun, and that one has ended.
    obtain rfl : other = index := by
      rw [lastSound.begun other otherBegun, lastSound.begun index isBegun]
    have hasEnded := (sound.returned other hasReturned).ended_steps goesOn
    cases hasEnded.eq otherPassing

/-- Two starts find the flag down. The loop of the first is in a pass when a stop takes it, so the
second makes a loop too. The stop returns when the pass is over, and the late loop ends by itself. -/
theorem begun_of_late_start :
    ∃ reached last, Steps (initial 10) reached ∧ Steps reached last ∧
      reached.loops = [⟨.ended, 0⟩, ⟨.waiting, 1⟩] ∧
      reached.stops = [.returned (some 0)] ∧
      last.loops = [⟨.ended, 0⟩, ⟨.ended, 1⟩] ∧
      last.begun = [0] ∧
      (∀ loop ∈ last.loops, loop.phase ≠ .passing) ∧ last.begun = reached.begun := by
  have twoStarts := Steps.tail (.tail (.tail (.refl (initial 10)) (.check rfl)) (.check rfl))
    (.occupy 0 rfl)
  have inPass := twoStarts.tail (.begin 0 rfl rfl rfl)
  have taken := (inPass.tail .signal).tail (.take (List.nil_append _).symm)
  have lateLoop := taken.tail (.occupy 20 rfl)
  have completed := lateLoop.tail (.complete 0 none 20 rfl rfl)
  have run := (completed.tail (.hear 0 rfl rfl (by decide))).tail (.join rfl rfl rfl)
  refine ⟨_, _, run, .tail (.refl _) (.quit 1 rfl rfl rfl), rfl, rfl, rfl, rfl, ?_⟩
  obtain ⟨-, -, isOver⟩ := begun_of_steps run (.tail (.refl _) (.quit 1 rfl rfl rfl))
  exact isOver 0 (by decide) (by decide)

end Lifecycle

end ConceptScript.Publisher
