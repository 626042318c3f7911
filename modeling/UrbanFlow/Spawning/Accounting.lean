import UrbanFlow.Spawning.Attempts

/-!
# The accounting of demand

Whole runs of both entry models. On every approach the arrivals are those that
entered, wait or were turned away; they enter in the order in which they arrived,
with the turn and class that they drew then, one a step at most. Under the queue
model the times they fall due are the partial sums of the inter-arrival times.
-/

namespace UrbanFlow.Spawning

open Effect Demand

/-- What a desk keeps of one approach. -/
structure View where
  timer : Option ℚ
  arrivals : Nat
  generated : List QueuedArrival
  backlog : List QueuedArrival
  pendingTurn : Option TurnIntent
  pendingType : Option String
  admitted : Nat
  rejected : Nat
  isHeld : Bool
  dueTime : Option ℚ
  log : ApproachLog

/-- A vehicle is the arrival that it was made for, and its entry wait the time since
that fell due. -/
structure Serves (vehicle : PlacedVehicle) (arrival : QueuedArrival) : Prop where
  turn : vehicle.turnIntent = arrival.turn
  typeId : vehicle.typeId = arrival.typeId
  wait : vehicle.entryWait = vehicle.spawnTime - arrival.arrivalTime
  wait_nonneg : 0 ≤ vehicle.entryWait

namespace View

/-- The vehicles that entered served the arrivals in order; `waiting` are left. -/
def InOrder (view : View) (waiting : List QueuedArrival) : Prop :=
  ∃ served, view.generated = served ++ waiting ∧ List.Forall₂ Serves view.log.entered served

/-- The dues are the partial sums of the gaps, the last of which is running: while
arrivals are generated, the timer is what is left of it at `clock`. -/
def OnTime (view : View) (isOpen : Prop) (clock : ℚ) : Prop :=
  ∃ finite last, view.log.gaps = finite.map some ++ [last] ∧
    view.log.dues = accumulate finite ∧
    (isOpen → view.timer = last.map fun gap => finite.sum + gap - clock)

/-- The invariant of an approach under the queue model. -/
structure Queued (demand : Demand) (direction : Direction) (elapsed : ℚ) (view : View) : Prop where
  balanced : view.arrivals = view.admitted + view.backlog.length + view.rejected
  counted : view.log.entered.length = view.admitted
  inOrder : view.InOrder view.backlog
  isPast : ∀ arrival ∈ view.backlog, arrival.arrivalTime ≤ elapsed
  classed : ∀ arrival ∈ view.backlog, demand.HasClass direction arrival.typeId
  noted : view.log.dues.length = view.arrivals
  queued : (view.generated.map QueuedArrival.arrivalTime).Sublist view.log.dues

/-- One more arrival is turned away, or joins the queue. -/
inductive Arrives
    (demand : Demand)
    (direction : Direction)
    (due : ℚ)
    (gap : Option ℚ)
    (view : View) : View → Prop
  | rejected : Arrives demand direction due gap view { view with
        timer := gap.map fun gap => view.timer.getD 0 + gap
        arrivals := view.arrivals + 1
        rejected := view.rejected + 1
        log := { view.log with
          gaps := view.log.gaps ++ [gap]
          dues := view.log.dues ++ [due] } }
  | joined (arrival : QueuedArrival) (isDue : arrival.arrivalTime = due)
      (hasClass : demand.HasClass direction arrival.typeId) :
      Arrives demand direction due gap view { view with
          timer := gap.map fun gap => view.timer.getD 0 + gap
          arrivals := view.arrivals + 1
          generated := view.generated ++ [arrival]
          backlog := view.backlog ++ [arrival]
          log := { view.log with
            gaps := view.log.gaps ++ [gap]
            dues := view.log.dues ++ [due] } }

/-- The vehicle that enters is the head of the queue. -/
def Enters (view : View) (vehicle : PlacedVehicle) (elapsed : ℚ) (later : View) : Prop :=
  ∃ head rest turn typeId, view.backlog = head :: rest ∧
    vehicle.turnIntent = head.turn ∧ vehicle.typeId = head.typeId ∧
    vehicle.spawnTime = elapsed ∧ vehicle.entryWait = elapsed - head.arrivalTime ∧
    later = { view with
      backlog := rest
      pendingTurn := turn
      pendingType := typeId
      admitted := view.admitted + 1
      log := { view.log with entered := view.log.entered ++ [vehicle] } }

section

variable {demand : Demand} {direction : Direction} {elapsed due clock : ℚ}
  {gap : Option ℚ} {view later : View}

theorem accumulate_concat (gaps : List ℚ) (gap : ℚ) :
    accumulate (gaps ++ [gap]) = accumulate gaps ++ [gaps.sum + gap] := by
  unfold accumulate
  rw [List.scanl_append, List.tail_append_of_ne_nil List.scanl_ne_nil]
  simp [List.sum_eq_foldl]

/-- The step lemma for an arrival that falls due. -/
theorem Queued.arrives (queued : Queued demand direction elapsed view)
    (arrives : Arrives demand direction due gap view later) (isPast : due ≤ elapsed) :
    Queued demand direction elapsed later := by
  have balanced := queued.balanced
  cases arrives with
  | rejected =>
    refine { queued with balanced := ?_, noted := ?_, queued := ?_ }
    · dsimp only; omega
    · simp [queued.noted]
    · exact queued.queued.trans (List.sublist_append_left _ _)
  | joined _ isDue hasClass =>
    obtain ⟨served, isGenerated, serves⟩ := queued.inOrder
    refine { queued with balanced := ?_, inOrder := ?_, isPast := ?_, classed := ?_, noted := ?_, queued := ?_ }
    · simp only [List.length_append, List.length_singleton]; omega
    · exact ⟨served, by simp [isGenerated], serves⟩
    · intro waiting member
      rcases List.mem_append.mp member with before | isNew
      · exact queued.isPast waiting before
      · rw [List.mem_singleton.mp isNew, isDue]; exact isPast
    · intro waiting member
      rcases List.mem_append.mp member with before | isNew
      · exact queued.classed waiting before
      · rw [List.mem_singleton.mp isNew]; exact hasClass
    · simp [queued.noted]
    · rw [List.map_append, List.map_singleton, isDue]
      exact queued.queued.append (List.Sublist.refl _)

/-- The clock of an approach runs on while arrivals are generated. -/
theorem OnTime.ticks {isOpen still : Prop} {clock' : ℚ} (onTime : view.OnTime isOpen clock)
    (isLog : later.log.gaps = view.log.gaps ∧ later.log.dues = view.log.dues) (runs : still →
      isOpen ∧ later.timer = view.timer.map fun timer => timer - (clock' - clock)) :
    later.OnTime still clock' := by
  obtain ⟨finite, last, isGaps, isDues, isLeft⟩ := onTime
  refine ⟨finite, last, isLog.1.trans isGaps, isLog.2.trans isDues, fun isStill => ?_⟩
  obtain ⟨isOpen, isTimer⟩ := runs isStill
  rw [isTimer, isLeft isOpen, Option.map_map]
  congr 1
  funext gap
  dsimp only [Function.comp]
  ring

/-- The due time is the next partial sum, and what is left over carries on. -/
theorem OnTime.arrives {timer : ℚ} (onTime : view.OnTime True clock)
    (isTimer : view.timer = some timer)
    (arrives : Arrives demand direction (clock + timer) gap view later) (isOpen : Prop) :
    later.OnTime isOpen clock := by
  obtain ⟨finite, last, isGaps, isDues, isLeft⟩ := onTime
  have isLast := (isTimer.symm.trans (isLeft trivial)).symm
  obtain ⟨running, rfl, isRunning⟩ := Option.map_eq_some_iff.mp isLast
  have isDue : clock + timer = finite.sum + running := by rw [← isRunning]; ring
  refine ⟨finite ++ [running], gap, ?_, ?_, fun _ => ?_⟩
  · cases arrives <;> simp [isGaps]
  · cases arrives <;> simp [isDues, accumulate_concat, isDue]
  · have isTimer' : later.timer = gap.map fun gap => timer + gap := by
      cases arrives <;> simp [isTimer]
    rw [isTimer', List.sum_append, List.sum_singleton]
    congr 1
    funext gap
    rw [← isDue]
    ring

theorem Queued.enters {vehicle : PlacedVehicle} (queued : Queued demand direction elapsed view)
    (enters : view.Enters vehicle elapsed later) : Queued demand direction elapsed later := by
  obtain ⟨head, rest, _, _, isBacklog, hasTurn, hasType, isSpawned, isWait, rfl⟩ := enters
  have balanced := queued.balanced
  have isHead : head ∈ view.backlog := by simp [isBacklog]
  have ofRest : ∀ arrival ∈ rest, arrival ∈ view.backlog := by
    intro arrival member
    simp [isBacklog, member]
  obtain ⟨served, isGenerated, serves⟩ := queued.inOrder
  refine { queued with balanced := ?_, counted := ?_, inOrder := ?_, isPast := ?_, classed := ?_ }
  · rw [isBacklog, List.length_cons] at balanced
    dsimp only
    omega
  · simp [queued.counted]
  · refine ⟨served ++ [head], by simp [isGenerated, isBacklog], ?_⟩
    apply List.rel_append serves
    refine .cons ⟨hasTurn, hasType, by rw [isWait, isSpawned], ?_⟩ .nil
    have isPast := queued.isPast head isHead
    rw [isWait]
    linarith
  · exact fun arrival member => queued.isPast arrival (ofRest arrival member)
  · exact fun arrival member => queued.classed arrival (ofRest arrival member)

/-! The invariant of an approach under the suspend model. -/

/-- The pending arrival, due at `due`. -/
def pending (demand : Demand) (direction : Direction) (view : View)
    (due : ℚ) : List QueuedArrival :=
  (view.pendingTurn.map fun turn =>
    (⟨due, turn, Desk.classOf demand direction view.pendingType⟩ : QueuedArrival)).toList

theorem pending_eq {demand : Demand} {direction : Direction} {view : View} {turn : TurnIntent}
    {typeId : Option String} (isPending : view.pendingTurn = some turn ∧
      Desk.classOf demand direction view.pendingType = typeId) (due : ℚ) :
    view.pending demand direction due = [⟨due, turn, typeId⟩] := by
  simp [pending, isPending]

/-- What holds of an approach whether or not it holds an arrival. -/
structure Counted (demand : Demand) (direction : Direction) (view : View) : Prop where
  rejected : view.rejected = 0
  counted : view.log.entered.length = view.admitted
  ready : demand.Ready direction view.pendingTurn view.pendingType

structure Held (demand : Demand) (direction : Direction) (hasLanes : Prop) (elapsed : ℚ)
    (view : View) : Prop extends Counted demand direction view where
  free : view.isHeld = false →
    view.arrivals = view.admitted ∧ view.pendingTurn = none ∧ view.InOrder []
  held : view.isHeld = true → view.arrivals = view.admitted + 1 ∧
    ∃ due, view.dueTime = some due ∧ due ≤ elapsed ∧ (hasLanes → view.pendingTurn.isSome) ∧
      view.InOrder (view.pending demand direction due)

/-- An arrival has been tried: it is pending, or `placed`. -/
structure InHand (demand : Demand) (direction : Direction) (hasLanes : Prop) (elapsed : ℚ)
    (placed : Option PlacedVehicle) (view : View) : Prop extends Counted demand direction view where
  arrivals : view.arrivals = view.admitted + 1
  due : ∃ due, view.dueTime = some due ∧ due ≤ elapsed ∧
    (placed = none → (hasLanes → view.pendingTurn.isSome) ∧
      view.InOrder (view.pending demand direction due)) ∧
    ∀ vehicle ∈ placed, view.pendingTurn = none ∧ vehicle.spawnTime = elapsed ∧
      view.InOrder [⟨due, vehicle.turnIntent, vehicle.typeId⟩]

end
end View

namespace Desk

/-- One approach as the desk has it. -/
def view (desk : Desk) (direction : Direction) : View where
  timer := desk.spawner.timers direction
  arrivals := desk.spawner.arrivals direction
  generated := desk.spawner.generated direction
  backlog := desk.spawner.backlog direction
  pendingTurn := desk.spawner.pendingTurn direction
  pendingType := desk.spawner.pendingType direction
  admitted := desk.spawner.admitted direction
  rejected := desk.spawner.rejected direction
  isHeld := desk.held direction
  dueTime := desk.dueTime direction
  log := desk.log direction

attribute [local simp] setTimer countArrival view noted offerHead

section

variable {Value Other : Type} {demand : Demand} {direction : Direction} {start : Desk}
  {after : Value → Desk → Prop}

variable {desk : Desk} {placed : Option PlacedVehicle} {remaining directions : List Direction}

/-! ## Rules -/

theorem ensures_seeing {next : Spawner → Effect Desk Value}
    (ofNext : Ensures (fun desk => desk = start) (next start.spawner) after fun _ => True) :
    Ensures (fun desk => desk = start) (onSpawner Effect.read >>= next) after fun _ => True := by
  rintro _ rfl
  exact ofNext _ rfl

theorem ensures_setting {change : Spawner → Spawner} {next : Unit → Effect Desk Value}
    (ofNext : Ensures (fun desk => desk = { start with spawner := change start.spawner })
      (next ()) after fun _ => True) :
    Ensures (fun desk => desk = start) (onSpawner (Effect.modify change) >>= next) after
      fun _ => True := by
  rintro _ rfl
  exact ofNext _ rfl

theorem ensures_noting {change : ApproachLog → ApproachLog} {next : Unit → Effect Desk Value}
    (ofNext : Ensures (fun desk => desk = noted direction change start) (next ()) after
      fun _ => True) :
    Ensures (fun desk => desk = start) (note direction change >>= next) after fun _ => True := by
  rintro _ rfl
  exact ofNext _ rfl

theorem ensures_onSpawner {effect : Effect Spawner Other} {between : Other → Spawner → Prop}
    {next : Other → Effect Desk Value}
    (ofFirst : Ensures (fun spawner => spawner = start.spawner) effect between fun _ => True)
    (ofNext : ∀ value spawner, between value spawner →
      Ensures (fun desk => desk = { start with spawner := spawner }) (next value) after
        fun _ => True) :
    Ensures (fun desk => desk = start) (onSpawner effect >>= next) after fun _ => True := by
  refine Ensures.bind (?_ : Ensures _ _ (fun value later =>
    ∃ spawner, between value spawner ∧ later = { start with spawner := spawner }) _) ?_
  · rintro _ rfl
    have ends := ofFirst _ rfl
    unfold onSpawner
    revert ends
    cases effect _ with
    | mk result spawner =>
      cases result with
      | ok => exact fun isBetween => ⟨spawner, isBetween, rfl⟩
      | error => exact id
  · intro value
    apply Ensures.of_each
    rintro _ ⟨spawner, isBetween, rfl⟩
    exact ofNext value spawner isBetween

theorem ensures_drawGap {next : Option ℚ → Effect Desk Value}
    (ofNext : ∀ gap drawn, Ensures (fun desk => desk = noted direction
        (fun log => { log with gaps := log.gaps ++ [gap] })
        { start with spawner := { start.spawner with drawn := drawn } })
      (next gap) after fun _ => True) :
    Ensures (fun desk => desk = start) (drawGap demand direction >>= next) after fun _ => True := by
  refine Ensures.bind (?_ : Ensures _ _ (fun gap later => ∃ drawn,
    later = noted direction (fun log => { log with gaps := log.gaps ++ [gap] })
      { start with spawner := { start.spawner with drawn := drawn } }) _) ?_
  · apply ensures_onSpawner (demand.generateNextArrivalTime_draws direction _)
    rintro gap _ ⟨-, drawn, rfl⟩
    apply ensures_noting
    exact Ensures.returned ⟨drawn, rfl⟩
  · intro gap
    apply Ensures.of_each
    rintro _ ⟨drawn, rfl⟩
    exact ofNext gap drawn

/-! ## The queue model -/

/-- One approach's turn leaves the time and the other approaches alone. -/
structure Aside (direction : Direction) (start later : Desk) : Prop where
  elapsed : later.spawner.elapsedTime = start.spawner.elapsedTime
  others : ∀ other, other ≠ direction → later.view other = start.view other

theorem Aside.trans {later last : Desk} (first : Aside direction start later)
    (second : Aside direction later last) : Aside direction start last where
  elapsed := second.elapsed.trans first.elapsed
  others other isOther := (second.others other isOther).trans (first.others other isOther)

/-- What the clock of an approach does to the desk. -/
structure Generates (demand : Demand) (direction : Direction)
    (start later : Desk) : Prop extends Aside direction start later where
  entered : (later.log direction).entered = (start.log direction).entered
  grows : start.spawner.totalArrivals ≤ later.spawner.totalArrivals
  limited : later.spawner.totalArrivals ≤ demand.totalVehiclesLimit
  queued : (later.view direction).Queued demand direction later.spawner.elapsedTime
  onTime : (later.view direction).OnTime
    (later.spawner.totalArrivals < demand.totalVehiclesLimit) later.spawner.elapsedTime

theorem sum_update_succ (counts : Direction → Nat) :
    (Direction.all.map (Function.update counts direction (counts direction + 1))).sum =
      (Direction.all.map counts).sum + 1 := by
  cases direction <;> simp [Direction.all] <;> omega

theorem Generates.arrives {later : Desk} {timer : ℚ} {gap : Option ℚ}
    (generates : Generates demand direction start desk)
    (isTimer : desk.spawner.timers direction = some timer) (runsOut : timer ≤ 0)
    (isOpen : desk.spawner.totalArrivals < demand.totalVehiclesLimit)
    (aside : Aside direction desk later)
    (entered : (later.log direction).entered = (desk.log direction).entered)
    (total : later.spawner.totalArrivals = desk.spawner.totalArrivals + 1)
    (arrives : (desk.view direction).Arrives demand direction (desk.spawner.elapsedTime + timer) gap
      (later.view direction)) :
    Generates demand direction start later where
  toAside := generates.toAside.trans aside
  entered := entered.trans generates.entered
  grows := by have grows := generates.grows; omega
  limited := by omega
  queued := by
    rw [aside.elapsed]
    exact generates.queued.arrives arrives (by linarith)
  onTime := by
    obtain ⟨finite, last, isGaps, isDues, isLeft⟩ := generates.onTime
    have onTime : (desk.view direction).OnTime True desk.spawner.elapsedTime :=
      ⟨finite, last, isGaps, isDues, fun _ => isLeft isOpen⟩
    rw [aside.elapsed]
    exact onTime.arrives isTimer arrives _

theorem generateDue_ensures (room : Nat) :
    Ensures (Generates demand direction start) (generateDue demand direction room)
      (fun _ => Generates demand direction start) (fun _ => True) := by
  induction room with
  | zero => exact Ensures.give fun _ => id
  | succ _ ih =>
    apply Ensures.of_each
    intro desk generates
    apply ensures_seeing
    cases isTimer : desk.spawner.timers direction with
    | none => exact Ensures.returned generates
    | some =>
      apply iteInduction (motive := fun effect => Ensures _ effect _ _)
      · rintro ⟨runsOut, isOpen⟩
        apply ensures_setting
        apply ensures_noting
        apply ensures_onSpawner (demand.takeArrival_ensures direction _ _)
        intro _ spawner taken
        apply ensures_drawGap
        intro gap drawn
        apply ensures_setting
        apply Ensures.of_stronger ih _
        rintro _ rfl
        obtain rfl | ⟨arrival, _, isDue, hasClass, rfl⟩ := taken
        · refine generates.arrives isTimer runsOut isOpen ?_ ?_ ?_ (?_ : View.Arrives _ _ _ gap _ _)
          · refine ⟨rfl, fun other isOther => ?_⟩
            simp [addToTimer, countRejected, isOther]
          · simp
          · exact sum_update_succ _
          · convert View.Arrives.rejected using 1
            simp [addToTimer, countRejected, isTimer]
            cases gap <;> rfl
        · refine generates.arrives isTimer runsOut isOpen ?_ ?_ ?_ (?_ : View.Arrives _ _ _ gap _ _)
          · refine ⟨rfl, fun other isOther => ?_⟩
            simp [addToTimer, joinBacklog, isOther]
          · simp
          · exact sum_update_succ _
          · convert View.Arrives.joined arrival isDue hasClass using 1
            simp [addToTimer, joinBacklog, isTimer]
            cases gap <;> rfl
      · exact fun _ => Ensures.returned generates

/-- What the offer of the entry does: the queue keeps waiting, or its head enters. -/
structure Offers (direction : Direction) (start : Desk) (placed : Option PlacedVehicle)
    (later : Desk) : Prop extends Aside direction start later where
  total : later.spawner.totalArrivals = start.spawner.totalArrivals
  blocked : placed = none → ∃ turn typeId, later.view direction =
    { start.view direction with pendingTurn := turn, pendingType := typeId }
  enters : ∀ vehicle ∈ placed, (start.view direction).Enters vehicle start.spawner.elapsedTime
    ((noted direction (fun log => { log with entered := log.entered ++ [vehicle] })
      later).view direction)

theorem offerEntry_ensures (lanes : List EntryLane) (dt : ℚ)
    (classed : ∀ arrival ∈ start.spawner.backlog direction,
      demand.HasClass direction arrival.typeId) :
    Ensures (fun spawner => spawner = start.spawner) (demand.offerEntry direction lanes dt)
      (fun placed spawner => Offers direction start placed { start with spawner := spawner })
      (fun _ => True) := by
  apply Ensures.reading
  cases isBacklog : start.spawner.backlog direction with
  | nil =>
    apply Ensures.returned
    exact ⟨⟨rfl, fun _ _ => rfl⟩, rfl, fun _ => ⟨_, _, rfl⟩,
      fun _ isNone => absurd isNone (Option.not_mem_none _)⟩
  | cons head rest =>
    have hasClass := classed head (by simp [isBacklog])
    have isClass : classOf demand direction
          ((offerHead direction head start.spawner).pendingType direction) = head.typeId ∧
        demand.Ready direction (some head.turn)
          ((offerHead direction head start.spawner).pendingType direction) := by
      unfold HasClass at hasClass
      unfold classOf Ready
      cases isPopulation : demand.populationOf direction with
      | none => rw [isPopulation] at hasClass; simp [hasClass]
      | some =>
        rw [isPopulation] at hasClass
        obtain ⟨known, -, isKnown⟩ := hasClass
        simp [isKnown]
    have isTurn : (offerHead direction head start.spawner).pendingTurn direction =
        some head.turn := Function.update_self ..
    apply Ensures.changing
    apply Ensures.bind (attemptSpawn_ensures lanes (by rw [isTurn]; exact isClass.2))
    intro placed
    apply Ensures.of_each
    rintro later ⟨touched, -, tried⟩
    obtain ⟨_, _, turn, typeId, rfl⟩ := touched.exists
    cases placed with
    | none =>
      apply Ensures.changing
      apply Ensures.returned
      refine ⟨⟨rfl, fun other isOther => ?_⟩, rfl, fun _ => ⟨turn, typeId, ?_⟩,
        fun _ isNone => absurd isNone (Option.not_mem_none _)⟩
      · simp [countBlocked, isOther]
      · simp [countBlocked]
    | some vehicle =>
      apply Ensures.changing
      apply Ensures.returned
      refine ⟨⟨rfl, fun other isOther => ?_⟩, rfl,
        fun isNone => absurd isNone (Option.some_ne_none _), fun made isMade => ?_⟩
      · simp [countAdmitted, isOther]
      · cases Option.mem_some_iff.mp isMade
        obtain ⟨-, isNone, -⟩ | ⟨-, _, _, tried⟩ := tried
        · exact absurd isNone (Option.some_ne_none _)
        have known := tried.turn_eq head.turn isTurn
        obtain ⟨-, hasTurn, hasType, isSpawned⟩ := tried.entered vehicle rfl
        refine ⟨head, rest, turn, typeId, isBacklog, ?_, ?_, isSpawned, rfl, ?_⟩
        · exact hasTurn.trans known.1.symm
        · exact hasType.trans (known.2.symm.trans isClass.1)
        · simp [countAdmitted, isBacklog]

/-- The desk at an approach's turn: its clock is `dt` behind. -/
structure AtTurn (demand : Demand) (direction : Direction) (dt : ℚ) (desk : Desk) : Prop where
  limited : desk.spawner.totalArrivals ≤ demand.totalVehiclesLimit
  queued : (desk.view direction).Queued demand direction desk.spawner.elapsedTime
  onTime : (desk.view direction).OnTime
    (desk.spawner.totalArrivals < demand.totalVehiclesLimit) (desk.spawner.elapsedTime - dt)

theorem runClock_ensures {timer dt : ℚ} (isTimer : start.spawner.timers direction = some timer)
    (atTurn : AtTurn demand direction dt start) :
    Ensures (fun desk => desk = start) (runClock demand direction timer dt)
      (fun _ => Generates demand direction start) (fun _ => True) := by
  apply ensures_seeing
  apply iteInduction (motive := fun effect => Ensures _ effect _ _)
  · intro isOpen
    apply ensures_setting
    apply Ensures.of_stronger (generateDue_ensures _) _
    rintro _ rfl
    refine ⟨⟨rfl, fun other isOther => ?_⟩, rfl, le_rfl, atTurn.limited,
      { atTurn.queued with }, atTurn.onTime.ticks ⟨rfl, rfl⟩ fun isOpen => ⟨isOpen, ?_⟩⟩
    · simp [isOther]
    · simp [isTimer]
  · intro isClosed
    apply Ensures.returned
    exact ⟨⟨rfl, fun _ _ => rfl⟩, rfl, le_rfl, atTurn.limited, atTurn.queued,
      atTurn.onTime.ticks ⟨rfl, rfl⟩ fun isOpen => absurd isOpen isClosed⟩

/-- What an approach's turn does to the desk. -/
structure Turns (demand : Demand) (direction : Direction) (start later : Desk) : Prop
    extends Aside direction start later, AtTurn demand direction 0 later where
  entered : (later.log direction).entered.length ≤ (start.log direction).entered.length + 1
  grows : start.spawner.totalArrivals ≤ later.spawner.totalArrivals

theorem stepQueued_ensures {dt : ℚ} (lanes : List EntryLane)
    (atTurn : AtTurn demand direction dt start) :
    Ensures (fun desk => desk = start) (stepQueued demand direction lanes dt)
      (fun _ => Turns demand direction start) (fun _ => True) := by
  apply ensures_seeing
  cases isTimer : start.spawner.timers direction with
  | none =>
    apply Ensures.returned
    refine ⟨⟨rfl, fun _ _ => rfl⟩, ⟨atTurn.limited, atTurn.queued, ?_⟩, Nat.le_succ _, le_rfl⟩
    exact atTurn.onTime.ticks ⟨rfl, rfl⟩ fun isOpen => ⟨isOpen, by simp [isTimer]⟩
  | some =>
    apply Ensures.bind (runClock_ensures isTimer atTurn)
    intro _
    apply Ensures.of_each
    intro desk generates
    apply ensures_onSpawner (offerEntry_ensures lanes dt generates.queued.classed)
    intro placed spawner offers
    apply ensures_noting
    apply Ensures.returned
    have aside := generates.toAside.trans offers.toAside
    have grows := generates.grows.trans offers.total.ge
    have limited := offers.total.trans_le generates.limited
    have isEntered := congrArg List.length generates.entered
    have isOpen := fun isOpen : spawner.totalArrivals < demand.totalVehiclesLimit =>
      offers.total ▸ isOpen
    have elapsed := offers.elapsed
    cases placed with
    | none =>
      obtain ⟨_, _, isView⟩ := offers.blocked rfl
      have same : noted direction (fun log => { log with entered := log.entered ++ none.toList })
          { desk with spawner := spawner } = { desk with spawner := spawner } := by
        simp
      rw [same]
      refine ⟨aside, ⟨limited, ?_, ?_⟩, isEntered.le.trans (Nat.le_succ _), grows⟩
      · rw [isView, elapsed]
        exact { generates.queued with }
      · rw [isView, elapsed]
        exact generates.onTime.ticks ⟨rfl, rfl⟩ fun open_ => ⟨isOpen open_, by simp⟩
    | some vehicle =>
      have enters := offers.enters vehicle rfl
      refine ⟨⟨aside.elapsed, fun other isOther => ?_⟩, ⟨limited, ?_, ?_⟩, ?_, grows⟩
      · rw [← aside.others other isOther]
        simp [isOther]
      · change View.Queued demand direction spawner.elapsedTime _
        rw [elapsed]
        exact generates.queued.enters enters
      · obtain ⟨_, _, _, _, -, -, -, -, -, isView⟩ := enters
        change View.OnTime _ _ (spawner.elapsedTime - 0)
        dsimp only [Option.toList_some]
        rw [isView, elapsed]
        exact generates.onTime.ticks ⟨rfl, rfl⟩ fun open_ => ⟨isOpen open_, by simp⟩
      · simp [isEntered]

/-! ## The suspend model -/

/-- What trying the arrival in hand does to the desk. -/
structure Tries (demand : Demand) (direction : Direction) (hasLanes : Prop) (start : Desk)
    (placed : Option PlacedVehicle) (later : Desk) : Prop extends Aside direction start later where
  entered : (later.log direction).entered = (start.log direction).entered
  spawned : later.spawner.spawnedCount = start.spawner.spawnedCount
  admitted : later.spawner.admitted = start.spawner.admitted
  inHand : (later.view direction).InHand demand direction hasLanes later.spawner.elapsedTime placed

theorem view_noteDrawn (placed : Option PlacedVehicle) (desk : Desk) :
    (noteDrawn demand direction placed desk).view direction = { desk.view direction with
        generated := (desk.view direction).generated ++
          (drawnBy demand direction placed desk.spawner).toList } := by
  simp [noteDrawn]

theorem tryEntry_ensures {lanes : List EntryLane}
    (held : (start.view direction).Held demand direction (lanes ≠ []) start.spawner.elapsedTime) :
    Ensures (fun desk => desk = start) (tryEntry demand direction lanes)
      (Tries demand direction (lanes ≠ []) start) (fun _ => True) := by
  apply Ensures.reading
  apply Ensures.changing
  cases isHeld : start.held direction with
  | true =>
    obtain ⟨arrivals, due, isDue, isPast, isPending, inOrder⟩ := held.held isHeld
    apply ensures_onSpawner (attemptSpawn_ensures lanes held.ready)
    rintro placed spawner ⟨touched, ready, ⟨noLanes, rfl, rfl⟩ | ⟨hasLanes, turn, typeId, tried⟩⟩
    · apply Ensures.changing
      apply Ensures.returned
      exact ⟨⟨rfl, fun _ _ => rfl⟩, rfl, rfl, rfl, held.toCounted, arrivals, due, isDue,
        isPast, fun _ => ⟨isPending, inOrder⟩,
        fun _ isNone => absurd isNone (Option.not_mem_none _)⟩
    · obtain ⟨known, isKnown⟩ := Option.isSome_iff_exists.mp (isPending hasLanes)
      obtain ⟨rfl, isType⟩ := tried.turn_eq known isKnown
      rw [View.pending_eq ⟨isKnown, isType⟩] at inOrder
      obtain ⟨_, _, _, _, rfl⟩ := touched.exists
      apply Ensures.changing
      apply Ensures.returned
      refine ⟨⟨rfl, fun other isOther => ?_⟩, rfl, rfl, rfl,
        ⟨held.rejected, held.counted, ready⟩, arrivals, due, isDue, isPast,
        fun isNone => ?_, fun vehicle isPlaced => ?_⟩
      · simp [isOther]
      · have blocked := tried.blocked isNone
        refine ⟨fun _ => Option.isSome_iff_exists.mpr ⟨_, blocked.1⟩, ?_⟩
        rw [View.pending_eq blocked]
        exact inOrder
      · obtain ⟨isFree, rfl, rfl, isSpawned⟩ := tried.entered vehicle isPlaced
        exact ⟨isFree, isSpawned, inOrder⟩
  | false =>
    obtain ⟨arrivals, isPending, served, isGenerated, serves⟩ := held.free isHeld
    change Ensures (fun desk => desk = arrive direction start) _ _ _
    refine ensures_onSpawner (attemptSpawn_ensures lanes (by exact held.ready)) ?_
    rintro placed spawner ⟨touched, ready, tried⟩
    obtain ⟨_, _, _, _, rfl⟩ := touched.exists
    rw [if_neg Bool.false_ne_true]
    apply Ensures.changing
    apply Ensures.returned
    refine ⟨⟨rfl, fun other isOther => ?_⟩, rfl, rfl, rfl, ?_⟩
    · simp [isOther, noteDrawn, arrive]
    rw [view_noteDrawn]
    have inOrder : ∀ waiting, View.InOrder { start.view direction with
          generated := (start.view direction).generated ++ waiting } waiting := by
      exact fun waiting => ⟨served, by rw [isGenerated, List.append_nil], serves⟩
    refine ⟨⟨held.rejected, held.counted, ready⟩, ?_, start.spawner.elapsedTime, ?_,
      le_rfl, fun isNone => ⟨fun hasLanes => ?_, ?_⟩, fun vehicle isPlaced => ?_⟩
    · simpa [arrive] using arrivals
    · simp [arrive]
    · obtain ⟨noLanes, -⟩ | ⟨-, turn, typeId, tried⟩ := tried
      · exact absurd noLanes hasLanes
      · exact Option.isSome_iff_exists.mpr ⟨_, (tried.blocked isNone).1⟩
    · subst isNone
      exact inOrder _
    · obtain ⟨-, isNone, -⟩ | ⟨-, _, _, tried⟩ := tried
      · rw [isNone] at isPlaced
        exact absurd isPlaced (Option.not_mem_none _)
      · obtain ⟨isFree, -, -, isSpawned⟩ := tried.entered vehicle isPlaced
        cases Option.mem_def.mp isPlaced
        exact ⟨isFree, isSpawned, inOrder _⟩

/-- What an approach's turn does to the desk. -/
structure Suspends (demand : Demand) (direction : Direction) (hasLanes : Prop) (start : Desk)
    (placed : Option PlacedVehicle) (later : Desk) : Prop extends Aside direction start later where
  entered : (later.log direction).entered.length ≤ (start.log direction).entered.length + 1
  spawned : placed = none ∧ later.spawner.spawnedCount = start.spawner.spawnedCount ∧
      later.spawner.admitted = start.spawner.admitted ∨
    placed.isSome ∧ later.spawner.spawnedCount = start.spawner.spawnedCount + 1 ∧
      later.spawner.admitted = Function.update start.spawner.admitted direction
        (start.spawner.admitted direction + 1)
  held : (later.view direction).Held demand direction hasLanes later.spawner.elapsedTime

theorem settle_ensures {hasLanes : Prop} (dt : ℚ)
    (tries : Tries demand direction hasLanes start placed desk) :
    Ensures (fun state => state = desk) (settle demand direction dt placed)
      (Suspends demand direction hasLanes start) (fun _ => True) := by
  have inHand := tries.inHand
  have isEntered := congrArg List.length tries.entered
  obtain ⟨due, isDue, isPast, ofNone, ofSome⟩ := inHand.due
  cases placed with
  | none =>
    obtain ⟨isPending, inOrder⟩ := ofNone rfl
    apply Ensures.changing
    apply Ensures.returned
    refine ⟨⟨tries.elapsed, fun other isOther => ?_⟩, isEntered.le.trans (Nat.le_succ _),
      .inl ⟨rfl, tries.spawned, tries.admitted⟩,
      ⟨inHand.rejected, inHand.counted, inHand.ready⟩, fun isFree => ?_,
      fun _ => ⟨inHand.arrivals, due, isDue, isPast, isPending, inOrder⟩⟩
    · rw [← tries.others other isOther]
      simp [hold, countBlocked, isOther]
    · simp [hold] at isFree
  | some vehicle =>
    obtain ⟨isPending, isSpawned, served, isGenerated, serves⟩ := ofSome vehicle rfl
    apply Ensures.reading
    change desk.dueTime direction = some due at isDue
    rw [isDue]
    apply Ensures.changing
    apply ensures_noting
    apply ensures_drawGap
    intro gap drawn
    apply ensures_setting
    apply Ensures.returned
    refine ⟨⟨tries.elapsed, fun other isOther => ?_⟩, ?_, .inr ⟨rfl, ?_, ?_⟩,
      ⟨inHand.rejected, ?_, inHand.ready⟩, fun _ => ⟨?_, isPending, ?_⟩, fun isHeld => ?_⟩
    · rw [← tries.others other isOther]
      simp [admitHeld, isOther]
    · simp [admitHeld, isEntered]
    · rw [← tries.spawned]
      rfl
    · rw [← tries.admitted]
      rfl
    · have counted := inHand.counted
      simpa [admitHeld] using counted
    · have arrivals := inHand.arrivals
      simpa [admitHeld] using arrivals
    · refine ⟨served ++ [⟨due, vehicle.turnIntent, vehicle.typeId⟩], ?_, ?_⟩
      · simpa [admitHeld] using isGenerated
      · have isServed : List.Forall₂ Serves ((desk.log direction).entered ++
              [{ vehicle with entryWait := desk.spawner.elapsedTime - due }])
            (served ++ [⟨due, vehicle.turnIntent, vehicle.typeId⟩]) := by
          apply List.rel_append serves
          exact .cons ⟨rfl, rfl, by rw [isSpawned], sub_nonneg.mpr isPast⟩ .nil
        simpa [admitHeld] using isServed
    · simp [admitHeld] at isHeld

theorem stepHeld_ensures {dt : ℚ} {lanes : List EntryLane}
    (held : (start.view direction).Held demand direction (lanes ≠ []) start.spawner.elapsedTime) :
    Ensures (fun desk => desk = start) (stepHeld demand direction lanes dt)
      (Suspends demand direction (lanes ≠ []) start) (fun _ => True) := by
  have idle := (⟨⟨rfl, fun _ _ => rfl⟩, Nat.le_succ _, .inl ⟨rfl, rfl, rfl⟩, held⟩ :
    Suspends demand direction (lanes ≠ []) start none start)
  apply ensures_seeing
  cases isTimer : start.spawner.timers direction with
  | none => exact Ensures.returned idle
  | some timer =>
    apply ensures_setting
    let ticked := { start with
      spawner := setTimer direction (some (timer - dt)) start.spawner }
    have others : ∀ other, other ≠ direction → ticked.view other = start.view other := by
      intro other isOther
      simp [ticked, isOther]
    have held : (ticked.view direction).Held demand direction (lanes ≠ [])
        ticked.spawner.elapsedTime := { held with }
    apply iteInduction (motive := fun effect => Ensures _ effect _ _)
    · intro _
      apply Ensures.bind (tryEntry_ensures held)
      intro placed
      apply Ensures.of_each
      intro desk tries
      apply settle_ensures dt
      exact { tries with others := fun other isOther =>
        (tries.others other isOther).trans (others other isOther) }
    · intro _
      apply Ensures.returned
      exact { idle with others := others, held := held }

/-! ## Steps -/

/-- No approach has let in more than one vehicle since `start`, and none of those
whose turn is still to come has let in any. -/
structure OneEach (start : Desk) (remaining : List Direction) (desk : Desk) : Prop where
  entered : ∀ direction, (desk.log direction).entered.length ≤
    (start.log direction).entered.length + 1
  fresh : ∀ direction ∈ remaining, (desk.log direction).entered = (start.log direction).entered

theorem OneEach.turn {later : Desk} (oneEach : OneEach start (direction :: remaining) desk)
    (isOnce : direction ∉ remaining) (aside : Aside direction desk later)
    (entered : (later.log direction).entered.length ≤ (desk.log direction).entered.length + 1) :
    OneEach start remaining later := by
  have others : ∀ other, other ≠ direction → later.log other = desk.log other :=
    fun other isOther => congrArg View.log (aside.others other isOther)
  constructor
  · intro other
    rcases eq_or_ne other direction with rfl | isOther
    · rw [← oneEach.fresh other List.mem_cons_self]
      exact entered
    · rw [others other isOther]
      exact oneEach.entered other
  · intro other member
    have isOther : other ≠ direction := fun same => isOnce (same ▸ member)
    rw [others other isOther]
    exact oneEach.fresh other (List.mem_cons_of_mem _ member)

variable {lanes : Direction → List EntryLane} {dt : ℚ}

/-- The clocks of the approaches whose turn is still to come are `dt` behind. -/
def behind (dt : ℚ) (remaining : List Direction) (direction : Direction) : ℚ :=
  if direction ∈ remaining then dt else 0

theorem AtTurn.turn {later : Desk}
    (atTurn : ∀ other, AtTurn demand other (behind dt (direction :: remaining) other) desk)
    (isOnce : direction ∉ remaining) (turns : Turns demand direction desk later) (other : Direction)
    : AtTurn demand other (behind dt remaining other) later := by
  unfold behind at atTurn ⊢
  rcases eq_or_ne other direction with rfl | isOther
  · rw [if_neg isOnce]
    exact turns.toAtTurn
  · have atOther := atTurn other
    simp only [List.mem_cons, isOther, false_or] at atOther
    have isView := turns.others other isOther
    refine ⟨turns.limited, ?_, ?_⟩
    · rw [isView, turns.elapsed]
      exact atOther.queued
    · rw [isView, turns.elapsed]
      exact atOther.onTime.ticks ⟨rfl, rfl⟩ fun isOpen => ⟨turns.grows.trans_lt isOpen, by simp⟩

theorem stepApproaches_queued (isOnce : directions.Nodup) :
    Ensures (fun desk => (∀ other, AtTurn demand other (behind dt directions other) desk) ∧
        OneEach start directions desk) (stepApproaches .queue demand lanes dt directions)
      (fun _ desk => (∀ other, AtTurn demand other 0 desk) ∧ OneEach start [] desk)
      (fun _ => True) := by
  induction directions with
  | nil => exact Ensures.give fun desk holds => by simpa [behind] using holds
  | cons direction _ ih =>
    obtain ⟨isNew, isOnce⟩ := List.nodup_cons.mp isOnce
    apply Ensures.of_each
    rintro desk ⟨atTurn, oneEach⟩
    have atFirst := atTurn direction
    rw [behind, if_pos List.mem_cons_self] at atFirst
    apply Ensures.bind (stepQueued_ensures (lanes direction) atFirst)
    intro placed
    apply Ensures.of_each
    intro later turns
    apply ensures_seeing
    rw [if_neg (by simp [Stops])]
    refine Ensures.bind (Ensures.of_stronger (ih isOnce) ?_) fun _ => Ensures.give fun _ => id
    rintro _ rfl
    exact ⟨AtTurn.turn atTurn isNew turns, oneEach.turn isNew turns.toAside turns.entered⟩

/-- The invariant of the suspend model. -/
structure Suspended (demand : Demand) (hasLanes : Direction → Prop) (desk : Desk) : Prop where
  limited : desk.spawner.spawnedCount ≤ demand.totalVehiclesLimit
  spawned : desk.spawner.spawnedCount = (Direction.all.map desk.spawner.admitted).sum
  held : ∀ direction, (desk.view direction).Held demand direction (hasLanes direction)
    desk.spawner.elapsedTime

theorem Suspended.turn {later : Desk} {hasLanes : Direction → Prop}
    (suspended : Suspended demand hasLanes desk)
    (isOpen : desk.spawner.spawnedCount < demand.totalVehiclesLimit)
    (suspends : Suspends demand direction (hasLanes direction) desk placed later) :
    Suspended demand hasLanes later ∧ (¬ Stops .suspend demand placed later.spawner →
        later.spawner.spawnedCount < demand.totalVehiclesLimit) := by
  have total := suspended.spawned
  have held : ∀ other, (later.view other).Held demand other (hasLanes other)
      later.spawner.elapsedTime := by
    intro other
    rcases eq_or_ne other direction with rfl | isOther
    · exact suspends.held
    · rw [suspends.others other isOther, suspends.elapsed]
      exact suspended.held other
  obtain ⟨isNone, spawned, admitted⟩ | ⟨isSome, spawned, admitted⟩ := suspends.spawned
  · exact ⟨⟨by omega, by rw [spawned, admitted, total], held⟩, fun _ => by omega⟩
  · refine ⟨⟨by omega, by rw [spawned, admitted, sum_update_succ, total], held⟩, ?_⟩
    exact fun goesOn => not_le.mp fun isFull => goesOn ⟨rfl, isSome, isFull⟩

theorem stepApproaches_suspended (isOnce : directions.Nodup) :
    Ensures (fun desk => Suspended demand (fun other => lanes other ≠ []) desk ∧
        desk.spawner.spawnedCount < demand.totalVehiclesLimit ∧ OneEach start directions desk)
      (stepApproaches .suspend demand lanes dt directions)
      (fun _ desk => Suspended demand (fun other => lanes other ≠ []) desk ∧ OneEach start [] desk)
      (fun _ => True) := by
  induction directions with
  | nil => exact Ensures.give fun desk holds => ⟨holds.1, holds.2.2⟩
  | cons direction _ ih =>
    obtain ⟨isNew, isOnce⟩ := List.nodup_cons.mp isOnce
    apply Ensures.of_each
    rintro desk ⟨suspended, isOpen, oneEach⟩
    apply Ensures.bind (stepHeld_ensures (suspended.held direction))
    intro placed
    apply Ensures.of_each
    intro later suspends
    have turned := suspended.turn isOpen suspends
    have oneEach := oneEach.turn isNew suspends.toAside suspends.entered
    apply ensures_seeing
    apply iteInduction (motive := fun effect => Ensures _ effect _ _)
    · intro _
      apply Ensures.returned
      exact ⟨turned.1, oneEach.entered, fun _ => nofun⟩
    · intro goesOn
      refine Ensures.bind (Ensures.of_stronger (ih isOnce) ?_) fun _ => Ensures.give fun _ => id
      rintro _ rfl
      exact ⟨turned.1, turned.2 goesOn, oneEach⟩

/-- The invariant of a run. -/
def Sound (model : EntryModel) (demand : Demand) (entries : Direction → List (List TurnIntent))
    (desk : Desk) : Prop :=
  match model with
  | .queue => ∀ direction, AtTurn demand direction 0 desk
  | .suspend => Suspended demand (fun direction => entries direction ≠ []) desk

theorem all_nodup : Direction.all.Nodup := by decide

variable {model : EntryModel} {entries : Direction → List (List TurnIntent)}

theorem step_ensures (sound : Sound model demand entries start) (beat : Beat) :
    Ensures (fun desk => desk = start) (step model demand (beat.lanes entries) beat.dt)
      (fun _ later => Sound model demand entries later ∧ OneEach start [] later)
      (fun _ => True) := by
  have oneEach : ∀ desk : Desk, desk.log = start.log → OneEach start Direction.all desk := by
    intro desk isLog
    constructor
    · intro direction
      rw [isLog]
      exact Nat.le_succ _
    · intro direction _
      rw [isLog]
  have dt_pos := beat.dt_pos
  cases model with
  | queue =>
    apply ensures_setting
    apply Ensures.of_stronger (stepApproaches_queued all_nodup) _
    rintro _ rfl
    refine ⟨fun direction => ?_, oneEach _ rfl⟩
    have atTurn := sound direction
    have isLast : behind beat.dt Direction.all direction = beat.dt :=
      if_pos (by cases direction <;> decide)
    refine ⟨atTurn.limited, { atTurn.queued with isPast := ?_ }, ?_⟩
    · intro arrival member
      have isPast := atTurn.queued.isPast arrival member
      dsimp only [startTick]
      linarith
    · have onTime := atTurn.onTime
      rw [isLast]
      dsimp only [startTick]
      rw [sub_zero] at onTime
      rw [add_sub_cancel_right]
      exact onTime
  | suspend =>
    have hasLanes : (fun direction => beat.lanes entries direction ≠ []) =
        fun direction => entries direction ≠ [] := by
      funext direction
      simp [Beat.lanes]
    have ticked : Suspended demand (fun direction => entries direction ≠ [])
        { start with spawner := startSuspended demand beat.dt start.spawner } := by
      refine ⟨sound.limited, sound.spawned, fun direction => ?_⟩
      have held := sound.held direction
      refine { held with held := fun isHeld => ?_ }
      obtain ⟨arrivals, due, isDue, isPast, holds⟩ := held.held isHeld
      refine ⟨arrivals, due, isDue, ?_, holds⟩
      dsimp only [startSuspended]
      linarith
    have oneEach := oneEach
      { start with spawner := startSuspended demand beat.dt start.spawner } rfl
    apply ensures_setting
    apply ensures_seeing
    apply iteInduction (motive := fun effect => Ensures _ effect _ _)
    · intro _
      apply Ensures.returned
      exact ⟨ticked, oneEach.entered, fun _ => nofun⟩
    · intro isOpen
      apply Ensures.mono (stepApproaches_suspended all_nodup) _ (fun _ _ holds => ?_) (fun _ => id)
      · exact start
      · rintro _ rfl
        refine ⟨?_, not_le.mp isOpen, oneEach⟩
        rw [hasLanes]
        exact ticked
      · rw [hasLanes] at holds
        exact holds

/-! ## Runs -/

/-- An approach before the first step, with its first arrival time. -/
def started (timer : Option ℚ) : View :=
  ⟨timer, 0, [], [], none, none, 0, 0, false, none, { gaps := [timer] }⟩

/-- A desk of which the approaches in `remaining` have no arrival time yet. -/
structure Started (remaining : List Direction) (desk : Desk) : Prop where
  elapsed : desk.spawner.elapsedTime = 0
  spawned : desk.spawner.spawnedCount = 0
  unset : ∀ direction ∈ remaining, desk.view direction = ({} : Desk).view direction
  isSet : ∀ direction, direction ∉ remaining → ∃ timer, desk.view direction = started timer

theorem startTimers_ensures (isOnce : directions.Nodup) :
    Ensures (Started directions) (startTimers demand directions) (fun _ => Started [])
      (fun _ => True) := by
  induction directions with
  | nil => exact Ensures.give fun _ => id
  | cons direction _ ih =>
    obtain ⟨isNew, isOnce⟩ := List.nodup_cons.mp isOnce
    apply Ensures.of_each
    intro desk isStarted
    apply ensures_drawGap
    intro timer drawn
    apply ensures_setting
    apply Ensures.of_stronger (ih isOnce) _
    rintro _ rfl
    have isView := isStarted.unset direction List.mem_cons_self
    refine ⟨isStarted.elapsed, isStarted.spawned, fun other member => ?_, fun other isLater => ?_⟩
    · have isOther : other ≠ direction := fun same => isNew (same ▸ member)
      rw [← isStarted.unset other (List.mem_cons_of_mem _ member)]
      simp [isOther]
    · rcases eq_or_ne other direction with rfl | isOther
      · refine ⟨timer, ?_⟩
        have isSet := congrArg (fun view : View =>
          { view with timer := timer, log.gaps := view.log.gaps ++ [timer] }) isView
        simpa [started] using isSet
      · obtain ⟨first, isFirst⟩ := isStarted.isSet other (by simp [isOther, isLater])
        refine ⟨first, ?_⟩
        rw [← isFirst]
        simp [isOther]

theorem reset_ensures :
    Ensures (fun desk => desk = {}) (reset demand) (fun _ => Started []) (fun _ => True) := by
  apply ensures_onSpawner (demand.resolveSplit_draws _)
  rintro _ _ ⟨-, _, rfl⟩
  apply ensures_onSpawner (demand.resolveTurnProbabilities_draws _)
  rintro _ _ ⟨-, _, rfl⟩
  apply ensures_setting
  apply Ensures.of_stronger (startTimers_ensures all_nodup) _
  rintro _ rfl
  exact ⟨rfl, rfl, fun _ _ => rfl, fun direction isOut => absurd (by cases direction <;> decide) isOut⟩

theorem Started.sound (isStarted : Started [] start) : Sound model demand entries start := by
  have isView := fun direction => isStarted.isSet direction List.not_mem_nil
  have none_arrived : ∀ direction, start.spawner.arrivals direction = 0 ∧
      start.spawner.admitted direction = 0 := by
    intro direction
    obtain ⟨timer, isFirst⟩ := isView direction
    exact ⟨congrArg View.arrivals isFirst, congrArg View.admitted isFirst⟩
  cases model with
  | queue =>
    intro direction
    obtain ⟨timer, isFirst⟩ := isView direction
    refine ⟨?_, ?_, ?_⟩
    · simp [Source.totalArrivals, Direction.all, none_arrived]
    · rw [isFirst]
      exact ⟨rfl, rfl, ⟨[], rfl, .nil⟩, by simp [started], by simp [started], rfl, .slnil⟩
    · rw [isFirst]
      refine ⟨[], timer, rfl, rfl, fun _ => ?_⟩
      simp [started, isStarted.elapsed]
  | suspend =>
    refine ⟨isStarted.spawned.trans_le (Nat.zero_le _), ?_, fun direction => ?_⟩
    · simp [isStarted.spawned, Direction.all, none_arrived]
    · obtain ⟨timer, isFirst⟩ := isView direction
      rw [isFirst]
      exact ⟨⟨rfl, rfl, by simp [started, Ready]⟩, fun _ => ⟨rfl, rfl, [], rfl, .nil⟩, by simp [started]⟩

theorem steps_ensures (beats : List Beat) :
    Ensures (Sound model demand entries) (steps model demand entries beats)
      (fun _ => Sound model demand entries) (fun _ => True) := by
  induction beats with
  | nil => exact Ensures.give fun _ => id
  | cons beat _ ih =>
    apply Ensures.of_each
    intro desk sound
    apply Ensures.bind (step_ensures sound beat)
    exact fun _ => Ensures.of_stronger ih (fun _ holds => holds.1)

structure Accounted (model : EntryModel) (demand : Demand) (desk : Desk) : Prop where
  balanced : ∀ direction, desk.spawner.arrivals direction =
    desk.spawner.admitted direction + waiting model desk direction + desk.spawner.rejected direction
  figures : (demandAccounting model desk).arrivals = (demandAccounting model desk).admitted +
      (demandAccounting model desk).waitingAtEntry + (demandAccounting model desk).rejected
  counted : ∀ direction, (desk.log direction).entered.length = desk.spawner.admitted direction
  inOrder : ∀ direction, ∃ served left, desk.spawner.generated direction = served ++ left ∧
      left.length ≤ waiting model desk direction ∧
      List.Forall₂ Serves (desk.log direction).entered served
  limited : match model with
    | .suspend => (demandAccounting model desk).admitted ≤ demand.totalVehiclesLimit
    | .queue => (demandAccounting model desk).arrivals ≤ demand.totalVehiclesLimit
  dues : model = .queue → ∀ direction,
    (desk.log direction).dues.length = desk.spawner.arrivals direction ∧
      ((desk.spawner.generated direction).map QueuedArrival.arrivalTime).Sublist
        (desk.log direction).dues ∧
      ∃ finite last, (desk.log direction).gaps = finite.map some ++ [last] ∧
        (desk.log direction).dues = accumulate finite

theorem Sound.accounted (sound : Sound model demand entries start) :
    Accounted model demand start := by
  have balanced : ∀ direction, start.spawner.arrivals direction =
      start.spawner.admitted direction + waiting model start direction +
        start.spawner.rejected direction := by
    intro direction
    cases model with
    | queue => exact (sound direction).queued.balanced
    | suspend =>
      have held := sound.held direction
      have rejected := held.rejected
      change start.spawner.rejected direction = 0 at rejected
      rw [rejected, waiting]
      split
      · next isHeld => exact (held.held isHeld).1
      · next isFree => exact (held.free (Bool.eq_false_iff.mpr isFree)).1
  have figures : (demandAccounting model start).arrivals =
      (demandAccounting model start).admitted + (demandAccounting model start).waitingAtEntry +
          (demandAccounting model start).rejected := by
    simp only [demandAccounting, Source.totalArrivals, Direction.all, List.map_cons,
      List.map_nil, List.sum_cons, List.sum_nil, balanced]
    omega
  cases model with
  | queue =>
    refine ⟨balanced, figures, fun direction => (sound direction).queued.counted,
      fun direction => ?_, (sound .north).limited, fun _ direction => ?_⟩
    · obtain ⟨served, isGenerated, serves⟩ := (sound direction).queued.inOrder
      exact ⟨served, _, isGenerated, le_rfl, serves⟩
    · obtain ⟨finite, last, isGaps, isDues, -⟩ := (sound direction).onTime
      exact ⟨(sound direction).queued.noted, (sound direction).queued.queued, finite,
        last, isGaps, isDues⟩
  | suspend =>
    refine ⟨balanced, figures, fun direction => (sound.held direction).counted,
      fun direction => ?_, sound.spawned.symm.trans_le sound.limited, by simp⟩
    have held := sound.held direction
    cases isHeld : start.held direction with
    | true =>
      obtain ⟨-, due, -, -, -, served, isGenerated, serves⟩ := held.held isHeld
      refine ⟨served, _, isGenerated, ?_, serves⟩
      rw [waiting, if_pos isHeld]
      exact Option.length_toList_le
    | false =>
      obtain ⟨-, -, served, isGenerated, serves⟩ := held.free isHeld
      exact ⟨served, _, isGenerated, Nat.zero_le _, serves⟩

/-- Every run of either entry model keeps the accounting, and no further step lets
more than one vehicle in on an approach. -/
theorem run_accounted (model : EntryModel) (demand : Demand)
    (entries : Direction → List (List TurnIntent)) (beats : List Beat) :
    Ensures (fun desk => desk = {}) (run model demand entries beats)
      (fun _ desk => Accounted model demand desk ∧
        ∀ beat : Beat, Ensures (fun state => state = desk)
          (step model demand (beat.lanes entries) beat.dt)
          (fun _ later => ∀ direction, (later.log direction).entered.length ≤
            (desk.log direction).entered.length + 1) (fun _ => True)) (fun _ => True) := by
  apply Ensures.bind reset_ensures
  intro _
  have runs : Ensures (Sound model demand entries) (steps model demand entries beats)
      (fun _ => Sound model demand entries) (fun _ => True) := steps_ensures beats
  apply Ensures.mono runs (fun _ => Started.sound) _ (fun _ => id)
  intro _ desk sound
  refine ⟨sound.accounted, fun beat => ?_⟩
  exact Ensures.mono (step_ensures sound beat) (fun _ => id)
    (fun _ _ holds => holds.2.entered) (fun _ => id)

end
end Desk
end UrbanFlow.Spawning
