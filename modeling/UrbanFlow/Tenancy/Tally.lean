import UrbanFlow.Tenancy.Quota

/-!
# Counters that tally the granted runs

The runs a quota manager has granted, beside its counters. A tally says how the
counters of one level, users or tenants, count those runs. Rolling over, taking
and freeing keep it.
-/

namespace UrbanFlow

open Counters

/-- A granted run: its lease, and the days its user's and its tenant's counters
were read on. -/
structure GrantedRun where
  lease : RunLease
  userDay : Int
  tenantDay : Int
  deriving DecidableEq, Repr

namespace GrantedRun

def userKey (run : GrantedRun) : String × String := (run.lease.tenant, run.lease.user)

def tenant (run : GrantedRun) : String := run.lease.tenant

/-- The run has not been released. -/
def Active (run : GrantedRun) : Prop := run.lease.released = false

instance : DecidablePred Active :=
  fun run => inferInstanceAs (Decidable (run.lease.released = false))

/-- The run once its lease is released. -/
def finish (run : GrantedRun) : GrantedRun :=
  { run with lease := { run.lease with released := true } }

end GrantedRun

/-- The counters of one level count the granted runs filed under each key, and
keep to a daily and a concurrent limit. -/
structure Tally {Key : Type} [DecidableEq Key] (daily concurrent : Key → Int)
    (keyOf : GrantedRun → Key) (dayRun : GrantedRun → Int) (counters : Key → Counters)
    (runs : List GrantedRun) (today : Int) : Prop where
  active : ∀ key, (counters key).activeRuns = runs.countP fun run => keyOf run = key ∧ run.Active
  total : ∀ key, (counters key).runsTotal = runs.countP fun run => keyOf run = key ∧ True
  current : ∀ key day, today ≤ day → (counters key).runsOn day =
    runs.countP fun run => keyOf run = key ∧ dayRun run = day
  past : ∀ run ∈ runs, dayRun run ≤ today
  activeLimit : ∀ key, (counters key).activeRuns ≤ max 0 (concurrent key)
  dailyLimit : ∀ key day, (runs.countP fun run => keyOf run = key ∧ dayRun run = day) ≤
      max 0 (daily key)
  todayLimit : ∀ key, (counters key).runsToday ≤ max 0 (daily key)

namespace Tally

variable {Key : Type} [DecidableEq Key] {daily concurrent : Key → Int}
variable {keyOf : GrantedRun → Key} {dayRun : GrantedRun → Int}
variable {counters : Key → Counters} {runs before after : List GrantedRun}
variable {run : GrantedRun} {today day : Int} {key : Key}

theorem empty : Tally daily concurrent keyOf dayRun (fun _ => {}) [] today where
  active key := by simp
  total key := by simp
  current key day _ := by simp [runsOn_eq]
  past run member := absurd member List.not_mem_nil
  activeLimit key := by simp
  dailyLimit key day := by simp
  todayLimit key := by simp

section

variable (tally : Tally daily concurrent keyOf dayRun counters runs today)

include tally

/-- Nothing has been granted on a day to come. -/
theorem none_ahead (ahead : today < day) (key : Key) :
    (runs.countP fun run => keyOf run = key ∧ dayRun run = day) = 0 := by
  rw [List.countP_eq_zero]
  intro run member
  have isPast := tally.past run member
  have notThen : dayRun run ≠ day := by omega
  simp [notThen]

theorem later (goesOn : today ≤ day) : Tally daily concurrent keyOf dayRun counters runs day :=
  { tally with
    current := fun key other ahead => tally.current key other (goesOn.trans ahead)
    past := fun run member => (tally.past run member).trans goesOn }

end

theorem roll (tally : Tally daily concurrent keyOf dayRun counters runs today)
    (goesOn : today ≤ day) (key : Key) : Tally daily concurrent keyOf dayRun
      (Function.update counters key ((counters key).roll day)) runs day := by
  have later := tally.later goesOn
  refine ⟨?_, ?_, ?_, later.past, ?_, later.dailyLimit, ?_⟩
  · intro other
    rw [← later.active other, Function.update_apply]
    split <;> simp [*]
  · intro other
    rw [← later.total other, Function.update_apply]
    split <;> simp [*]
  · intro other someDay ahead
    rw [← later.current other someDay ahead, Function.update_apply]
    split
    · next same =>
        subst same
        rcases ahead.eq_or_lt with rfl | ahead
        · exact runsOn_roll_self _ _
        · rw [runsOn_roll_of_ne ahead.ne',
            later.current other someDay ahead.le, later.none_ahead ahead]
    · simp
  · intro other
    have limited := later.activeLimit other
    rw [Function.update_apply]
    split <;> simp_all
  · intro other
    have limited := later.todayLimit other
    rw [Function.update_apply]
    split
    · next same =>
        subst same
        have rolled := roll_runsToday_le day (counters other)
        omega
    · exact limited

theorem take (tally : Tally daily concurrent keyOf dayRun counters runs today) (run : GrantedRun)
    (isKey : keyOf run = key) (isDay : dayRun run = today) (isActive : run.Active)
    (isToday : (counters key).day = some today)
    (dailyRoom : ((counters key).runsToday : Int) < daily key)
    (concurrentRoom : ((counters key).activeRuns : Int) < concurrent key) :
    Tally daily concurrent keyOf dayRun
      (Function.update counters key (counters key).take) (runs ++ [run]) today := by
  subst isKey
  have grown (keep : GrantedRun → Prop) [DecidablePred keep] (key : Key) (kept : keep run) :
      ((runs ++ [run]).countP fun other => keyOf other = key ∧ keep other) =
        (runs.countP fun other => keyOf other = key ∧ keep other) +
          if key = keyOf run then 1 else 0 := by
    rw [List.countP_append, List.countP_singleton]
    simp [kept, @eq_comm _ key]
  have onDay (key : Key) (day : Int) : ((runs ++ [run]).countP fun other =>
          keyOf other = key ∧ dayRun other = day) =
        (runs.countP fun other => keyOf other = key ∧ dayRun other = day) +
          if key = keyOf run ∧ day = today then 1 else 0 := by
    rw [List.countP_append, List.countP_singleton]
    simp [isDay, @eq_comm _ key, @eq_comm _ day]
  have todays := tally.current (keyOf run) today le_rfl
  have found : (counters (keyOf run)).runsOn today = (counters (keyOf run)).runsToday := by
    rw [runsOn_eq, if_pos isToday]
  constructor
  · intro key
    rw [grown _ key isActive, ← tally.active key, Function.update_apply]
    split <;> simp [take, *]
  · intro key
    rw [grown _ key trivial, ← tally.total key, Function.update_apply]
    split <;> simp [take, *]
  · intro key day ahead
    rw [onDay, ← tally.current key day ahead, Function.update_apply]
    by_cases same : key = keyOf run
    · subst same
      simp only [if_true, true_and, runsOn_eq, take, isToday]
      by_cases isNow : day = today
      · simp [isNow]
      · simp [isNow, Ne.symm isNow]
    · simp [same]
  · intro other member
    rcases List.mem_append.mp member with old | isNew
    · exact tally.past other old
    · rw [List.mem_singleton.mp isNew, isDay]
  · intro key
    have limited := tally.activeLimit key
    rw [Function.update_apply]
    split
    · next same =>
        subst same
        simp only [take]
        omega
    · exact limited
  · intro key day
    have limited := tally.dailyLimit key day
    rw [onDay]
    split
    · next same =>
        obtain ⟨rfl, rfl⟩ := same
        omega
    · exact limited
  · intro key
    have limited := tally.todayLimit key
    rw [Function.update_apply]
    split
    · next same =>
        subst same
        simp only [take]
        omega
    · exact limited

theorem free (tally : Tally daily concurrent keyOf dayRun counters (before ++ run :: after) today)
    (sameKey : keyOf run.finish = keyOf run) (sameDay : dayRun run.finish = dayRun run)
    (isActive : run.Active) : Tally daily concurrent keyOf dayRun
      (Function.update counters (keyOf run) (counters (keyOf run)).free)
      (before ++ run.finish :: after) today := by
  have unchanged (keep : GrantedRun → Prop) [DecidablePred keep] (key : Key)
      (same : keep run.finish ↔ keep run) :
      ((before ++ run.finish :: after).countP fun other =>
          keyOf other = key ∧ keep other) =
        (before ++ run :: after).countP fun other => keyOf other = key ∧ keep other := by
    simp [List.countP_append, List.countP_cons, sameKey, same]
  have fewer (key : Key) : ((before ++ run :: after).countP fun other =>
          keyOf other = key ∧ other.Active) =
        ((before ++ run.finish :: after).countP fun other =>
          keyOf other = key ∧ other.Active) + if key = keyOf run then 1 else 0 := by
    have isFinished : ¬ run.finish.Active := by simp [GrantedRun.Active, GrantedRun.finish]
    simp [List.countP_append, List.countP_cons, isActive, isFinished, @eq_comm _ key]
    omega
  constructor
  · intro key
    have counted := tally.active key
    rw [fewer] at counted
    rw [Function.update_apply]
    split
    · next same =>
        subst same
        simp only [if_true] at counted
        rw [free_activeRuns, counted]
        omega
    · next different => simpa [different] using counted
  · intro key
    rw [unchanged _ key Iff.rfl, ← tally.total key, Function.update_apply]
    split <;> simp [*]
  · intro key day ahead
    rw [unchanged _ key (by rw [sameDay]), ← tally.current key day ahead, Function.update_apply]
    split <;> simp [*]
  · intro other member
    rcases List.mem_append.mp member with earlier | later
    · exact tally.past other (List.mem_append_left _ earlier)
    · rcases List.mem_cons.mp later with rfl | later
      · rw [sameDay]
        exact tally.past run (by simp)
      · exact tally.past other (List.mem_append_right _ (List.mem_cons_of_mem _ later))
  · intro key
    have limited := tally.activeLimit key
    rw [Function.update_apply]
    split
    · next same =>
        subst same
        rw [free_activeRuns]
        omega
    · exact limited
  · intro key day
    rw [unchanged _ key (by rw [sameDay])]
    exact tally.dailyLimit key day
  · intro key
    have limited := tally.todayLimit key
    rw [Function.update_apply]
    split <;> simp_all

end Tally
end UrbanFlow
