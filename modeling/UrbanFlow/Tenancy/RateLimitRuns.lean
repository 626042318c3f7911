import UrbanFlow.Tenancy.RateLimits

/-!
# Runs of the rate limiter

Every token spent from a bucket was in it at first or came in by a refill, and the
refills between two readings are no more than the clock moved forward between them.
So over any calls at any readings the accepted checks of a key are bounded by its
burst and its rate times the forward movement of the clock.
-/

namespace UrbanFlow

open ForwardMovement RateLimiter TokenBucket

/-- A call of the rate limiter. -/
inductive LimiterCall where
  | check (tenant user : String)
  | remaining (tenant user : String)
  deriving DecidableEq, Repr

/-- A rate limiter and the checks it accepted, by tenant and user. -/
structure LimiterRun where
  limiter : RateLimiter := {}
  accepted : List (String × String) := []

/-- Whether an accepted check took a token from the bucket of a key. -/
def BucketKey.charges : BucketKey → String × String → Bool
  | .user tenantId userId, request => request = (tenantId, userId)
  | .tenant tenantId, request => request.1 = tenantId

attribute [local simp] BucketKey.charges

namespace LimiterRun

variable (clock : Nat → ℚ) (limits : RateLimits)

/-- One more call. -/
def serve (run : LimiterRun) : LimiterCall → LimiterRun
  | .check tenant user =>
    match run.limiter.check clock limits tenant user with
    | (limiter, .ok ()) => { limiter := limiter, accepted := run.accepted ++ [(tenant, user)] }
    | (limiter, .error _) => { run with limiter := limiter }
  | .remaining tenant user =>
    { run with limiter := (run.limiter.remaining clock limits tenant user).1 }

/-- A new rate limiter after some calls. -/
def after (calls : List LimiterCall) : LimiterRun := calls.foldl (serve clock limits) {}

/-- How many tokens were taken from the bucket of a key. -/
def spent (run : LimiterRun) (key : BucketKey) : Nat := run.accepted.countP key.charges

end LimiterRun

structure BucketAccount (clock : Nat → ℚ) (burst rate : ℚ) (index spent : Nat)
    (bucket : TokenBucket) : Prop where
  capacity_eq : bucket.capacity = burst
  refill_eq : bucket.refill = rate
  readAt_eq : bucket.readAt = clock index
  tokens_le : bucket.tokens ≤ burst
  total_le : spent + bucket.tokens ≤ burst + max 0 rate * ascent clock index
  spent_le : spent ≤ max 0 burst + max 0 rate * ascent clock index

namespace BucketAccount

variable {clock : Nat → ℚ} {burst rate : ℚ} {index later spent : Nat}

theorem refills_le (clock : Nat → ℚ) (rate : ℚ) (inOrder : index ≤ later) :
    max 0 rate * ascent clock index ≤ max 0 rate * ascent clock later :=
  mul_le_mul_of_nonneg_left (ascent_mono clock inOrder) (le_max_left _ _)

/-- A new bucket is full. -/
theorem make : BucketAccount clock burst rate index 0
      (make burst rate (clock index)) := by
  have refills : 0 ≤ max 0 rate * ascent clock index :=
    mul_nonneg (le_max_left _ _) (ascent_nonneg clock index)
  refine ⟨rfl, rfl, rfl, le_refl _, ?_, ?_⟩
  · simpa [TokenBucket.make] using refills
  · simpa using add_nonneg (le_max_left 0 burst) refills

/-- A refill is no more than the clock moved forward since the reading before. -/
theorem topUp {bucket : TokenBucket} (account : BucketAccount clock burst rate index spent bucket)
    (inOrder : index ≤ later) :
    BucketAccount clock burst rate later spent (bucket.topUp (clock later)) := by
  have moved : ascent clock index + max 0 (clock later - clock index) ≤ ascent clock later :=
    ascent_add_sub_le clock inOrder
  have refilled : max 0 (clock later - clock index) * rate ≤
        max 0 rate * ascent clock later - max 0 rate * ascent clock index := by
    calc
      max 0 (clock later - clock index) * rate ≤ max 0 (clock later - clock index) * max 0 rate :=
        mul_le_mul_of_nonneg_left (le_max_right _ _) (le_max_left _ _)
      _ ≤ (ascent clock later - ascent clock index) * max 0 rate :=
        mul_le_mul_of_nonneg_right (by linarith) (le_max_left _ _)
      _ = _ := by ring
  have filled : (bucket.topUp (clock later)).tokens ≤
        bucket.tokens + max 0 (clock later - clock index) * rate := by
    rw [← account.refill_eq, ← account.readAt_eq]
    exact min_le_right _ _
  have total := account.total_le
  refine ⟨account.capacity_eq, account.refill_eq, rfl, ?_, by linarith, ?_⟩
  · exact (min_le_left _ _).trans account.capacity_eq.le
  · exact account.spent_le.trans (add_le_add_right (refills_le clock rate inOrder) _)

theorem take {bucket : TokenBucket} (account : BucketAccount clock burst rate index spent bucket)
    (holds : 1 ≤ bucket.tokens) (inOrder : index ≤ later) :
    BucketAccount clock burst rate later (spent + 1) (bucket.take 1 (clock later)) := by
  have refilled := account.topUp inOrder
  have full := refilled.tokens_le
  have totalLater := refilled.total_le
  have total := account.total_le
  have grows := refills_le clock rate inOrder
  have bounded := le_max_right 0 burst
  refine ⟨refilled.capacity_eq, refilled.refill_eq, rfl, ?_, ?_, ?_⟩
  · exact (sub_le_self _ zero_le_one).trans full
  · simp only [TokenBucket.take, Nat.cast_add, Nat.cast_one]
    linarith
  · rw [Nat.cast_add, Nat.cast_one]
    linarith

theorem tokens_le_topUp {bucket : TokenBucket}
    (account : BucketAccount clock burst rate index spent bucket) (now : ℚ)
    (refills : 0 ≤ bucket.refill) : bucket.tokens ≤ (bucket.topUp now).tokens := by
  apply le_min
  · rw [account.capacity_eq]
    exact account.tokens_le
  · exact le_add_of_nonneg_right (mul_nonneg (le_max_left _ _) refills)

end BucketAccount

/-- The rate of the bucket of a key, in tokens a second. -/
def RateLimits.rate (limits : RateLimits) (key : BucketKey) : ℚ := limits.perMinute key / 60

structure LimiterAccount (clock : Nat → ℚ) (limits : RateLimits) (spent : BucketKey → Nat)
    (limiter : RateLimiter) : Prop where
  spent_eq_zero : ∀ key, limiter.buckets.lookup key = none → spent key = 0
  account : ∀ key bucket, limiter.buckets.lookup key = some bucket → ∃ index < limiter.reads,
      BucketAccount clock (limits.burst key) (limits.rate key) index (spent key) bucket

/-- Between two states no bucket lost tokens that its rate does not drain. -/
def KeepsTokens (before after : RateLimiter) : Prop :=
  ∀ key bucket, before.buckets.lookup key = some bucket → 0 ≤ bucket.refill → ∃ kept,
      after.buckets.lookup key = some kept ∧ kept.refill = bucket.refill ∧
        bucket.tokens ≤ kept.tokens

namespace KeepsTokens

variable {first second third : RateLimiter}

theorem refl (limiter : RateLimiter) : KeepsTokens limiter limiter :=
  fun _ bucket found _ => ⟨bucket, found, rfl, le_refl _⟩

theorem trans (before : KeepsTokens first second) (after : KeepsTokens second third) :
    KeepsTokens first third := by
  intro key bucket found refills
  obtain ⟨kept, isKept, sameRefill, fewer⟩ := before key bucket found refills
  obtain ⟨last, isLast, lastRefill, fewerLast⟩ := after key kept isKept (sameRefill ▸ refills)
  exact ⟨last, isLast, lastRefill.trans sameRefill, fewer.trans fewerLast⟩

theorem store {key : BucketKey} {bucket : TokenBucket} {limiter : RateLimiter}
    (fewer : ∀ stored, limiter.buckets.lookup key = some stored → 0 ≤ stored.refill →
      bucket.refill = stored.refill ∧ stored.tokens ≤ bucket.tokens) :
    KeepsTokens limiter (limiter.store key bucket) := by
  intro other stored found refills
  by_cases same : other = key
  · subst same
    exact ⟨bucket, limiter.lookup_store_self other bucket, fewer stored found refills⟩
  · exact ⟨stored, (lookup_store_of_ne same bucket limiter).trans found, rfl, le_refl _⟩

end KeepsTokens

namespace LimiterAccount

variable {clock : Nat → ℚ} {limits : RateLimits} {spent : BucketKey → Nat} {limiter : RateLimiter}
  {key : BucketKey}
  {bucket : TokenBucket}

theorem empty : LimiterAccount clock limits (fun _ => 0) {} where
  spent_eq_zero _ _ := rfl
  account key bucket found := by simp at found

variable (accounted : LimiterAccount clock limits spent limiter)

include accounted

theorem store {taken : Nat}
    (account : BucketAccount clock (limits.burst key) (limits.rate key) limiter.reads taken
        bucket) :
    LimiterAccount clock limits (Function.update spent key taken) (limiter.store key bucket) := by
  refine ⟨?_, ?_⟩
  · intro other absent
    by_cases same : other = key
    · subst same
      simp at absent
    · rw [Function.update_of_ne same]
      apply accounted.spent_eq_zero
      rwa [lookup_store_of_ne same] at absent
  · intro other stored found
    by_cases same : other = key
    · subst same
      rw [lookup_store_self, Option.some_inj] at found
      rw [Function.update_self, ← found]
      exact ⟨limiter.reads, Nat.lt_succ_self _, account⟩
    · rw [Function.update_of_ne same]
      rw [lookup_store_of_ne same] at found
      obtain ⟨index, isRead, sound⟩ := accounted.account other stored found
      exact ⟨index, Nat.lt_succ_of_lt isRead, sound⟩

variable (found : limiter.buckets.lookup key = some bucket)

include found

/-- Reading a bucket tops it up and keeps its account. -/
theorem topUp :
    LimiterAccount clock limits spent (limiter.store key (bucket.topUp (limiter.now clock))) := by
  obtain ⟨index, isRead, account⟩ := accounted.account key bucket found
  have stored := accounted.store (account.topUp isRead.le)
  rwa [Function.update_eq_self] at stored

theorem keepsTokens_topUp (now : ℚ) :
    KeepsTokens limiter (limiter.store key (bucket.topUp now)) := by
  apply KeepsTokens.store
  intro stored isStored refills
  obtain rfl : bucket = stored := Option.some_inj.mp (found.symm.trans isStored)
  obtain ⟨index, _, account⟩ := accounted.account key bucket found
  exact ⟨rfl, account.tokens_le_topUp now refills⟩

theorem take (holds : 1 ≤ bucket.tokens) :
    LimiterAccount clock limits (Function.update spent key (spent key + 1))
      (limiter.store key (bucket.take 1 (limiter.now clock))) := by
  obtain ⟨index, isRead, account⟩ := accounted.account key bucket found
  exact accounted.store (account.take holds isRead.le)

end LimiterAccount

namespace RateLimiter

variable {clock : Nat → ℚ} {limits : RateLimits} {spent : BucketKey → Nat}

section

variable {limiter : RateLimiter} (accounted : LimiterAccount clock limits spent limiter)

include accounted

/-- What finding or making the bucket of a key leaves. -/
theorem bucket_spec (key : BucketKey) :
    let found := limiter.bucket clock key (limits.burst key) (limits.perMinute key)
    LimiterAccount clock limits spent found.1 ∧ KeepsTokens limiter found.1 ∧
      found.1.buckets.lookup key = some found.2 ∧
      ∀ other, other ≠ key → found.1.buckets.lookup other = limiter.buckets.lookup other := by
  cases isThere : limiter.buckets.lookup key with
  | some =>
    rw [bucket, isThere]
    exact ⟨accounted, KeepsTokens.refl limiter, isThere, fun _ _ => rfl⟩
  | none =>
    rw [bucket, isThere]
    have isNew : BucketAccount clock (limits.burst key) (limits.rate key) limiter.reads 0
          (make (limits.burst key) (limits.rate key) (clock limiter.reads)) :=
      BucketAccount.make
    have made := accounted.store isNew
    rw [← accounted.spent_eq_zero key isThere, Function.update_eq_self] at made
    refine ⟨made, ?_, lookup_store_self _ _ _, fun other differs => lookup_store_of_ne differs _ _⟩
    apply KeepsTokens.store
    intro stored isStored
    rw [isThere] at isStored
    cases isStored

/-- What finding both buckets of a request leaves. -/
theorem pair_spec (tenant user : String) :
    let found := limiter.pair clock limits tenant user
    LimiterAccount clock limits spent found.1 ∧ KeepsTokens limiter found.1 ∧
      found.1.buckets.lookup (.user tenant user) = some found.2.1 ∧
      found.1.buckets.lookup (.tenant tenant) = some found.2.2 := by
  obtain ⟨userAccounted, userKept, isUser, _⟩ := bucket_spec accounted (.user tenant user)
  obtain ⟨bothAccounted, bothKept, isTenant, others⟩ := bucket_spec userAccounted (.tenant tenant)
  refine ⟨bothAccounted, userKept.trans bothKept, ?_, isTenant⟩
  exact (others (.user tenant user) (by simp)).trans isUser

end

/-- A limiter that has found and read both buckets of a request, and the buckets. -/
def looked (clock : Nat → ℚ) (limits : RateLimits) (tenant user : String)
    (limiter : RateLimiter) : RateLimiter × TokenBucket × TokenBucket :=
  let found := limiter.pair clock limits tenant user
  let userBucket := found.2.1.topUp (found.1.now clock)
  let read := found.1.store (.user tenant user) userBucket
  let tenantBucket := found.2.2.topUp (read.now clock)
  (read.store (.tenant tenant) tenantBucket, userBucket, tenantBucket)

/-- Looking keeps the accounts and spends nothing, and both buckets are stored. -/
theorem looked_spec {limiter : RateLimiter}
    (accounted : LimiterAccount clock limits spent limiter) (tenant user : String) :
    let seen := limiter.looked clock limits tenant user
    LimiterAccount clock limits spent seen.1 ∧ KeepsTokens limiter seen.1 ∧
      seen.1.buckets.lookup (.user tenant user) = some seen.2.1 ∧
      seen.1.buckets.lookup (.tenant tenant) = some seen.2.2 := by
  obtain ⟨found, kept, isUser, isTenant⟩ := pair_spec accounted tenant user
  have differs : BucketKey.tenant tenant ≠ .user tenant user := by simp
  have userRead := found.topUp isUser
  have stillTenant (stored : TokenBucket) :
      ((limiter.pair clock limits tenant user).1.store (.user tenant user)
        stored).buckets.lookup (.tenant tenant) =
          some (limiter.pair clock limits tenant user).2.2 :=
    (lookup_store_of_ne differs _ _).trans isTenant
  refine ⟨userRead.topUp (stillTenant _), ?_, ?_, lookup_store_self _ _ _⟩
  · exact (kept.trans (found.keepsTokens_topUp isUser _)).trans
      (userRead.keepsTokens_topUp (stillTenant _) _)
  · exact (lookup_store_of_ne differs.symm _ _).trans (lookup_store_self _ _ _)

/-- A check looks at both buckets, and takes a token from each if both hold one. -/
theorem check_cases (tenant user : String) (limiter : RateLimiter) :
    let seen := limiter.looked clock limits tenant user
    let userTaken := seen.1.store (.user tenant user) (seen.2.1.take 1 (seen.1.now clock))
    let bothTaken := userTaken.store (.tenant tenant) (seen.2.2.take 1 (userTaken.now clock))
    (∃ refusal, limiter.check clock limits tenant user = (seen.1, .error refusal)) ∨
      (1 ≤ seen.2.1.tokens ∧ 1 ≤ seen.2.2.tokens ∧
        limiter.check clock limits tenant user = (bothTaken, .ok ())) := by
  intro seen userTaken bothTaken
  let found := limiter.pair clock limits tenant user
  let userWait := found.2.1.waitFor 1 (found.1.now clock)
  let userRead := found.1.store (.user tenant user) userWait.1
  let tenantWait := found.2.2.waitFor 1 (userRead.now clock)
  have userSeen : userWait.1 = seen.2.1 := waitFor_fst _ _ _
  have readSeen : userRead = found.1.store (.user tenant user) seen.2.1 := by rw [← userSeen]
  have tenantSeen : tenantWait.1 = seen.2.2 := by
    rw [waitFor_fst, readSeen]
    rfl
  have allSeen : userRead.store (.tenant tenant) tenantWait.1 = seen.1 := by
    rw [tenantSeen, readSeen]
    rfl
  let read := userRead.store (.tenant tenant) tenantWait.1
  let taken := read.store (.user tenant user) (userWait.1.take 1 (read.now clock))
  have unfolded : limiter.check clock limits tenant user = if userWait.2.positive then
          (read, .error (userWait.2.refusal "rate_limited"
            "Per-user request rate limit exceeded" limits.userPerMinute))
        else if tenantWait.2.positive then (read, .error (tenantWait.2.refusal "tenant_rate_limited"
            "Per-tenant request rate limit exceeded" limits.tenantPerMinute))
        else (taken.store (.tenant tenant) (tenantWait.1.take 1 (taken.now clock)), .ok ()) :=
    rfl
  have bothSeen : taken.store (.tenant tenant) (tenantWait.1.take 1 (taken.now clock)) =
        bothTaken := by
    simp only [taken, read, allSeen, userSeen, tenantSeen, bothTaken, userTaken]
  rw [unfolded, bothSeen]
  cases userReady : userWait.2.positive with
  | true => exact .inl ⟨_, congrArg (·, _) allSeen⟩
  | false =>
    cases tenantReady : tenantWait.2.positive with
    | true => exact .inl ⟨_, congrArg (·, _) allSeen⟩
    | false =>
      refine .inr ⟨cost_le_of_waitFor userReady, ?_, rfl⟩
      have holds := cost_le_of_waitFor tenantReady
      rwa [readSeen] at holds

end RateLimiter

namespace LimiterRun

variable {clock : Nat → ℚ} {limits : RateLimits}

/-- A run whose accepted checks are the tokens its buckets account for. -/
def Sound (clock : Nat → ℚ) (limits : RateLimits) (run : LimiterRun) : Prop :=
  LimiterAccount clock limits run.spent run.limiter

theorem spent_append (limiter : RateLimiter) (accepted : List (String × String))
    (tenant user : String) :
    let tokens := LimiterRun.spent ⟨limiter, accepted⟩
    let userTaken := Function.update tokens (.user tenant user) (tokens (.user tenant user) + 1)
    LimiterRun.spent ⟨limiter, accepted ++ [(tenant, user)]⟩ =
      Function.update userTaken (.tenant tenant) (userTaken (.tenant tenant) + 1) := by
  funext key
  cases key with
  | user otherTenant otherUser =>
    by_cases same : (tenant, user) = (otherTenant, otherUser)
    · cases same
      simp [spent, List.countP_append]
    · have differs : BucketKey.user otherTenant otherUser ≠ .user tenant user := by
        rintro ⟨⟩
        exact same rfl
      simp [spent, List.countP_append, same, differs]
  | tenant otherTenant =>
    by_cases same : tenant = otherTenant
    · subst same
      simp [spent, List.countP_append]
    · have differs : BucketKey.tenant otherTenant ≠ .tenant tenant := by
        rintro ⟨⟩
        exact same rfl
      simp [spent, List.countP_append, same, differs]

/-- One call keeps the accounts. -/
theorem Sound.serve {run : LimiterRun} (sound : Sound clock limits run) (call : LimiterCall) :
    Sound clock limits (run.serve clock limits call) := by
  cases call with
  | check tenant user =>
    obtain ⟨seen, _, isUser, isTenant⟩ := looked_spec sound tenant user
    rcases @check_cases clock limits tenant user run.limiter with
      ⟨refusal, refused⟩ | ⟨userHolds, tenantHolds, accepted⟩
    · simp only [LimiterRun.serve, refused]
      exact seen
    · have differs : BucketKey.tenant tenant ≠ .user tenant user := by simp
      have userTaken := seen.take isUser userHolds
      have bothTaken := userTaken.take
        ((lookup_store_of_ne differs _ _).trans isTenant) tenantHolds
      simp only [LimiterRun.serve, accepted]
      rw [Sound, spent_append]
      exact bothTaken
  | remaining tenant user => exact (looked_spec sound tenant user).1

/-- Every run keeps the accounts. -/
theorem sound_after (calls : List LimiterCall) : Sound clock limits (after clock limits calls) := by
  have starts : Sound clock limits {} := LimiterAccount.empty
  induction calls using List.reverseRecOn with
  | nil => exact starts
  | append_singleton _ call ih =>
    rw [after, List.foldl_append]
    exact ih.serve call

/-- The tokens taken from a bucket were in it at first or came in by a refill. -/
theorem Sound.spent_le {run : LimiterRun} (sound : Sound clock limits run) (key : BucketKey) :
    run.spent key ≤ max 0 (limits.burst key : ℚ) +
        max 0 (limits.rate key) * ascent clock (run.limiter.reads - 1) := by
  cases found : run.limiter.buckets.lookup key with
  | none =>
    rw [sound.spent_eq_zero key found, Nat.cast_zero]
    exact add_nonneg (le_max_left _ _) (mul_nonneg (le_max_left _ _) (ascent_nonneg _ _))
  | some bucket =>
    obtain ⟨index, isRead, account⟩ := sound.account key bucket found
    exact account.spent_le.trans (add_le_add_right
        (BucketAccount.refills_le clock _ (Nat.le_sub_one_of_lt isRead)) _)

/-- Over any calls at any readings, the accepted checks of a user and of a tenant
are at most the burst and the rate times the forward movement of the clock, which is
the time from the first reading to the last where the clock never steps back. A
refused check leaves what asking for the remaining tokens leaves. -/
theorem accepted_le (clock : Nat → ℚ) (limits : RateLimits) (calls : List LimiterCall) :
    let run := after clock limits calls
    let last := run.limiter.reads - 1
    (∀ tenant user, (run.accepted.count (tenant, user) : ℚ) ≤ max 0 (limits.userBurst : ℚ) +
          max 0 ((limits.userPerMinute : ℚ) / 60) * ascent clock last) ∧
    (∀ tenant, (run.accepted.countP (fun request => request.1 = tenant) : ℚ) ≤
        max 0 (limits.tenantBurst : ℚ) +
          max 0 ((limits.tenantPerMinute : ℚ) / 60) * ascent clock last) ∧
    ((∀ index < last, clock index ≤ clock (index + 1)) → ascent clock last = clock last - clock 0) ∧
    ∀ tenant user refusal, (run.limiter.check clock limits tenant user).2 = .error refusal →
        (run.limiter.check clock limits tenant user).1 =
            (run.limiter.remaining clock limits tenant user).1 ∧
          KeepsTokens run.limiter (run.limiter.check clock limits tenant user).1 := by
  intro run last
  have sound : Sound clock limits run := sound_after calls
  refine ⟨?_, ?_, ascent_of_forward clock last, ?_⟩
  · intro tenant user
    have bounded := sound.spent_le (.user tenant user)
    have counts : run.spent (.user tenant user) = run.accepted.count (tenant, user) := by
      apply List.countP_congr
      intro request _
      simp
    rwa [counts] at bounded
  · intro tenant
    exact sound.spent_le (.tenant tenant)
  · intro tenant user refusal refused
    obtain ⟨_, kept, _, _⟩ := looked_spec sound tenant user
    rcases @check_cases clock limits tenant user run.limiter with
      ⟨_, isRefused⟩ | ⟨_, _, accepted⟩
    · rw [isRefused]
      exact ⟨rfl, kept⟩
    · rw [accepted] at refused
      cases refused

/-- A clock that steps back and forward again refills a bucket twice. -/
theorem accepted_exceeds_elapsed :
    let clock : Nat → ℚ := fun index => if index = 6 ∨ index = 7 then -1 else 0
    let limits : RateLimits := { userBurst := 1, userPerMinute := 60 }
    let run := after clock limits [.check "a" "b", .check "a" "b", .check "a" "b"]
    ¬ (run.accepted.count ("a", "b") : ℚ) ≤ limits.userBurst +
        limits.userPerMinute / 60 * (clock (run.limiter.reads - 1) - clock 0) := by
  decide +kernel

end LimiterRun

end UrbanFlow
