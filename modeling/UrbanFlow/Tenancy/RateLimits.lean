import UrbanFlow.Library.ForwardMovement
import UrbanFlow.Tenancy.Quota

/-!
# Rate limits

A request needs a token from its user's bucket and one from its tenant's
(`src/tenancy/limits.py`). A bucket is refilled when it is read, by what the clock
moved forward since the reading before, up to its capacity. The clock is a
parameter: a sequence of readings of which each use takes the next one.
-/

namespace UrbanFlow

/-- What `wait_for` returns: seconds, or `math.inf`. -/
inductive Wait where
  | seconds (amount : ℚ)
  | infinite
  deriving DecidableEq

structure TokenBucket where
  capacity : ℚ
  refill : ℚ
  tokens : ℚ
  readAt : ℚ
  deriving DecidableEq

structure RateLimits where
  userBurst : Int := 30
  userPerMinute : Int := 120
  tenantBurst : Int := 300
  tenantPerMinute : Int := 1200
  deriving DecidableEq, Repr

inductive BucketKey where
  | user (tenant user : String)
  | tenant (tenant : String)
  deriving DecidableEq, Repr

/-- The buckets of a `RateLimiter`, and how often it has read the clock. -/
structure RateLimiter where
  buckets : Dict BucketKey TokenBucket := ∅
  reads : Nat := 0

/-- Why a check is refused: a limit, or the error of rounding `math.inf`. -/
inductive Refusal where
  | limited (error : LimitExceeded)
  | overflow (message : String)
  deriving DecidableEq, Repr

namespace Wait

/-- Whether there is a time to wait. -/
def positive : Wait → Bool
  | seconds amount => 0 < amount
  | infinite => true

def ceil : Wait → Except String Int
  | seconds amount => .ok ⌈amount⌉
  | infinite => .error "cannot convert float infinity to integer"

/-- What is raised when there is a time to wait. -/
def refusal (code message : String) (limit : Int) (wait : Wait) : Refusal := match wait.ceil with
  | .ok rounded => .limited (.make code message limit rounded)
  | .error error => .overflow error

end Wait

namespace TokenBucket

/-- `TokenBucket.__init__`. -/
def make (capacity refill now : ℚ) : TokenBucket where
  capacity := capacity
  refill := refill
  tokens := capacity
  readAt := now

section

variable (now : ℚ) (bucket : TokenBucket)

def topUp : TokenBucket :=
  { bucket with
    tokens := min bucket.capacity (bucket.tokens + max 0 (now - bucket.readAt) * bucket.refill)
    readAt := now }

def available : TokenBucket × ℚ :=
  let read := bucket.topUp now
  (read, read.tokens)

end

section

variable (cost now : ℚ) (bucket : TokenBucket)

def waitFor : TokenBucket × Wait :=
  let (read, tokens) := bucket.available now
  let missing := cost - tokens
  if missing ≤ 0 then (read, .seconds 0)
  else if 0 < bucket.refill then (read, .seconds (missing / bucket.refill))
  else (read, .infinite)

def take : TokenBucket :=
  let read := bucket.topUp now
  { read with tokens := read.tokens - cost }

end

@[simp] theorem waitFor_fst (cost now : ℚ) (bucket : TokenBucket) :
    (bucket.waitFor cost now).1 = bucket.topUp now := by
  unfold waitFor available
  dsimp only
  split_ifs <;> rfl

theorem cost_le_of_waitFor {cost now : ℚ} {bucket : TokenBucket}
    (ready : (bucket.waitFor cost now).2.positive = false) : cost ≤ (bucket.topUp now).tokens := by
  by_contra short
  have missing : 0 < cost - (bucket.topUp now).tokens := sub_pos.mpr (not_le.mp short)
  by_cases refills : 0 < bucket.refill
  · have waits := div_pos missing refills
    simp only [waitFor, available, refills, not_le.mpr missing, if_true, if_false,
      Wait.positive, decide_eq_false_iff_not] at ready
    exact ready waits
  · simp [waitFor, available, Wait.positive, refills, not_le.mpr missing] at ready

end TokenBucket

namespace RateLimits

def burst (limits : RateLimits) : BucketKey → Int
  | .user _ _ => limits.userBurst
  | .tenant _ => limits.tenantBurst

def perMinute (limits : RateLimits) : BucketKey → Int
  | .user _ _ => limits.userPerMinute
  | .tenant _ => limits.tenantPerMinute

end RateLimits

namespace RateLimiter

variable (clock : Nat → ℚ) (limits : RateLimits)

/-- The next reading of the clock. -/
def now (limiter : RateLimiter) : ℚ := clock limiter.reads

section

variable (key : BucketKey) (bucket : TokenBucket) (limiter : RateLimiter)

/-- The limiter after a reading that changed a bucket. -/
def store : RateLimiter where
  buckets := limiter.buckets.insert key bucket
  reads := limiter.reads + 1

@[simp] theorem lookup_store_self : (limiter.store key bucket).buckets.lookup key = some bucket :=
  Finmap.lookup_insert _

end

theorem lookup_store_of_ne {key other : BucketKey} (differs : other ≠ key) (bucket : TokenBucket)
    (limiter : RateLimiter) :
    (limiter.store key bucket).buckets.lookup other = limiter.buckets.lookup other :=
  Finmap.lookup_insert_of_ne _ differs

def bucket (key : BucketKey) (burst perMinute : Int) (limiter : RateLimiter) :
    RateLimiter × TokenBucket :=
  match limiter.buckets.lookup key with
  | some found => (limiter, found)
  | none =>
    let made := TokenBucket.make burst (perMinute / 60) (limiter.now clock)
    (limiter.store key made, made)

section

variable (tenant user : String) (limiter : RateLimiter)

def pair : RateLimiter × TokenBucket × TokenBucket :=
  let (limiter, userBucket) :=
    limiter.bucket clock (.user tenant user) limits.userBurst limits.userPerMinute
  let (limiter, tenantBucket) :=
    limiter.bucket clock (.tenant tenant) limits.tenantBurst limits.tenantPerMinute
  (limiter, userBucket, tenantBucket)

def check : RateLimiter × Except Refusal Unit :=
  let (limiter, userBucket, tenantBucket) := limiter.pair clock limits tenant user
  let (userBucket, waitUser) := userBucket.waitFor 1 (limiter.now clock)
  let limiter := limiter.store (.user tenant user) userBucket
  let (tenantBucket, waitTenant) := tenantBucket.waitFor 1 (limiter.now clock)
  let limiter := limiter.store (.tenant tenant) tenantBucket
  if waitUser.positive then (limiter, .error (waitUser.refusal "rate_limited"
      "Per-user request rate limit exceeded" limits.userPerMinute))
  else if waitTenant.positive then (limiter, .error (waitTenant.refusal "tenant_rate_limited"
      "Per-tenant request rate limit exceeded" limits.tenantPerMinute))
  else
    let limiter := limiter.store (.user tenant user) (userBucket.take 1 (limiter.now clock))
    let limiter := limiter.store (.tenant tenant) (tenantBucket.take 1 (limiter.now clock))
    (limiter, .ok ())

/-- Truncation towards zero, as `int` of a float does. -/
def truncate (number : ℚ) : Int := if 0 ≤ number then ⌊number⌋ else ⌈number⌉

def remaining : RateLimiter × Int × Int :=
  let (limiter, userBucket, tenantBucket) := limiter.pair clock limits tenant user
  let (userBucket, userTokens) := userBucket.available (limiter.now clock)
  let limiter := limiter.store (.user tenant user) userBucket
  let (tenantBucket, tenantTokens) := tenantBucket.available (limiter.now clock)
  let limiter := limiter.store (.tenant tenant) tenantBucket
  (limiter, truncate userTokens, truncate tenantTokens)

end

end RateLimiter

end UrbanFlow
