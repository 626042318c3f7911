import UrbanFlow.Library.Dict
import UrbanFlow.Strategies.Compatibility

/-!
# The cache of signing keys

`JwksCache` (`src/tenancy/oidc.py`): the signing keys of an identity provider by their
`kid`, fetched again when they are stale or when a kid is unknown. What reads a key from
an entry of the document (`jwt.PyJWK`), the clock and the documents are parameters.
-/

namespace UrbanFlow

/-- What a fetch comes to: an exception, or a document. -/
inductive FetchOutcome where
  | raised
  | document (value : PyValue)

inductive JwksError where
  | unavailable (message : String)
  | token (code : String)
  deriving DecidableEq, Repr

/-- The cache, and how often it has read the clock. -/
structure JwksCache (Key : Type) where
  keys : Dict String Key := ∅
  fetchedAt : Option ℚ := none
  attemptedAt : Option ℚ := none
  fetchCount : Nat := 0
  reads : Nat := 0

variable {Key : Type} (parseJwk : Fields → Option Key)

/-- The RSA signing key of an entry of a key set, with its kid. -/
def signingKey : PyValue → Option (String × Key)
  | .dict jwk =>
    match Fields.get jwk "kid" with
    | .str kid =>
      if (Fields.get jwk "kty").isText "RSA" ∧ ((jwk.lookup "use").getD (.str "sig")).isText "sig" then
        (parseJwk jwk).map fun key => (kid, key)
      else none
    | _ => none
  | _ => none

/-- The keys of the entries of a key set: of two with one kid the last. -/
def parsedKeys (entries : List PyValue) : Dict String Key :=
  entries.foldl (fun parsed jwk =>
    match signingKey parseJwk jwk with
    | some (kid, key) => parsed.insert kid key
    | none => parsed) ∅

theorem lookup_parsedKeys (entries : List PyValue) (kid : String) :
    (parsedKeys parseJwk entries).lookup kid =
      (entries.filterMap (signingKey parseJwk)).reverse.lookup kid := by
  induction entries using List.reverseRecOn with
  | nil => rfl
  | append_singleton _ jwk ih =>
    unfold parsedKeys at ih ⊢
    rw [List.foldl_append, List.filterMap_append, List.reverse_append]
    cases isKey : signingKey parseJwk jwk with
    | none => simpa [isKey] using ih
    | some named =>
      obtain ⟨other, key⟩ := named
      by_cases same : kid = other
      · subst same
        simp [isKey]
      · simpa [isKey, List.lookup_cons, same, beq_false_of_ne same,
          Finmap.lookup_insert_of_ne _ same] using ih

namespace FetchOutcome

/-- The key set that `_refetch` reads: none where an exception ends it. -/
def parsed : FetchOutcome → Option (Dict String Key)
  | raised => none
  | document value =>
    value.asDict.map fun fields =>
      match ((fields.lookup "keys").getD (.list [])).asList with
      | some entries => parsedKeys parseJwk entries
      | none => ∅

/-- The list of keys that a document holds. -/
def listed : FetchOutcome → Option (List PyValue)
  | raised => none
  | document value => value.asDict.bind fun fields => (Fields.get fields "keys").asList

/-- An object that holds no list of keys. -/
def Listless (outcome : FetchOutcome) : Prop :=
  ∃ fields, outcome = document (.dict fields) ∧ (Fields.get fields "keys").asList = none

section

variable {outcome : FetchOutcome}

theorem parsed_of_listed {entries : List PyValue} (holds : outcome.listed = some entries) :
    outcome.parsed parseJwk = some (parsedKeys parseJwk entries) := by
  cases outcome with
  | raised => cases holds
  | document =>
    obtain ⟨fields, isObject, isList⟩ := Option.bind_eq_some_iff.mp holds
    unfold Fields.get at isList
    rw [parsed, isObject, Option.map_some]
    cases found : fields.lookup "keys" with
    | none =>
      rw [found] at isList
      cases isList
    | some =>
      rw [found, Option.getD_some] at isList
      rw [Option.getD_some, isList]

theorem Listless.listed (listless : outcome.Listless) : outcome.listed = none := by
  obtain ⟨fields, rfl, noList⟩ := listless
  exact noList

theorem Listless.parsed (listless : outcome.Listless) : outcome.parsed parseJwk = some ∅ := by
  obtain ⟨fields, rfl, noList⟩ := listless
  unfold Fields.get at noList
  rw [FetchOutcome.parsed, PyValue.asDict_dict, Option.map_some]
  cases found : fields.lookup "keys" with
  | none => rfl
  | some =>
    rw [found, Option.getD_some] at noList
    rw [Option.getD_some, noList]

theorem parsed_of_unlisted (lacks : outcome.listed = none) :
    outcome.parsed parseJwk = none ∨ outcome.Listless := by
  cases outcome with
  | raised => exact .inl rfl
  | document value =>
    cases value with
    | dict fields => exact .inr ⟨fields, rfl, lacks⟩
    | _ => exact .inl rfl

end

end FetchOutcome

namespace JwksCache

variable (ttl cooldown : ℚ) (clock : Nat → ℚ)

section

variable (cache : JwksCache Key)

/-- The next reading of the clock. -/
def now : ℚ := clock cache.reads

def stale : Prop := ∀ fetchedAt ∈ cache.fetchedAt, ttl ≤ cache.now clock - fetchedAt

def cooled : Prop := ∀ attemptedAt ∈ cache.attemptedAt, cooldown ≤ cache.now clock - attemptedAt

instance : Decidable (cache.stale ttl clock) := by unfold stale; infer_instance

instance : Decidable (cache.cooled cooldown clock) := by unfold cooled; infer_instance

/-- What `get_key` asks before it fetches. -/
def Due (kid : String) : Prop :=
  (cache.stale ttl clock ∨ kid ∉ cache.keys) ∧ cache.cooled cooldown clock

instance (kid : String) : Decidable (cache.Due ttl cooldown clock kid) := by
  unfold Due; infer_instance

def refetch (outcome : FetchOutcome) : JwksCache Key × Except JwksError Unit :=
  let cache :=
    { cache with
      attemptedAt := some (cache.now clock)
      fetchCount := cache.fetchCount + 1
      reads := cache.reads + 1 }
  match outcome.parsed parseJwk with
  | none =>
    if cache.keys.keys = ∅ then (cache, .error (.unavailable "JWKS could not be fetched"))
    else (cache, .ok ())
  | some parsed =>
    ({ cache with keys := parsed, fetchedAt := some (cache.now clock), reads := cache.reads + 1 },
      .ok ())

/-- The cache once the clock has been read. -/
def tick : JwksCache Key := { cache with reads := cache.reads + 1 }

end

/-- The end of `get_key`: what is cached after a fetch, or without one, answers. -/
def answerFrom (kid : String) (result : JwksCache Key × Except JwksError Unit) :
    JwksCache Key × Except JwksError Key :=
  (result.1, do
    result.2
    match result.1.keys.lookup kid with
    | some key => .ok key
    | none => .error (.token "unknown_kid"))

def getKey (kid : String) (outcome : FetchOutcome) (cache : JwksCache Key) :
    JwksCache Key × Except JwksError Key :=
  answerFrom kid (if cache.Due ttl cooldown clock kid then
      cache.tick.refetch parseJwk clock outcome
    else (cache.tick, .ok ()))

/-- A fetch is an attempt, and what it brings replaces what is cached. -/
theorem refetch_cases (cache : JwksCache Key) (clock : Nat → ℚ) (outcome : FetchOutcome) :
    ∃ fetchedAt reads, cache.reads ≤ reads ∧
    (cache.refetch parseJwk clock outcome).1 =
      { keys := (outcome.parsed parseJwk).getD cache.keys
        fetchedAt := fetchedAt
        attemptedAt := some (cache.now clock)
        fetchCount := cache.fetchCount + 1
        reads := reads } := by
  unfold refetch
  cases outcome.parsed parseJwk with
  | none =>
    dsimp only
    split_ifs
    · exact ⟨_, _, Nat.le_succ _, rfl⟩
    · exact ⟨_, _, Nat.le_succ _, rfl⟩
  | some => exact ⟨_, _, Nat.le_add_right _ 2, rfl⟩

theorem lookup_of_answerFrom {kid : String} {result : JwksCache Key × Except JwksError Unit}
    {key : Key} (answers : (answerFrom kid result).2 = .ok key) :
    (answerFrom kid result).1.keys.lookup kid = some key := by
  obtain ⟨after, fetched⟩ := result
  unfold answerFrom at answers ⊢
  cases fetched with
  | error => cases answers
  | ok =>
    cases found : after.keys.lookup kid with
    | none => simp [found, bind, Except.bind] at answers
    | some => simpa [found, bind, Except.bind] using answers

end JwksCache

/-- A cache that nothing has been asked, and the calls it gets: the kid that each asks for
and what a fetch during it comes to. -/
structure JwksRun (Key : Type) where
  parseJwk : Fields → Option Key
  ttl : ℚ
  cooldown : ℚ
  clock : Nat → ℚ
  monotone : Monotone clock
  calls : Nat → String × FetchOutcome

namespace JwksRun

variable (run : JwksRun Key)

def getKey (cache : JwksCache Key) (call : String × FetchOutcome) :
    JwksCache Key × Except JwksError Key :=
  JwksCache.getKey run.parseJwk run.ttl run.cooldown run.clock call.1 call.2 cache

/-- The cache when `n` calls have been answered. -/
def cacheAt : Nat → JwksCache Key
  | 0 => {}
  | n + 1 => (run.getKey (cacheAt n) (run.calls n)).1

def answer (n : Nat) : Except JwksError Key := (run.getKey (run.cacheAt n) (run.calls n)).2

/-- Call `n` starts a fetch. -/
def Fetches (n : Nat) : Prop := (run.cacheAt n).fetchCount < (run.cacheAt (n + 1)).fetchCount

instance (n : Nat) : Decidable (run.Fetches n) := by unfold Fetches; infer_instance

/-- The list of the last fetch before call `n` that brought one. -/
def lastListed : Nat → List PyValue
  | 0 => []
  | n + 1 =>
    if run.Fetches n then (run.calls n).2.listed.getD (lastListed n) else lastListed n

/-- The signing keys of that list, those of its end first. -/
def signingKeys (n : Nat) : List (String × Key) :=
  ((run.lastListed n).filterMap (signingKey run.parseJwk)).reverse

structure Guards : Prop where
  spaced : ∀ m n, m < n → run.Fetches m → run.Fetches n →
    ∃ first ∈ (run.cacheAt (m + 1)).attemptedAt,
      ∃ second ∈ (run.cacheAt (n + 1)).attemptedAt, run.cooldown ≤ second - first
  kept : ∀ n, run.Fetches n → (run.calls n).2.listed = none →
    (run.cacheAt (n + 1)).keys = (run.cacheAt n).keys
  current : ∀ n kid, (run.cacheAt n).keys.lookup kid = (run.signingKeys n).lookup kid
  quiet : ∀ n, ∀ fetchedAt ∈ (run.cacheAt n).fetchedAt,
    (run.cacheAt n).now run.clock - fetchedAt < run.ttl →
      (run.calls n).1 ∈ (run.cacheAt n).keys → ¬ run.Fetches n
  refused : ∀ n key, run.answer n = .ok key →
    (run.signingKeys (n + 1)).lookup (run.calls n).1 = some key

section

variable {run : JwksRun Key} {n : Nat}

theorem cacheAt_succ_of_due
    (due : (run.cacheAt n).Due run.ttl run.cooldown run.clock (run.calls n).1) :
    ∃ fetchedAt reads, (run.cacheAt n).reads < reads ∧ run.cacheAt (n + 1) =
      { keys := ((run.calls n).2.parsed run.parseJwk).getD (run.cacheAt n).keys
        fetchedAt := fetchedAt
        attemptedAt := some (run.clock ((run.cacheAt n).reads + 1))
        fetchCount := (run.cacheAt n).fetchCount + 1
        reads := reads } := by
  obtain ⟨fetchedAt, reads, later, isCache⟩ := (run.cacheAt n).tick.refetch_cases run.parseJwk
    run.clock (run.calls n).2
  refine ⟨fetchedAt, reads, later, ?_⟩
  rw [cacheAt, getKey, JwksCache.getKey, if_pos due]
  exact isCache

theorem cacheAt_succ_of_not_due
    (isIdle : ¬ (run.cacheAt n).Due run.ttl run.cooldown run.clock (run.calls n).1) :
    run.cacheAt (n + 1) = (run.cacheAt n).tick := by
  rw [cacheAt, getKey, JwksCache.getKey, if_neg isIdle]
  rfl

theorem fetches_iff :
    run.Fetches n ↔ (run.cacheAt n).Due run.ttl run.cooldown run.clock (run.calls n).1 := by
  unfold Fetches
  by_cases due : (run.cacheAt n).Due run.ttl run.cooldown run.clock (run.calls n).1
  · obtain ⟨_, _, _, isCache⟩ := cacheAt_succ_of_due due
    simp [isCache, due]
  · simp [cacheAt_succ_of_not_due due, due, JwksCache.tick]

theorem attemptedAt_le (n : Nat) :
    ∀ attemptedAt ∈ (run.cacheAt n).attemptedAt, attemptedAt ≤ (run.cacheAt n).now run.clock := by
  induction n with
  | zero => simp [cacheAt]
  | succ n ih =>
    by_cases due : (run.cacheAt n).Due run.ttl run.cooldown run.clock (run.calls n).1
    · obtain ⟨_, _, later, isCache⟩ := cacheAt_succ_of_due due
      rw [isCache]
      rintro attemptedAt ⟨⟩
      exact run.monotone later
    · rw [cacheAt_succ_of_not_due due]
      intro attemptedAt attempted
      exact (ih attemptedAt attempted).trans (run.monotone (Nat.le_succ _))

/-- An attempt is followed by later ones only. -/
theorem attemptedAt_mono {m n : Nat} (before : m ≤ n) :
    ∀ first ∈ (run.cacheAt m).attemptedAt, ∃ second ∈ (run.cacheAt n).attemptedAt,
      first ≤ second := by
  intro first attempted
  induction n, before using Nat.le_induction with
  | base => exact ⟨first, attempted, le_rfl⟩
  | succ n _ ih =>
    obtain ⟨second, isLast, notAfter⟩ := ih
    by_cases due : (run.cacheAt n).Due run.ttl run.cooldown run.clock (run.calls n).1
    · obtain ⟨_, _, _, isCache⟩ := cacheAt_succ_of_due due
      rw [isCache]
      refine ⟨_, rfl, notAfter.trans ?_⟩
      exact (attemptedAt_le n second isLast).trans (run.monotone (Nat.le_succ _))
    · rw [cacheAt_succ_of_not_due due]
      exact ⟨second, isLast, notAfter⟩

theorem attemptedAt_of_fetches (fetches : run.Fetches n) : (run.cacheAt (n + 1)).attemptedAt =
    some (run.clock ((run.cacheAt n).reads + 1)) := by
  obtain ⟨_, _, _, isCache⟩ := cacheAt_succ_of_due (fetches_iff.mp fetches)
  rw [isCache]

theorem spaced {m n : Nat} (before : m < n) (fetches : run.Fetches m) (again : run.Fetches n) :
    ∃ first ∈ (run.cacheAt (m + 1)).attemptedAt,
      ∃ second ∈ (run.cacheAt (n + 1)).attemptedAt, run.cooldown ≤ second - first := by
  have started := attemptedAt_of_fetches fetches
  obtain ⟨last, isLast, notBefore⟩ := attemptedAt_mono before _ started
  refine ⟨_, started, _, attemptedAt_of_fetches again, ?_⟩
  have cooled := (fetches_iff.mp again).2 last isLast
  have passes := run.monotone (Nat.le_succ (run.cacheAt n).reads)
  unfold JwksCache.now at cooled
  simp only [Nat.succ_eq_add_one] at passes notBefore
  linarith

theorem keys_succ : (run.cacheAt (n + 1)).keys =
    if run.Fetches n then ((run.calls n).2.parsed run.parseJwk).getD (run.cacheAt n).keys
    else (run.cacheAt n).keys := by
  split_ifs with fetches
  · obtain ⟨_, _, _, isCache⟩ := cacheAt_succ_of_due (fetches_iff.mp fetches)
    rw [isCache]
  · rw [cacheAt_succ_of_not_due (mt fetches_iff.mpr fetches), JwksCache.tick]

/-- While no document empties the cache, it holds the keys of the last list. -/
theorem lookup_keys (spared : ∀ n, run.Fetches n → (run.calls n).2.Listless →
    (run.cacheAt n).keys = ∅) (n : Nat) (kid : String) :
    (run.cacheAt n).keys.lookup kid = (run.signingKeys n).lookup kid := by
  induction n with
  | zero => rfl
  | succ n ih =>
    unfold signingKeys at ih ⊢
    rw [keys_succ, lastListed]
    split_ifs with fetches
    · cases holds : (run.calls n).2.listed with
      | some entries =>
        rw [FetchOutcome.parsed_of_listed _ holds]
        exact lookup_parsedKeys run.parseJwk entries kid
      | none =>
        obtain fails | listless := FetchOutcome.parsed_of_unlisted run.parseJwk holds
        · rw [fails]
          exact ih
        · rw [listless.parsed, Option.getD_some, ← spared n fetches listless]
          exact ih
    · exact ih

theorem lookup_of_answer {key : Key} (answers : run.answer n = .ok key) :
    (run.cacheAt (n + 1)).keys.lookup (run.calls n).1 = some key := by
  exact JwksCache.lookup_of_answerFrom answers

end

/-- The cache gives its guarantees just when no fetch brings an object without a list of
keys while keys are cached: such an object empties the cache. -/
theorem guards_iff : run.Guards ↔
    ∀ n, (run.cacheAt n).Due run.ttl run.cooldown run.clock (run.calls n).1 →
      (run.calls n).2.Listless → (run.cacheAt n).keys = ∅ := by
  simp only [← fetches_iff]
  constructor
  · intro guards n fetches listless
    have isKept := guards.kept n fetches listless.listed
    rw [keys_succ, if_pos fetches, listless.parsed, Option.getD_some] at isKept
    exact isKept.symm
  · intro spared
    constructor
    · exact fun m n => spaced
    · intro n fetches lacks
      rw [keys_succ, if_pos fetches]
      obtain fails | listless := FetchOutcome.parsed_of_unlisted run.parseJwk lacks
      · rw [fails, Option.getD_none]
      · rw [listless.parsed, Option.getD_some, spared n fetches listless]
    · exact lookup_keys spared
    · intro n fetchedAt fetched fresh known fetches
      obtain stale | unknown := (fetches_iff.mp fetches).1
      · exact not_le.mpr fresh (stale fetchedAt fetched)
      · exact unknown known
    · intro n key answers
      rw [← lookup_keys spared]
      exact lookup_of_answer answers

/-- A key that is cached for a minute, and then an object without keys. -/
def emptied : JwksRun Unit where
  parseJwk _ := some ()
  ttl := 60
  cooldown := 60
  clock n := 60 * n
  monotone := by
    intro m n before
    have : (m : ℚ) ≤ n := by exact_mod_cast before
    linarith
  calls
    | 0 => ("a", .document (.dict [("keys",
        .list [.dict [("kid", .str "a"), ("kty", .str "RSA")]])]))
    | _ => ("a", .document (.dict []))

theorem guards_iff_emptied : ¬ emptied.Guards := by
  intro guards
  have empties := guards.kept 1 (by decide +kernel) rfl
  have known : (emptied.cacheAt 1).keys.lookup "a" = some () := by decide +kernel
  have unknown : (emptied.cacheAt 2).keys.lookup "a" = none := by decide +kernel
  rw [empties, known] at unknown
  cases unknown

end JwksRun
end UrbanFlow
