import UrbanFlow.Tokens.Store

/-!
# Which tokens work and which are shown

Users create, revoke and present tokens in any order, at clock readings that
never go back. At every moment the tokens that pass the checks as a user are the
ones the list shows, at most ten, and none that was revoked or had expired
before, exactly when no unrevoked token of the user expires at that very moment:
at its expiry a token is past the list and the quota, and still accepted.
-/

namespace UrbanFlow.Tokens

variable {Digest : Type}

/-- The table, the latest clock reading and the secrets handed out so far. -/
structure State (Digest : Type) where
  rows : List (Row Digest)
  clock : DateTime
  issued : List String

/-- Something a user does, with the clock readings it takes. -/
inductive Call
  | wait (now : DateTime)
  | create (user_id name : String) (scopes : List String) (expires_in_days : Int)
      (token_id random : String)
      (counted now : DateTime)
  | revoke (token_id user_id : String) (now : DateTime)
  | authenticate (token : String) (now touched : DateTime) (rateAllows : Bool)

/-- The clock readings of a call, in order. -/
def Call.readings : Call → List DateTime
  | .wait now => [now]
  | .create _ _ _ _ _ _ counted now => [counted, now]
  | .revoke _ _ now => [now]
  | .authenticate _ now touched _ => [now, touched]

/-- A secret is drawn once. -/
def Call.Fresh (issued : List String) : Call → Prop
  | .create _ _ _ _ _ random _ _ => rawSecret random ∉ issued
  | _ => True

def State.serve [DecidableEq Digest] (hash_token_secret : String → Digest)
    (state : State Digest) : Call → State Digest
  | .wait now => { state with clock := now }
  | .create user_id name scopes expires_in_days token_id random counted now =>
    match createToken hash_token_secret state.rows user_id name scopes
        expires_in_days token_id (rawSecret random) counted now with
    | .ok (rows, _, secret) => { rows := rows, clock := now, issued := secret :: state.issued }
    | .error _ => { state with clock := now }
  | .revoke token_id user_id now =>
    { state with
      rows := (Tokens.revoke state.rows token_id user_id now).1
      clock := now }
  | .authenticate token now touched rateAllows =>
    { state with
      rows := (getCurrentIdentity hash_token_secret state.rows token now touched rateAllows).1
      clock := touched }

/-- A call at readings that are not before the latest one. -/
inductive Step
    [DecidableEq Digest]
    (hash_token_secret : String → Digest) :
    State Digest → State Digest → Prop
  | call (state : State Digest) (call : Call)
      (inOrder : (state.clock :: call.readings).Pairwise (· ≤ ·))
      (fresh : call.Fresh state.issued) :
      Step hash_token_secret state (state.serve hash_token_secret call)

/-- What some calls can lead to. -/
def Leads [DecidableEq Digest] (hash_token_secret : String → Digest) :
    State Digest → State Digest → Prop :=
  Relation.ReflTransGen (Step hash_token_secret)

/-- An empty table. -/
def State.initial (clock : DateTime) : State Digest where
  rows := []
  clock := clock
  issued := []

/-- A moment that some calls lead to from an empty table. -/
def Reachable [DecidableEq Digest] (hash_token_secret : String → Digest)
    (state : State Digest) : Prop :=
  ∃ clock, Leads hash_token_secret (State.initial clock) state

/-- A token passes its checks as a user now. -/
def Passes [DecidableEq Digest] (hash_token_secret : String → Digest) (state : State Digest)
    (user_id token_id : String) : Prop :=
  ∃ token row, checkToken hash_token_secret state.rows token state.clock = .ok row ∧
      row.user_id = user_id ∧ row.id = token_id

/-- A token has been revoked or its expiry has come. -/
def Ended (state : State Digest) (token_id : String) : Prop :=
  ∃ row ∈ state.rows, row.id = token_id ∧ (row.revoked_at ≠ none ∨ ∃ expiry : DateTime,
        row.expires_at = expiry.isoformat ∧ expiry ≤ state.clock)

/-- What passes as a user is what the list shows, and at most ten tokens. -/
structure ListAgrees [DecidableEq Digest] (hash_token_secret : String → Digest)
    (state : State Digest) (user_id : String) : Prop where
  listed : ∀ token_id, Passes hash_token_secret state user_id token_id ↔
    token_id ∈ (listActive state.rows user_id state.clock).map Metadata.id
  quota : ∀ token_ids : List String, token_ids.Nodup → (∀ token_id ∈ token_ids,
      Passes hash_token_secret state user_id token_id) →
    token_ids.length ≤ maxActiveTokensPerUser

/-- What ended at an earlier moment does not pass as a user. -/
def NeverAgain [DecidableEq Digest] (hash_token_secret : String → Digest) (state : State Digest)
    (user_id : String) : Prop :=
  ∀ earlier, Reachable hash_token_secret earlier →
    Leads hash_token_secret earlier state → ∀ token_id, Ended earlier token_id →
      ¬ Passes hash_token_secret state user_id token_id

/-- No unrevoked token of a user expires at the very reading of the clock. -/
def NoneExpiringNow (state : State Digest) (user_id : String) : Prop :=
  ∀ row ∈ state.rows, row.user_id = user_id → row.revoked_at = none →
    row.expires_at ≠ state.clock.isoformat

/-- A change of a row that keeps whose it is, its digest and its expiry, and that
it is revoked. -/
structure Amends (amend : Row Digest → Row Digest) : Prop where
  id : ∀ row, (amend row).id = row.id
  user_id : ∀ row, (amend row).user_id = row.user_id
  sha256_hash : ∀ row, (amend row).sha256_hash = row.sha256_hash
  expires_at : ∀ row, (amend row).expires_at = row.expires_at
  revoked_at : ∀ row, row.revoked_at ≠ none → (amend row).revoked_at ≠ none

theorem amends_id : Amends (id : Row Digest → Row Digest) :=
  ⟨fun _ => rfl, fun _ => rfl, fun _ => rfl, fun _ => rfl, fun _ known => known⟩

section

variable (rows : List (Row Digest)) (token_id : String) (now : DateTime)

theorem setRevoked_amends :
    ∃ amend, Amends amend ∧ setRevoked rows token_id now = rows.map amend := by
  refine ⟨_, ⟨?_, ?_, ?_, ?_, ?_⟩, rfl⟩
  all_goals
    intro row
    split_ifs <;> simp

theorem touchLastUsed_amends : ∃ amend, Amends amend ∧
      touchLastUsed rows token_id now = rows.map amend := by
  refine ⟨_, ⟨?_, ?_, ?_, ?_, ?_⟩, rfl⟩
  all_goals
    intro row
    split_ifs <;> simp

end

variable {amend : Row Digest → Row Digest} {row : Row Digest} {before after : State Digest}

theorem revoke_amends (rows : List (Row Digest)) (token_id user_id : String) (now : DateTime) :
    ∃ amend, Amends amend ∧ (revoke rows token_id user_id now).1 = rows.map amend := by
  unfold revoke
  split
  · exact ⟨id, amends_id, by simp⟩
  · split_ifs
    · exact setRevoked_amends rows token_id now
    · exact ⟨id, amends_id, by simp⟩

variable {hash_token_secret : String → Digest}

/-- A step moves the clock on and amends the rows, or adds the row of a new token
to a table with room for it. -/
inductive Change
    (hash_token_secret : String → Digest)
    (before after : State Digest) : Prop
  | amended (amend : Row Digest → Row Digest) (amends : Amends amend)
      (rows_eq : after.rows = before.rows.map amend)
      (issued_eq : after.issued = before.issued)
      (later : before.clock ≤ after.clock)
  | added (row : Row Digest) (counted expiry : DateTime) (secret : String)
      (rows_eq : after.rows = before.rows ++ [row])
      (issued_eq : after.issued = secret :: before.issued)
      (isFresh : secret ∉ before.issued)
      (isNew : row.id ∉ before.rows.map Row.id)
      (hash_eq : row.sha256_hash = hash_token_secret secret)
      (expires_eq : row.expires_at = expiry.isoformat)
      (hasRoom : countActive before.rows row.user_id counted < maxActiveTokensPerUser)
      (countedLater : before.clock ≤ counted)
      (later : counted ≤ after.clock)

/-- Ids and digests are unique, every digest is that of a secret handed out,
every expiry is the text of a moment, and no user has more than ten active tokens
now or later. -/
structure Kept (hash_token_secret : String → Digest) (state : State Digest) : Prop where
  ids_nodup : (state.rows.map Row.id).Nodup
  hashes_nodup : (state.rows.map Row.sha256_hash).Nodup
  issued : ∀ row ∈ state.rows, ∃ secret ∈ state.issued, row.sha256_hash = hash_token_secret secret
  dated : ∀ row ∈ state.rows, ∃ expiry : DateTime, row.expires_at = expiry.isoformat
  quota : ∀ user_id now, state.clock ≤ now →
    countActive state.rows user_id now ≤ maxActiveTokensPerUser

theorem kept_initial (clock : DateTime) : Kept hash_token_secret (State.initial clock) where
  ids_nodup := List.nodup_nil
  hashes_nodup := List.nodup_nil
  issued := by simp [State.initial]
  dated := by simp [State.initial]
  quota := by simp [State.initial, countActive]

theorem Amends.isActive (amends : Amends amend) {user_id : String} {now : DateTime}
    (isActive : (amend row).isActive user_id now) : row.isActive user_id now := by
  rw [isActive_iff, amends.user_id, amends.expires_at] at isActive
  obtain ⟨isUser, isNull, notExpired⟩ := isActive
  refine isActive_iff.mpr ⟨isUser, ?_, notExpired⟩
  by_contra isRevoked
  exact amends.revoked_at row isRevoked isNull

theorem isActive_earlier {user_id : String} {now later : DateTime}
    (isDated : ∃ expiry : DateTime, row.expires_at = expiry.isoformat) (isLater : now ≤ later)
    (isActive : row.isActive user_id later) : row.isActive user_id now := by
  obtain ⟨expiry, isExpiry⟩ := isDated
  rw [isActive_iff, isExpiry, DateTime.isoformat_lt_isoformat] at isActive ⊢
  exact ⟨isActive.1, isActive.2.1, lt_of_le_of_lt isLater isActive.2.2⟩

theorem Kept.countActive_anti {state : State Digest} (kept : Kept hash_token_secret state)
    (user_id : String) {now later : DateTime} (isLater : now ≤ later) :
    countActive state.rows user_id later ≤ countActive state.rows user_id now :=
  List.countP_mono_left fun row isRow isActive =>
    isActive_earlier (kept.dated row isRow) isLater isActive

theorem Kept.amended (kept : Kept hash_token_secret before) (amends : Amends amend)
    (rows_eq : after.rows = before.rows.map amend) (issued_eq : after.issued = before.issued)
    (later : before.clock ≤ after.clock) : Kept hash_token_secret after where
  ids_nodup := by
    have sameIds : Row.id ∘ amend = Row.id := funext amends.id
    rw [rows_eq, List.map_map, sameIds]
    exact kept.ids_nodup
  hashes_nodup := by
    have sameHashes : Row.sha256_hash ∘ amend = Row.sha256_hash := funext amends.sha256_hash
    rw [rows_eq, List.map_map, sameHashes]
    exact kept.hashes_nodup
  issued := by
    rw [rows_eq, issued_eq, List.forall_mem_map]
    intro row isRow
    rw [amends.sha256_hash]
    exact kept.issued row isRow
  dated := by
    rw [rows_eq, List.forall_mem_map]
    intro row isRow
    rw [amends.expires_at]
    exact kept.dated row isRow
  quota := by
    intro user_id now isLater
    rw [rows_eq, countActive, List.countP_map]
    exact (List.countP_mono_left fun row _ isActive =>
      amends.isActive isActive).trans (kept.quota user_id now (later.trans isLater))

theorem Kept.added (isInjective : Function.Injective hash_token_secret)
    (kept : Kept hash_token_secret before) {counted expiry : DateTime} {secret : String}
    (rows_eq : after.rows = before.rows ++ [row])
    (issued_eq : after.issued = secret :: before.issued) (isFresh : secret ∉ before.issued)
    (isNew : row.id ∉ before.rows.map Row.id) (hash_eq : row.sha256_hash = hash_token_secret secret)
    (expires_eq : row.expires_at = expiry.isoformat)
    (hasRoom : countActive before.rows row.user_id counted < maxActiveTokensPerUser)
    (countedLater : before.clock ≤ counted) (later : counted ≤ after.clock) :
    Kept hash_token_secret after where
  ids_nodup := by
    rw [rows_eq, List.map_append]
    exact List.nodup_append'.mpr ⟨kept.ids_nodup, by simp,
      by simpa [List.disjoint_singleton] using isNew⟩
  hashes_nodup := by
    rw [rows_eq, List.map_append]
    refine List.nodup_append'.mpr ⟨kept.hashes_nodup, by simp, ?_⟩
    rw [List.map_singleton, List.disjoint_singleton]
    intro isTaken
    obtain ⟨other, isOther, sameHash⟩ := List.mem_map.mp isTaken
    obtain ⟨known, isKnown, otherHash⟩ := kept.issued other isOther
    rw [otherHash, hash_eq] at sameHash
    exact isFresh (isInjective sameHash ▸ isKnown)
  issued := by
    intro other isOther
    rw [rows_eq, List.mem_append, List.mem_singleton] at isOther
    rw [issued_eq]
    obtain isOld | rfl := isOther
    · obtain ⟨known, isKnown, otherHash⟩ := kept.issued other isOld
      exact ⟨known, List.mem_cons_of_mem secret isKnown, otherHash⟩
    · exact ⟨secret, List.mem_cons_self, hash_eq⟩
  dated := by
    intro other isOther
    rw [rows_eq, List.mem_append, List.mem_singleton] at isOther
    obtain isOld | rfl := isOther
    · exact kept.dated other isOld
    · exact ⟨expiry, expires_eq⟩
  quota := by
    intro user_id now isLater
    have old := kept.countActive_anti user_id (later.trans isLater)
    rw [rows_eq, countActive, List.countP_append, List.countP_singleton]
    change countActive before.rows user_id now + _ ≤ _
    split_ifs with isActive
    · obtain rfl := (isActive_iff.mp isActive).1
      omega
    · have within := kept.quota user_id counted countedLater
      omega

theorem Kept.listed_iff {state : State Digest} (kept : Kept hash_token_secret state)
    {user_id token_id : String} :
    token_id ∈ (listActive state.rows user_id state.clock).map Metadata.id ↔
      ∃ row ∈ state.rows, row.id = token_id ∧ row.user_id = user_id ∧ row.revoked_at = none ∧
        ∃ expiry : DateTime, row.expires_at = expiry.isoformat ∧ state.clock < expiry := by
  rw [mem_listActive_ids]
  refine exists_congr fun row => and_congr_right fun isRow => and_congr_right fun _ => ?_
  rw [isActive_iff]
  refine and_congr_right fun _ => and_congr_right fun _ => ?_
  obtain ⟨expiry, isExpiry⟩ := kept.dated row isRow
  rw [isExpiry, DateTime.isoformat_lt_isoformat]
  refine ⟨fun isLater => ⟨expiry, rfl, isLater⟩, ?_⟩
  rintro ⟨_, isOther, _⟩
  rwa [DateTime.isoformat_injective isOther]

variable [DecidableEq Digest]

theorem getCurrentIdentity_amends (hash_token_secret : String → Digest) (rows : List (Row Digest))
    (token : String) (now touched : DateTime) (rateAllows : Bool) :
    ∃ amend, Amends amend ∧ (getCurrentIdentity hash_token_secret rows token now touched
        rateAllows).1 = rows.map amend := by
  unfold getCurrentIdentity
  split
  · exact ⟨id, amends_id, by simp⟩
  · split_ifs
    · exact touchLastUsed_amends rows _ touched
    · exact ⟨id, amends_id, by simp⟩

theorem Step.change (isStep : Step hash_token_secret before after) :
    Change hash_token_secret before after := by
  obtain ⟨call, inOrder, fresh⟩ := isStep
  cases call with
  | wait =>
    exact .amended id amends_id (by simp [State.serve]) rfl
      (by simpa [Call.readings, State.serve] using inOrder)
  | create user_id name scopes expires_in_days token_id random counted now =>
    simp only [Call.readings, List.pairwise_cons, List.mem_cons,
      forall_eq_or_imp, List.not_mem_nil, false_imp_iff, implies_true,
      and_true] at inOrder
    unfold State.serve
    cases isCreated : createToken hash_token_secret before.rows user_id name
      scopes expires_in_days token_id (rawSecret random) counted now with
    | error =>
      exact .amended id amends_id (by simp [isCreated])
        (by simp [isCreated]) (by simpa [isCreated] using inOrder.1.2)
    | ok answer =>
      obtain ⟨rows, metadata, secret⟩ := answer
      have isSecret : secret = rawSecret random := createToken_secret isCreated
      obtain ⟨expiry, row, hasRoom, _, _, isNew, rfl, rfl, rfl, hash_eq,
        expires_eq, _⟩ := createToken_ok isCreated
      exact .added row counted expiry secret (by simp [isCreated])
        (by simp [isCreated]) (isSecret ▸ fresh) isNew (isSecret ▸ hash_eq)
        expires_eq hasRoom inOrder.1.1 (by simpa [isCreated] using inOrder.2)
  | revoke token_id user_id now =>
    obtain ⟨amend, amends, rows_eq⟩ := revoke_amends before.rows token_id user_id now
    exact .amended amend amends rows_eq rfl (by simpa [Call.readings, State.serve] using inOrder)
  | authenticate token now touched rateAllows =>
    obtain ⟨amend, amends, rows_eq⟩ := getCurrentIdentity_amends
      hash_token_secret before.rows token now touched rateAllows
    simp only [Call.readings, List.pairwise_cons, List.mem_cons,
      forall_eq_or_imp, List.not_mem_nil, false_imp_iff, implies_true,
      and_true] at inOrder
    exact .amended amend amends rows_eq rfl inOrder.1.2

section

variable (isInjective : Function.Injective hash_token_secret)

include isInjective

theorem Kept.step
    (kept : Kept hash_token_secret before) (isStep : Step hash_token_secret before after) :
    Kept hash_token_secret after := by
  cases isStep.change with
  | amended _ amends rows_eq issued_eq later =>
    exact kept.amended amends rows_eq issued_eq later
  | added row counted expiry secret rows_eq issued_eq isFresh isNew hash_eq
      expires_eq hasRoom countedLater later =>
      exact kept.added isInjective rows_eq issued_eq isFresh isNew hash_eq
        expires_eq hasRoom countedLater later

theorem Kept.leads
    (kept : Kept hash_token_secret before) (leads : Leads hash_token_secret before after) :
    Kept hash_token_secret after := by
  induction leads with
  | refl => exact kept
  | tail _ isStep ih => exact ih.step isInjective isStep

theorem Reachable.kept {state : State Digest}
    (isReachable : Reachable hash_token_secret state) : Kept hash_token_secret state := by
  obtain ⟨clock, leads⟩ := isReachable
  exact (kept_initial clock).leads isInjective leads

end

theorem Step.clock_le (isStep : Step hash_token_secret before after) :
    before.clock ≤ after.clock := by
  cases isStep.change with
  | amended _ _ _ _ later => exact later
  | added _ _ _ _ _ _ _ _ _ _ _ countedLater later => exact countedLater.trans later

theorem Ended.step {token_id : String} (isEnded : Ended before token_id)
    (isStep : Step hash_token_secret before after) : Ended after token_id := by
  have isLater := isStep.clock_le
  obtain ⟨row, isRow, isId, why⟩ := isEnded
  cases isStep.change with
  | amended amend amends rows_eq =>
    refine ⟨amend row, rows_eq ▸ List.mem_map_of_mem isRow, (amends.id row).trans isId, ?_⟩
    obtain isRevoked | ⟨expiry, isExpiry, isPast⟩ := why
    · exact Or.inl (amends.revoked_at row isRevoked)
    · exact Or.inr ⟨expiry, (amends.expires_at row).trans isExpiry, isPast.trans isLater⟩
  | added _ _ _ _ rows_eq =>
    refine ⟨row, rows_eq ▸ List.mem_append_left _ isRow, isId, ?_⟩
    obtain isRevoked | ⟨expiry, isExpiry, isPast⟩ := why
    · exact Or.inl isRevoked
    · exact Or.inr ⟨expiry, isExpiry, isPast.trans isLater⟩

theorem Ended.leads {token_id : String} (isEnded : Ended before token_id)
    (leads : Leads hash_token_secret before after) : Ended after token_id := by
  induction leads with
  | refl => exact isEnded
  | tail _ isStep ih => exact ih.step isStep

theorem Kept.getByHash {state : State Digest} (kept : Kept hash_token_secret state)
    (isRow : row ∈ state.rows) : getByHash state.rows row.sha256_hash = some row := by
  have isSome : (Tokens.getByHash state.rows row.sha256_hash).isSome :=
    List.find?_isSome.mpr ⟨row, isRow, by simp⟩
  obtain ⟨found, isFound⟩ := Option.isSome_iff_exists.mp isSome
  have sameHash : found.sha256_hash = row.sha256_hash := by simpa using List.find?_some isFound
  rw [isFound, List.inj_on_of_nodup_map kept.hashes_nodup
    (List.mem_of_find?_eq_some isFound) isRow sameHash]

theorem Kept.passes_iff {state : State Digest} (kept : Kept hash_token_secret state)
    {user_id token_id : String} : Passes hash_token_secret state user_id token_id ↔
      ∃ row ∈ state.rows, row.id = token_id ∧ row.user_id = user_id ∧ row.revoked_at = none ∧
        ∃ expiry : DateTime, row.expires_at = expiry.isoformat ∧ state.clock ≤ expiry := by
  constructor
  · rintro ⟨token, row, passes, isUser, isId⟩
    obtain ⟨isFound, isNull, expiry, isExpiry, notExpired⟩ := checkToken_eq_ok_iff.mp passes
    have isRow := List.mem_of_find?_eq_some isFound
    obtain ⟨moment, isMoment⟩ := kept.dated row isRow
    rw [isMoment, DateTime.fromisoformat_isoformat, Option.some.injEq] at isExpiry
    exact ⟨row, isRow, isId, isUser, isNull, moment, isMoment, isExpiry ▸ notExpired⟩
  · rintro ⟨row, isRow, isId, isUser, isNull, expiry, isExpiry, notExpired⟩
    obtain ⟨secret, _, isHash⟩ := kept.issued row isRow
    refine ⟨secret, row, checkToken_eq_ok_iff.mpr ⟨?_, isNull, expiry, ?_,
      notExpired⟩, isUser, isId⟩
    · rw [← isHash, kept.getByHash isRow]
    · rw [isExpiry, DateTime.fromisoformat_isoformat]

section

variable {state : State Digest} {user_id : String} (kept : Kept hash_token_secret state)
  (noneExpiring : NoneExpiringNow state user_id)

include kept noneExpiring

theorem Kept.listAgrees : ListAgrees hash_token_secret state user_id := by
  have listed : ∀ token_id, Passes hash_token_secret state user_id token_id ↔ token_id ∈
        (listActive state.rows user_id state.clock).map Metadata.id := by
    intro token_id
    rw [kept.passes_iff, kept.listed_iff]
    refine exists_congr fun row => and_congr_right fun isRow =>
      and_congr_right fun _ => and_congr_right fun isUser =>
      and_congr_right fun isNull => exists_congr fun expiry =>
      and_congr_right fun isExpiry => ⟨fun notExpired => ?_, le_of_lt⟩
    refine lt_of_le_of_ne notExpired ?_
    rintro rfl
    exact noneExpiring row isRow isUser isNull isExpiry
  refine ⟨listed, fun token_ids isNodup allPass => ?_⟩
  have shown : token_ids ⊆ (listActive state.rows user_id state.clock).map Metadata.id :=
    fun token_id isToken => (listed token_id).mp (allPass token_id isToken)
  calc token_ids.length
      ≤ ((listActive state.rows user_id state.clock).map Metadata.id).length :=
        (List.subperm_of_subset isNodup shown).length_le
    _ = countActive state.rows user_id state.clock := by rw [List.length_map, length_listActive]
    _ ≤ maxActiveTokensPerUser := kept.quota user_id state.clock le_rfl

theorem Kept.neverAgain : NeverAgain hash_token_secret state user_id := by
  intro earlier _ leads token_id isEnded passes
  obtain ⟨_, isRow, isId, isUser, isNull, _, isExpiry, notExpired⟩ :=
    kept.passes_iff.mp passes
  obtain ⟨other, isOther, otherId, why⟩ := isEnded.leads leads
  obtain rfl := List.inj_on_of_nodup_map kept.ids_nodup isOther isRow (otherId.trans isId.symm)
  obtain isRevoked | ⟨moment, isMoment, isPast⟩ := why
  · exact isRevoked isNull
  · rw [isExpiry] at isMoment
    obtain rfl := DateTime.isoformat_injective isMoment
    obtain rfl := le_antisymm isPast notExpired
    exact noneExpiring other isRow isUser isNull isExpiry

end

/-- The tokens that pass as a user are the listed ones, at most ten, and none
that ended before, exactly when no unrevoked token of the user expires at the
very reading of the clock. -/
theorem agrees_iff_noneExpiringNow (isInjective : Function.Injective hash_token_secret)
    {state : State Digest} (isReachable : Reachable hash_token_secret state) (user_id : String) :
    ListAgrees hash_token_secret state user_id ∧ NeverAgain hash_token_secret state user_id ↔
      NoneExpiringNow state user_id := by
  have kept := isReachable.kept isInjective
  constructor
  · rintro ⟨agrees, _⟩ row isRow isUser isNull isExpiring
    have passes : Passes hash_token_secret state user_id row.id :=
      kept.passes_iff.mpr ⟨row, isRow, rfl, isUser, isNull, state.clock, isExpiring, le_rfl⟩
    obtain ⟨other, isOther, sameId, _, _, expiry, isExpiry, isLater⟩ :=
      kept.listed_iff.mp ((agrees.listed row.id).mp passes)
    obtain rfl := List.inj_on_of_nodup_map kept.ids_nodup isOther isRow sameId
    rw [isExpiring] at isExpiry
    exact absurd (DateTime.isoformat_injective isExpiry) (ne_of_lt isLater)
  · intro noneExpiring
    exact ⟨kept.listAgrees noneExpiring, kept.neverAgain noneExpiring⟩

theorem january_mem : 1 ≤ 1 ∧ 1 ≤ 12 := by decide

/-- A moment. -/
def newYear : DateTime := ⟨2026, 1, 1, 0, 0, 0, 0, by decide, january_mem, by decide, by decide,
    by decide, by decide, by decide⟩

/-- The same time one day later. -/
def dayAfter : DateTime := ⟨2026, 1, 2, 0, 0, 0, 0, by decide, january_mem, by decide, by decide,
    by decide, by decide, by decide⟩

/-- A token valid for a day has just been created. -/
def created : State String := (State.initial newYear).serve id
    (.create "ana" "laptop" ["experiments:read"] 1 "pat_1" "x" newYear newYear)

/-- One day later. -/
def expiring : State String := created.serve id (.wait dayAfter)

theorem created_reachable : Reachable id created := by
  refine ⟨newYear, .single (Step.call _ _ ?_ ?_)⟩
  · decide
  · simp [Call.Fresh, State.initial]

theorem expiring_reachable : Reachable id expiring := by
  obtain ⟨clock, leads⟩ := created_reachable
  refine ⟨clock, leads.tail (Step.call _ _ ?_ trivial)⟩
  decide

/-- At its expiry the token passes as its owner, and the list does not show it. -/
theorem expiring_disagrees : Reachable id expiring ∧ Passes id expiring "ana" "pat_1" ∧
      "pat_1" ∉ (listActive expiring.rows "ana" expiring.clock).map Metadata.id ∧
      ¬ (ListAgrees id expiring "ana" ∧ NeverAgain id expiring "ana") := by
  have passes : Passes id expiring "ana" "pat_1" := by
    refine ⟨"uf_pat_x", expiring.rows.head (by decide), ?_, ?_, ?_⟩ <;> rfl
  have notListed : "pat_1" ∉ (listActive expiring.rows "ana" expiring.clock).map Metadata.id := by
    rw [mem_listActive_ids]
    decide
  exact ⟨expiring_reachable, passes, notListed, fun agrees =>
    notListed ((agrees.1.listed "pat_1").mp passes)⟩

/-- Before that the token is listed and passes. -/
theorem created_agrees : Function.Injective (id : String → String) ∧ Reachable id created ∧
      NoneExpiringNow created "ana" ∧
      (ListAgrees id created "ana" ∧ NeverAgain id created "ana" ↔
        NoneExpiringNow created "ana") := by
  refine ⟨Function.injective_id, created_reachable, ?_,
    agrees_iff_noneExpiringNow Function.injective_id created_reachable "ana"⟩
  unfold NoneExpiringNow
  decide

end UrbanFlow.Tokens
