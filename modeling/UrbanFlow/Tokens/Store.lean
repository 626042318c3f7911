import Mathlib
import UrbanFlow.Tokens.Timestamps

/-!
# Personal access tokens

The rows of `uf_pats` and the operations of `TokenStore`, and the branch of
`get_current_identity` that accepts a token. The table keeps texts: the list and
the quota compare the texts of two moments, the authenticator reads the stored
text back and compares the moments. The digest of a secret is a parameter.
-/

namespace UrbanFlow.Tokens

def maxActiveTokensPerUser : Nat := 10

/-- A row of `uf_pats`. -/
structure Row (Digest : Type) where
  id : String
  user_id : String
  name : String
  sha256_hash : Digest
  scopes : List String
  created_at : List Char
  expires_at : List Char
  revoked_at : Option (List Char)
  last_used_at : Option (List Char)

variable {Digest : Type}

/-- `revoked_at IS NULL AND expires_at > now` for a row of the user. -/
def Row.isActive (row : Row Digest) (user_id : String) (now : DateTime) : Bool :=
  row.user_id = user_id && row.revoked_at.isNone && decide (now.isoformat < row.expires_at)

/-- `TokenStore._count_active_with_conn`. -/
def countActive (rows : List (Row Digest)) (user_id : String) (now : DateTime) : Nat :=
  rows.countP fun row => row.isActive user_id now

/-- What a list of the active tokens says of one. -/
structure Metadata where
  id : String
  name : String
  scopes : List String
  createdAt : List Char
  expiresAt : List Char
  lastUsedAt : Option (List Char)
  deriving DecidableEq, Repr

def Row.metadata (row : Row Digest) : Metadata where
  id := row.id
  name := row.name
  scopes := row.scopes
  createdAt := row.created_at
  expiresAt := row.expires_at
  lastUsedAt := row.last_used_at

/-- `TokenStore.list_active`: the newest first. -/
def listActive (rows : List (Row Digest)) (user_id : String) (now : DateTime) : List Metadata :=
  ((rows.filter fun row => row.isActive user_id now).mergeSort
    fun first second => decide (second.created_at ≤ first.created_at)).map Row.metadata

/-- Why `create_token` raises. -/
inductive CreateError
  /-- `ValueError`: the days are not between 1 and 90. -/
  | expires_in_days (days : Int)
  /-- `RuntimeError`: the active token limit. -/
  | limit
  /-- `OverflowError`: the expiry lies after the year 9999. -/
  | overflow
  /-- `IntegrityError`: the id is taken. -/
  | duplicate_id
  deriving DecidableEq, Repr

/-- `f"uf_pat_{...}"`: the token of a random text. -/
def rawSecret (random : String) : String := "uf_pat_" ++ random

/-- `TokenStore.create_token`: the quota is counted at one reading of the clock
and the row dated at another, in one transaction. The random id and secret are
arguments; the result is the new table with what the caller is told. -/
def createToken (hash_token_secret : String → Digest) (rows : List (Row Digest))
    (user_id name : String) (scopes : List String) (expires_in_days : Int)
    (token_id raw_secret : String) (counted now : DateTime) :
    Except CreateError (List (Row Digest) × Metadata × String) :=
  if ¬ (1 ≤ expires_in_days ∧ expires_in_days ≤ 90) then .error (.expires_in_days expires_in_days)
  else if maxActiveTokensPerUser ≤ countActive rows user_id counted then .error .limit
  else match now.addDays expires_in_days.toNat with
    | none => .error .overflow
    | some expiry =>
      if token_id ∈ rows.map Row.id then .error .duplicate_id
      else
        let row : Row Digest :=
          { id := token_id
            user_id := user_id
            name := name
            sha256_hash := hash_token_secret raw_secret
            scopes := scopes
            created_at := now.isoformat
            expires_at := expiry.isoformat
            revoked_at := none
            last_used_at := none }
        .ok (rows ++ [row], row.metadata, raw_secret)

def getByHash [DecidableEq Digest] (rows : List (Row Digest))
    (sha256_hash : Digest) : Option (Row Digest) :=
  rows.find? fun row => row.sha256_hash = sha256_hash

section

variable (rows : List (Row Digest))

/-- `TokenStore.get_by_id` with an owner. -/
def getById (token_id user_id : String) : Option (Row Digest) :=
  rows.find? fun row => row.id = token_id && row.user_id = user_id

/-- `UPDATE uf_pats SET revoked_at = ? WHERE id = ?`. -/
def setRevoked (token_id : String) (now : DateTime) : List (Row Digest) := rows.map fun row =>
    if row.id = token_id then { row with revoked_at := some now.isoformat }
    else row

/-- `TokenStore.revoke`: the table after it and the row it returns. -/
def revoke (token_id user_id : String) (now : DateTime) : List (Row Digest) × Option (Row Digest) :=
  match getById rows token_id user_id with
  | none => (rows, none)
  | some row =>
    if row.revoked_at.isNone then
      (setRevoked rows token_id now, some { row with revoked_at := some now.isoformat })
    else (rows, some row)

def touchLastUsed (token_id : String) (now : DateTime) : List (Row Digest) := rows.map fun row =>
    if row.id = token_id then { row with last_used_at := some now.isoformat }
    else row

end

/-- Who a request acts as. -/
structure UserIdentity where
  user_id : String
  auth_type : String
  token_id : Option String
  scopes : List String
  deriving DecidableEq, Repr

/-- Why the token branch of `get_current_identity` refuses a request. -/
inductive AuthFailure
  | unknown_token
  | revoked_token
  | expiry_invalid
  | expired_token
  | rate_limited
  deriving DecidableEq, Repr

section

variable [DecidableEq Digest] (hash_token_secret : String → Digest) (rows : List (Row Digest))
  (token : String)

/-- The checks of a token: a row of its digest that is not revoked and whose
expiry the clock has not passed. -/
def checkToken (now : DateTime) : Except AuthFailure (Row Digest) :=
  match getByHash rows (hash_token_secret token) with
  | none => .error .unknown_token
  | some row =>
    if row.revoked_at.isSome then .error .revoked_token
    else match DateTime.fromisoformat row.expires_at with
      | none => .error .expiry_invalid
      | some expires_at => if expires_at < now then .error .expired_token else .ok row

/-- The token branch of `get_current_identity`: a token that passes its checks
and the rate limit is touched. The rate limiter's answer and the later reading of
the clock are arguments. -/
def getCurrentIdentity (now touched : DateTime) (rateAllows : Bool) :
    List (Row Digest) × Except AuthFailure UserIdentity :=
  match checkToken hash_token_secret rows token now with
  | .error failure => (rows, .error failure)
  | .ok row =>
    if rateAllows then (touchLastUsed rows row.id touched, .ok
          { user_id := row.user_id
            auth_type := "pat"
            token_id := some row.id
            scopes := row.scopes })
    else (rows, .error .rate_limited)

end

variable {hash_token_secret : String → Digest} {rows : List (Row Digest)}

variable {row : Row Digest} {user_id token_id name raw_secret : String} {now counted : DateTime}
  {scopes : List String} {expires_in_days : Int} {after : List (Row Digest)}

theorem isActive_iff : row.isActive user_id now ↔ row.user_id = user_id ∧ row.revoked_at = none ∧
        now.isoformat < row.expires_at := by
  simp [Row.isActive, and_assoc]

theorem mem_listActive_ids : token_id ∈ (listActive rows user_id now).map Metadata.id ↔
      ∃ row ∈ rows, row.id = token_id ∧ row.isActive user_id now := by
  simp only [listActive, List.map_map, List.mem_map, List.mem_mergeSort,
    List.mem_filter, Function.comp_apply, Row.metadata]
  tauto

/-- A list shows as many tokens as the quota counts. -/
theorem length_listActive (user_id : String) (now : DateTime) :
    (listActive rows user_id now).length = countActive rows user_id now := by
  simp [listActive, countActive, List.countP_eq_length_filter]

/-- A token is created when the days are in range, fewer than ten tokens are
active and the id is new; the row is then the last. -/
theorem createToken_ok {answer : Metadata × String}
    (isCreated : createToken hash_token_secret rows user_id name scopes expires_in_days token_id
      raw_secret counted now = .ok (after, answer)) :
    ∃ expiry row, countActive rows user_id counted < maxActiveTokensPerUser ∧
      now.addDays expires_in_days.toNat = some expiry ∧ now < expiry ∧
      token_id ∉ rows.map Row.id ∧ after = rows ++ [row] ∧
      row.id = token_id ∧ row.user_id = user_id ∧ row.sha256_hash = hash_token_secret raw_secret ∧
      row.expires_at = expiry.isoformat ∧ row.revoked_at = none := by
  unfold createToken at isCreated
  split_ifs at isCreated with inRange isFull isTaken
  · cases isExpiry : now.addDays expires_in_days.toNat <;> simp [isExpiry] at isCreated
  · cases isExpiry : now.addDays expires_in_days.toNat with
    | none => simp [isExpiry] at isCreated
    | some expiry =>
      simp only [isExpiry, Except.ok.injEq, Prod.mk.injEq] at isCreated
      have positive : 1 ≤ expires_in_days.toNat := by
        have := inRange.1
        omega
      exact ⟨expiry, _, not_le.mp isFull, rfl,
        DateTime.lt_of_addDays positive isExpiry, isTaken, isCreated.1.symm,
        rfl, rfl, rfl, rfl, rfl⟩

/-- The caller is told the secret of the row. -/
theorem createToken_secret {secret : String} {metadata : Metadata}
    (isCreated : createToken hash_token_secret rows user_id name scopes expires_in_days token_id
      raw_secret counted now = .ok (after, metadata, secret)) : secret = raw_secret := by
  unfold createToken at isCreated
  split_ifs at isCreated <;>
    · split at isCreated <;> simp_all

theorem checkToken_eq_ok_iff [DecidableEq Digest] {token : String} :
    checkToken hash_token_secret rows token now = .ok row ↔
      getByHash rows (hash_token_secret token) = some row ∧ row.revoked_at = none ∧
        ∃ expiry, DateTime.fromisoformat row.expires_at = some expiry ∧ now ≤ expiry := by
  unfold checkToken
  split
  · next isNone => simp [isNone]
  · next found isFound =>
      split_ifs with isRevoked
      · obtain ⟨revoked, isSome⟩ := Option.isSome_iff_exists.mp isRevoked
        simp only [isFound, Option.some.injEq, false_iff]
        rintro ⟨rfl, isNull, _⟩
        simp [isNull] at isSome
      · have isNull : found.revoked_at = none := by simpa using isRevoked
        split
        · next isInvalid =>
            simp only [reduceCtorEq, isFound, Option.some.injEq, false_iff]
            rintro ⟨rfl, _, expiry, isExpiry, _⟩
            simp [isInvalid] at isExpiry
        · next expiry isExpiry =>
            split_ifs with isExpired
            · simp only [isFound, Option.some.injEq, false_iff]
              rintro ⟨rfl, _, other, isOther, notExpired⟩
              rw [isExpiry, Option.some.injEq] at isOther
              exact absurd isExpired (not_lt.mpr (isOther ▸ notExpired))
            · rw [isFound, Except.ok.injEq, Option.some.injEq]
              refine ⟨?_, fun passes => passes.1⟩
              rintro rfl
              exact ⟨rfl, isNull, expiry, isExpiry, not_lt.mp isExpired⟩

end UrbanFlow.Tokens
