import Mathlib.Data.Countable.Basic
import Mathlib.Data.Rat.Encodable
import Mathlib.Logic.Equiv.List
import UrbanFlow.Core.Text
import UrbanFlow.Library.Dict

/-!
# Job submissions and job messages

A validated submission becomes the message that is enqueued. The run id defaults
to the first 20 characters of the spec's digest, the idempotency key to the whole
digest; either may be supplied instead. Reading and writing JSON and the digest
are parameters.
-/

namespace UrbanFlow

/-- A full match of `[first][rest]{0,limit}`. -/
def fullMatches (first rest : Char → Bool) (limit : Nat) (text : String) : Bool :=
  match text.toList with
  | [] => false
  | letter :: letters => first letter && letters.all rest && letters.length ≤ limit

def isAsciiAlphanumeric (letter : Char) : Bool := letter.isAlphanum

def isLowerAlphanumeric (letter : Char) : Bool := letter.isLower || letter.isDigit

/-- `_TENANT_RE`. -/
def tenantMatches : String → Bool := fullMatches isLowerAlphanumeric
    (fun letter => isLowerAlphanumeric letter || letter = '_' || letter = '-')
    62

/-- `_RUN_ID_RE` of the run store. -/
def runIdMatches : String → Bool := fullMatches isAsciiAlphanumeric
    (fun letter => isAsciiAlphanumeric letter || letter = '_' || letter = '-')
    127

/-- `_KEY_RE`. -/
def keyMatches : String → Bool :=
  fullMatches isAsciiAlphanumeric (fun letter => isAsciiAlphanumeric letter || letter = '_' ||
      letter = '.' || letter = ':' || letter = '-')
    127

inductive JobGeometry
  | signal
  | roundabout
  deriving DecidableEq, Repr

def JobGeometry.name : JobGeometry → String
  | signal => "signal"
  | roundabout => "roundabout"

/-- `JobSpec`: what to run. `config` is the text of the override. -/
structure JobSpec where
  geometry : JobGeometry := .signal
  numSeeds : Nat := 5
  duration : ℚ := 30
  baseSeed : Option Nat := none
  config : Option String := none
  seedsBounded : 1 ≤ numSeeds ∧ numSeeds ≤ 100 := by decide
  durationBounded : 1 ≤ duration ∧ duration ≤ 3600 := by decide
  baseSeedBounded : ∀ seed ∈ baseSeed, seed ≤ 2 ^ 31 - 1 := by decide
  deriving DecidableEq

/-- `JobRequest`, as its validators accept it. -/
structure JobRequest where
  run : JobSpec
  tenant : String
  runId : Option String := none
  costTags : Dict String String := ∅
  idempotencyKey : Option String := none
  visibilityTimeoutSeconds : Nat := 900
  maxReceives : Nat := 3
  tenantValid : tenantMatches tenant = true := by decide
  runIdValid : ∀ id ∈ runId, runIdMatches id = true := by decide
  keyValid : ∀ key ∈ idempotencyKey, keyMatches key = true := by decide
  visibilityBounded : 30 ≤ visibilityTimeoutSeconds ∧
    visibilityTimeoutSeconds ≤ 12 * 3600 := by decide
  receivesBounded : 1 ≤ maxReceives ∧ maxReceives ≤ 10 := by decide

/-- `JobMessage`: the body of one queue message. -/
structure JobMessage where
  jobId : String
  idempotencyKey : String
  tenant : String
  runId : String
  run : JobSpec
  costTags : Dict String String
  visibilityTimeoutSeconds : Int
  maxReceives : Int
  enqueuedAt : ℚ
  deriving DecidableEq

/-- The JSON of a message, its reader and `spec_digest`. What is read from the
JSON of a message names the message's run. -/
structure JobCodec where
  toJson : JobMessage → String
  fromJson : String → Except String JobMessage
  specDigest : String → JobSpec → String
  readsRunId : ∀ message read, fromJson (toJson message) = .ok read → read.runId = message.runId

/-- `first or second` on texts, where the first may be absent. -/
def pyTextOr (text : Option String) (fallback : String) : String := match text with
  | some text => if text = "" then fallback else text
  | none => fallback

/-- A call of `build_message`: the request with the tags, the time and the job id
that go with it. -/
structure Submission where
  request : JobRequest
  costTags : Dict String String
  now : ℚ
  jobId : String

namespace Submission

variable (codec : JobCodec) (submission : Submission)

def digest : String := codec.specDigest submission.request.tenant submission.request.run

/-- The run id the message gets. -/
def runId : String := pyTextOr submission.request.runId (pyPrefix 20 (submission.digest codec))

/-- The idempotency key the message gets. -/
def idempotencyKey : String := pyTextOr submission.request.idempotencyKey (submission.digest codec)

/-- The message `build_message` makes, before its size is checked. -/
def message : JobMessage where
  jobId := submission.jobId
  idempotencyKey := submission.idempotencyKey codec
  tenant := submission.request.tenant
  runId := submission.runId codec
  run := submission.request.run
  costTags := submission.costTags.insert "run-id" (submission.runId codec)
  visibilityTimeoutSeconds := submission.request.visibilityTimeoutSeconds
  maxReceives := submission.request.maxReceives
  enqueuedAt := submission.now

def maxMessageBytes : Nat := 200 * 1024

def buildMessage : Except String JobMessage :=
  let message := submission.message codec
  let size := (codec.toJson message).utf8ByteSize
  if maxMessageBytes < size then
    .error ("job message is " ++ toString size ++ " bytes; the limit is " ++
      toString maxMessageBytes ++ " (shrink the config override)")
  else .ok message

/-- The submitter chose the idempotency key. -/
def SuppliesKey : Prop := submission.request.idempotencyKey.isSome

/-- The submitter chose the run id. -/
def SuppliesRunId : Prop := submission.request.runId.isSome

/-- Two submissions differ in tenant or in run spec. -/
def Differs (other : Submission) : Prop :=
  submission.request.tenant ≠ other.request.tenant ∨ submission.request.run ≠ other.request.run

end Submission

namespace JobCodec

/-- No two pairs of tenant and spec have one digest. -/
def DigestInjective (codec : JobCodec) : Prop := ∀ tenant spec otherTenant otherSpec,
    codec.specDigest tenant spec = codec.specDigest otherTenant otherSpec →
      tenant = otherTenant ∧ spec = otherSpec

end JobCodec

namespace Submission

variable {codec : JobCodec} {first second : Submission}

section

variable (injective : codec.DigestInjective) (different : first.Differs second)

include injective different

/-- Submissions that differ have different digests. -/
theorem digest_ne : first.digest codec ≠ second.digest codec := by
  intro same
  obtain ⟨sameTenant, sameRun⟩ := injective _ _ _ _ same
  rcases different with tenants | runs
  · exact tenants sameTenant
  · exact runs sameRun

/-- Submissions that differ have one key only where one of them chose it. -/
theorem supplies_of_same_key (sameKey : first.idempotencyKey codec = second.idempotencyKey codec) :
    first.SuppliesKey ∨ second.SuppliesKey := by
  unfold SuppliesKey
  cases firstKey : first.request.idempotencyKey with
  | some => exact .inl rfl
  | none =>
    cases secondKey : second.request.idempotencyKey with
    | some => exact .inr rfl
    | none =>
      unfold idempotencyKey at sameKey
      rw [firstKey, secondKey] at sameKey
      exact absurd sameKey (digest_ne injective different)

end

theorem supplies_of_same_runId (sameRunId : first.runId codec = second.runId codec) :
    first.SuppliesRunId ∨ second.SuppliesRunId ∨
      pyPrefix 20 (first.digest codec) = pyPrefix 20 (second.digest codec) := by
  unfold SuppliesRunId
  cases firstId : first.request.runId with
  | some => exact .inl rfl
  | none =>
    cases secondId : second.request.runId with
    | some => exact .inr (.inl rfl)
    | none =>
      unfold runId at sameRunId
      rw [firstId, secondId] at sameRunId
      exact .inr (.inr sameRunId)

end Submission

instance countable_char : Countable Char :=
  Function.Injective.countable (f := Char.toNat) fun _ _ same => Char.toNat_inj.mp same

instance countable_string : Countable String :=
  Function.Injective.countable (f := String.toList) fun _ _ same => String.toList_inj.mp same

instance : Countable JobGeometry :=
  Function.Injective.countable (f := JobGeometry.name) fun first second same => by
      cases first <;> cases second <;> first | rfl | exact absurd same (by decide)

/-- A spec with the default of each field. -/
def JobSpec.standard : JobSpec := {}

def JobSpec.fields (spec : JobSpec) : JobGeometry × Nat × ℚ × Option Nat × Option String :=
  (spec.geometry, spec.numSeeds, spec.duration, spec.baseSeed, spec.config)

instance : Countable JobSpec :=
  Function.Injective.countable (f := JobSpec.fields) fun first second same => by
    cases first
    cases second
    simpa [JobSpec.fields] using same

theorem exists_digest : ∃ digest : String × JobSpec → String, Function.Injective digest := by
  have : ∃ number : String × JobSpec → Nat, Function.Injective number := exists_injective_nat _
  obtain ⟨number, injective⟩ := this
  refine ⟨fun job => String.ofList (List.replicate (number job) 'a'),
    fun first second same => injective ?_⟩
  simpa using congrArg List.length (String.ofList_injective same)

/-- A codec whose JSON of a message is the message's run id. -/
noncomputable def plainCodec : JobCodec where
  toJson := JobMessage.runId
  fromJson text := .ok
    { jobId := ""
      idempotencyKey := ""
      tenant := ""
      runId := text
      run := .standard
      costTags := ∅
      visibilityTimeoutSeconds := 900
      maxReceives := 3
      enqueuedAt := 0 }
  specDigest tenant spec := exists_digest.choose (tenant, spec)
  readsRunId message read isRead := by rw [← Except.ok.inj isRead]

theorem plainCodec_digestInjective : plainCodec.DigestInjective := by
  intro tenant spec otherTenant otherSpec same
  have samePair := exists_digest.choose_spec same
  exact ⟨congrArg Prod.fst samePair, congrArg Prod.snd samePair⟩

end UrbanFlow
