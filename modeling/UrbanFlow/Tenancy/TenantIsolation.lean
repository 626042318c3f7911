import Mathlib.Data.Char
import Mathlib.Data.List.Induction
import Mathlib.Data.List.Lex
import UrbanFlow.Library.Machine

/-!
# Tenants do not interfere

A storage key is built only from a tenant's scope: the tenant's prefix, then path
segments of an allowed form. A tenant owns exactly the keys its scope can produce, and no key has two owners.
The items a tenant owns are therefore a view that unwinds the store: the calls of
other tenants keep it, and the tenant's own calls and answers depend on it alone.
-/

namespace UrbanFlow

/-- `InvalidKeyError`. -/
structure InvalidKey where
  message : String
  deriving DecidableEq, Repr

/-- `TENANT_ID_PATTERN`, matched in full. -/
def tenantIdPattern : List Char → Bool
  | [] => false
  | first :: rest =>
    (first.isLower || first.isDigit) && rest.length ≤ 62 &&
      rest.all fun c => c.isLower || c.isDigit || c = '_' || c = '-'

/-- `_SEGMENT_PATTERN`, matched in full. -/
def segmentPattern : List Char → Bool
  | [] => false
  | first :: rest =>
    (first.isAlphanum || first = '_') && rest.length ≤ 199 &&
      rest.all fun c => c.isAlphanum || c = '_' || c = '.' || c = '-'

def validateTenantId (tenantId : List Char) : Except InvalidKey (List Char) :=
  if ¬ tenantIdPattern tenantId then .error ⟨"invalid tenant id"⟩
  else .ok tenantId

/-- The segments `_check_segment` lets through. -/
def SegmentAllowed (segment : List Char) : Prop :=
  segmentPattern segment ∧ ¬ ['.', '.'] <:+: segment

instance : DecidablePred SegmentAllowed := fun segment => inferInstanceAs
    (Decidable (segmentPattern segment = true ∧ ¬ ['.', '.'] <:+: segment))

def checkSegment (segment : List Char) : Except InvalidKey (List Char) :=
  if ¬ SegmentAllowed segment then .error ⟨"invalid key segment"⟩
  else .ok segment

/-- `TenantScope`: a tenant id that has passed `validate_tenant_id`. -/
structure TenantScope where
  tenantId : List Char
  valid : validateTenantId tenantId = .ok tenantId
  deriving DecidableEq

def keyRoot : List Char := "tenants".toList

namespace TenantScope

/-- `prefix`. -/
def keyPrefix (scope : TenantScope) : List Char := keyRoot ++ '/' :: (scope.tenantId ++ ['/'])

def key (segments : List (List Char)) (scope : TenantScope) : Except InvalidKey (List Char) :=
  if segments = [] then .error ⟨"empty key"⟩
  else do
    let checked ← segments.mapM checkSegment
    .ok (scope.keyPrefix ++ ['/'].intercalate checked)

def keyFor (relativePath : List Char) (scope : TenantScope) : Except InvalidKey (List Char) :=
  scope.key (relativePath.splitOn '/')

def owns (scope : TenantScope) (key : List Char) : Bool := if ¬ scope.keyPrefix <+: key then false
  else match scope.keyFor (key.drop scope.keyPrefix.length) with
    | .error _ => false
    | .ok _ => true

def relative (key : List Char) (scope : TenantScope) : Except InvalidKey (List Char) :=
  if ¬ scope.owns key then .error ⟨"key outside tenant"⟩
  else .ok (key.drop scope.keyPrefix.length)

end TenantScope

/-- `InMemoryScopedStore`: its items, in the order their keys were first put. -/
structure InMemoryScopedStore where
  items : List (List Char × List UInt8) := []

/-- `items[key] = value`. -/
def setItem (key : List Char) (value : List UInt8)
    (items : List (List Char × List UInt8)) : List (List Char × List UInt8) :=
  if key ∈ items.map Prod.fst then items.map fun item => if item.1 = key then (key, value) else item
  else items ++ [(key, value)]

/-- `items.pop(key, None)`, the items after it. -/
def popItem (key : List Char)
    (items : List (List Char × List UInt8)) : List (List Char × List UInt8) :=
  items.filter fun item => item.1 ≠ key

namespace InMemoryScopedStore

section

variable (scope : TenantScope) (path : List Char)

/-- `put`: the key, and the store after it. -/
def put (value : List UInt8) (store : InMemoryScopedStore) :
    Except InvalidKey (List Char × InMemoryScopedStore) := do
  let key ← scope.keyFor path
  .ok (key, { items := setItem key value store.items })

def get (store : InMemoryScopedStore) : Except InvalidKey (Option (List UInt8)) := do
  let key ← scope.keyFor path
  .ok (store.items.lookup key)

/-- `delete`: whether the key was stored, and the store after it. -/
def delete (store : InMemoryScopedStore) : Except InvalidKey (Bool × InMemoryScopedStore) := do
  let key ← scope.keyFor path
  .ok ((store.items.lookup key).isSome, { items := popItem key store.items })

end

def list (scope : TenantScope)
    (store : InMemoryScopedStore) : Except InvalidKey (List (List Char)) := do
  let keys := (store.items.map Prod.fst).filter scope.owns
  let paths ← keys.mapM fun key => scope.relative key
  .ok (paths.mergeSort fun first second => first ≤ second)

end InMemoryScopedStore

theorem mapM_checkSegment (segments : List (List Char)) : segments.mapM checkSegment =
      if ∀ segment ∈ segments, SegmentAllowed segment then .ok segments
      else .error ⟨"invalid key segment"⟩ := by
  induction segments with
  | nil => rfl
  | cons segment segments ih =>
    rw [List.mapM_cons, ih]
    unfold checkSegment
    by_cases allowed : SegmentAllowed segment
    · by_cases others : ∀ segment ∈ segments, SegmentAllowed segment
      · rw [if_neg (not_not.mpr allowed), if_pos others, if_pos (by
          simpa [allowed] using others)]
        rfl
      · rw [if_neg (not_not.mpr allowed), if_neg others, if_neg (by
          simpa [allowed] using others)]
        rfl
    · have rejected : ¬ ∀ other ∈ segment :: segments, SegmentAllowed other :=
        fun all => allowed (all segment List.mem_cons_self)
      rw [if_pos allowed, if_neg rejected]
      rfl

theorem separator_notMem_of_valid {tenantId : List Char}
    (valid : validateTenantId tenantId = .ok tenantId) : '/' ∉ tenantId := by
  have matched : tenantIdPattern tenantId = true := by
    unfold validateTenantId at valid
    by_contra unmatched
    rw [if_pos unmatched] at valid
    exact absurd valid (by simp)
  unfold tenantIdPattern at matched
  split at matched
  · simp
  · next first rest =>
      simp only [Bool.and_eq_true, List.all_eq_true] at matched
      obtain ⟨⟨isFirst, _⟩, others⟩ := matched
      intro member
      rcases List.mem_cons.mp member with rfl | later
      · exact absurd isFirst (by decide)
      · exact absurd (others '/' later) (by decide)

namespace TenantScope

variable {scope other : TenantScope} {key path : List Char}

/-- A path's segments are all of the allowed form. -/
def PathAllowed (path : List Char) : Prop := ∀ segment ∈ path.splitOn '/', SegmentAllowed segment

instance : DecidablePred PathAllowed :=
  fun path => inferInstanceAs (Decidable (∀ segment ∈ path.splitOn '/', SegmentAllowed segment))

theorem keyFor_eq (scope : TenantScope) (path : List Char) : scope.keyFor path =
      if PathAllowed path then .ok (scope.keyPrefix ++ path)
      else .error ⟨"invalid key segment"⟩ := by
  unfold keyFor TenantScope.key
  rw [if_neg (List.splitOn_ne_nil '/' path), mapM_checkSegment]
  by_cases allowed : PathAllowed path
  · have isAllowed : ∀ segment ∈ path.splitOn '/', SegmentAllowed segment := allowed
    rw [if_pos isAllowed, if_pos allowed]
    change Except.ok (scope.keyPrefix ++ ['/'].intercalate (path.splitOn '/')) = _
    rw [List.intercalate_splitOn]
  · have isRejected : ¬ ∀ segment ∈ path.splitOn '/', SegmentAllowed segment := allowed
    rw [if_neg isRejected, if_neg allowed]
    rfl

theorem keyFor_eq_ok : scope.keyFor path = .ok key ↔
      PathAllowed path ∧ key = scope.keyPrefix ++ path := by
  rw [keyFor_eq]
  by_cases allowed : PathAllowed path
  · simp [allowed, eq_comm]
  · simp [allowed]

/-- A tenant owns the keys its scope can produce. -/
theorem owns_iff_keyFor : scope.owns key ↔ ∃ path, scope.keyFor path = .ok key := by
  unfold owns
  constructor
  · intro isOwned
    split at isOwned
    · exact absurd isOwned (by simp)
    · next startsWith =>
        split at isOwned
        · exact absurd isOwned (by simp)
        · next produced isProduced =>
            refine ⟨_, isProduced.trans ?_⟩
            obtain ⟨_, isKey⟩ := keyFor_eq_ok.mp isProduced
            rw [isKey, List.prefix_iff_eq_append.mp (not_not.mp startsWith)]
  · rintro ⟨path, isProduced⟩
    obtain ⟨_, rfl⟩ := keyFor_eq_ok.mp isProduced
    rw [if_neg (not_not.mpr (List.prefix_append _ _)), List.drop_left, isProduced]

theorem owns_keyFor (isKey : scope.keyFor path = .ok key) : scope.owns key :=
  owns_iff_keyFor.mpr ⟨path, isKey⟩

/-- Reading a key back gives the path it was made for. -/
theorem relative_keyFor (isKey : scope.keyFor path = .ok key) : scope.relative key = .ok path := by
  unfold relative
  rw [if_neg (not_not.mpr (owns_keyFor isKey)), (keyFor_eq_ok.mp isKey).2, List.drop_left]

theorem eq_of_keyPrefix {rest otherRest : List Char}
    (same : scope.keyPrefix ++ rest = other.keyPrefix ++ otherRest) : scope = other := by
  have ids : scope.tenantId ++ '/' :: rest = other.tenantId ++ '/' :: otherRest := by
    simpa [keyPrefix] using same
  have heads := congrArg (List.splitOn '/') ids
  rw [List.splitOn_append_cons_self_of_not_mem (separator_notMem_of_valid scope.valid),
    List.splitOn_append_cons_self_of_not_mem (separator_notMem_of_valid other.valid)] at heads
  obtain ⟨id, valid⟩ := scope
  obtain ⟨otherId, otherValid⟩ := other
  obtain rfl : id = otherId := (List.cons.inj heads).1
  rfl

theorem owner_unique (isOwned : scope.owns key) (otherOwns : other.owns key) : scope = other := by
  obtain ⟨path, isKey⟩ := owns_iff_keyFor.mp isOwned
  obtain ⟨otherPath, otherKey⟩ := owns_iff_keyFor.mp otherOwns
  have sameKey : scope.keyPrefix ++ path = other.keyPrefix ++ otherPath :=
    (keyFor_eq_ok.mp isKey).2.symm.trans (keyFor_eq_ok.mp otherKey).2
  exact eq_of_keyPrefix sameKey

end TenantScope

section Items

variable {key : List Char} {value : List UInt8} {items : List (List Char × List UInt8)}
variable (keep : List Char → Bool)

/-- The items whose keys are kept. -/
def kept (keep : List Char → Bool)
    (items : List (List Char × List UInt8)) : List (List Char × List UInt8) :=
  items.filter fun item => keep item.1

theorem kept_setItem_of_mem (isKept : keep key) : kept keep (setItem key value items) =
      setItem key value (kept keep items) := by
  have sameKeys : key ∈ (kept keep items).map Prod.fst ↔ key ∈ items.map Prod.fst := by
    simp [kept, isKept]
  simp only [setItem, sameKeys]
  split
  · unfold kept
    rw [List.filter_map]
    congr 1
    apply List.filter_congr
    intro item _
    by_cases same : item.1 = key
    · simp [same, isKept]
    · simp [same]
  · simp [kept, isKept]

theorem kept_setItem_of_notMem (isDropped : ¬ keep key) :
    kept keep (setItem key value items) = kept keep items := by
  have unseen (items : List (List Char × List UInt8)) : kept keep (items.map fun item =>
        if item.1 = key then (key, value) else item) = kept keep items := by
    unfold kept
    induction items with
    | nil => simp
    | cons item _ ih =>
      rw [List.map_cons, List.filter_cons, List.filter_cons, ih]
      by_cases same : item.1 = key
      · simp [same, isDropped]
      · simp [same]
  unfold setItem
  split
  · exact unseen items
  · simp [kept, isDropped]

theorem kept_popItem : kept keep (popItem key items) = popItem key (kept keep items) := by
  unfold kept popItem
  rw [List.filter_comm]

theorem kept_popItem_of_notMem (isDropped : ¬ keep key) :
    kept keep (popItem key items) = kept keep items := by
  unfold kept popItem
  rw [List.filter_filter]
  apply List.filter_congr
  intro item _
  by_cases same : item.1 = key
  · simp [same, isDropped]
  · simp [same]

theorem lookup_kept (isKept : keep key) : (kept keep items).lookup key = items.lookup key := by
  unfold kept
  induction items with
  | nil => simp
  | cons item _ ih =>
    obtain ⟨itemKey, itemValue⟩ := item
    by_cases same : key = itemKey
    · subst same
      simp [List.filter_cons_of_pos, isKept]
    · have differs : (key == itemKey) = false := by simpa using same
      by_cases keepsItem : keep itemKey
      · simp [keepsItem, List.lookup_cons, differs, ih]
      · simp [keepsItem, List.lookup_cons, differs, ih]

end Items

inductive StoreCall
  | put (path : List Char) (value : List UInt8)
  | get (path : List Char)
  | delete (path : List Char)
  | list

structure ScopedCall where
  scope : TenantScope
  call : StoreCall

/-- What a call returns. -/
inductive StoreResult
  | key (key : List Char)
  | value (value : Option (List UInt8))
  | deleted (wasStored : Bool)
  | paths (paths : List (List Char))
  deriving DecidableEq

namespace InMemoryScopedStore

section

variable (store : InMemoryScopedStore) (asked : ScopedCall)

/-- The store after a call; a call that raises leaves it as it was. -/
def step : InMemoryScopedStore := match asked.call with
  | .put path value =>
    match store.put asked.scope path value with
    | .ok (_, after) => after
    | .error _ => store
  | .get _ => store
  | .delete path =>
    match store.delete asked.scope path with
    | .ok (_, after) => after
    | .error _ => store
  | .list => store

/-- What a call returns or raises. -/
def answer : Except InvalidKey StoreResult := match asked.call with
  | .put path value => (store.put asked.scope path value).map fun result => .key result.1
  | .get path => (store.get asked.scope path).map .value
  | .delete path => (store.delete asked.scope path).map fun result => .deleted result.1
  | .list => (store.list asked.scope).map .paths

end

/-- The items a tenant owns. -/
def view (scope : TenantScope) (store : InMemoryScopedStore) : List (List Char × List UInt8) :=
  kept scope.owns store.items

variable {scope : TenantScope} {store other : InMemoryScopedStore}

theorem notOwned_of_ne {owner : TenantScope} {path key : List Char} (different : owner ≠ scope)
    (isKey : owner.keyFor path = .ok key) : ¬ scope.owns key :=
  fun owned => different (TenantScope.owner_unique (TenantScope.owns_keyFor isKey) owned)

theorem list_eq (scope : TenantScope) (store : InMemoryScopedStore) : store.list scope =
      (((store.view scope).map Prod.fst).mapM fun key => scope.relative key).map
          fun paths => paths.mergeSort fun first second => first ≤ second := by
  have sameKeys : (store.items.map Prod.fst).filter scope.owns =
      (store.view scope).map Prod.fst := by
    unfold view kept
    rw [List.filter_map]
    rfl
  unfold list
  rw [sameKeys]
  rfl

theorem view_unwinds (scope : TenantScope) :
    Isolation.Unwinds step answer (·.scope = scope) (view scope) where
  others store asked isOther := by
    obtain ⟨owner, call⟩ := asked
    cases call with
    | put path =>
      dsimp only [step, put]
      cases isKey : owner.keyFor path with
      | error => rfl
      | ok => exact kept_setItem_of_notMem scope.owns (notOwned_of_ne isOther isKey)
    | get => rfl
    | delete path =>
      dsimp only [step, delete]
      cases isKey : owner.keyFor path with
      | error => rfl
      | ok => exact kept_popItem_of_notMem scope.owns (notOwned_of_ne isOther isKey)
    | list => rfl
  steps store other asked isMine same := by
    obtain ⟨owner, call⟩ := asked
    obtain rfl : owner = scope := isMine
    cases call with
    | put path value =>
      dsimp only [step, put]
      cases isKey : owner.keyFor path with
      | error => exact same
      | ok key =>
        have owned := TenantScope.owns_keyFor isKey
        change kept owner.owns (setItem key value store.items) =
          kept owner.owns (setItem key value other.items)
        rw [kept_setItem_of_mem _ owned, kept_setItem_of_mem _ owned]
        exact congrArg _ same
    | get => exact same
    | delete path =>
      dsimp only [step, delete]
      cases isKey : owner.keyFor path with
      | error => exact same
      | ok key =>
        change kept owner.owns (popItem key store.items) = kept owner.owns (popItem key other.items)
        rw [kept_popItem, kept_popItem]
        exact congrArg _ same
    | list => exact same
  answers store other asked isMine same := by
    obtain ⟨owner, call⟩ := asked
    obtain rfl : owner = scope := isMine
    have sameLookup (path key : List Char) (isKey : owner.keyFor path = .ok key) :
        store.items.lookup key = other.items.lookup key := by
      have owned := TenantScope.owns_keyFor isKey
      calc
        store.items.lookup key = (view owner store).lookup key :=
          (lookup_kept owner.owns owned).symm
        _ = (view owner other).lookup key := by rw [same]
        _ = other.items.lookup key := lookup_kept owner.owns owned
    cases call with
    | put path =>
      dsimp only [answer, put]
      cases isKey : owner.keyFor path with
      | error invalid | ok key => rfl
    | get path =>
      dsimp only [answer, get]
      cases isKey : owner.keyFor path with
      | error => rfl
      | ok key =>
        change Except.ok (StoreResult.value (store.items.lookup key)) =
          Except.ok (StoreResult.value (other.items.lookup key))
        rw [sameLookup path key isKey]
    | delete path =>
      dsimp only [answer, delete]
      cases isKey : owner.keyFor path with
      | error => rfl
      | ok key =>
        change Except.ok (StoreResult.deleted (store.items.lookup key).isSome) =
          Except.ok (StoreResult.deleted (other.items.lookup key).isSome)
        rw [sameLookup path key isKey]
    | list =>
      dsimp only [answer]
      rw [list_eq, list_eq, same]

theorem step_owned (owned : ∀ item ∈ store.items, ∃ scope : TenantScope, scope.owns item.1)
    (asked : ScopedCall) :
    ∀ item ∈ (store.step asked).items, ∃ scope : TenantScope, scope.owns item.1 := by
  obtain ⟨owner, call⟩ := asked
  cases call with
  | put path value =>
    dsimp only [step, put]
    cases isKey : owner.keyFor path with
    | error => exact owned
    | ok key =>
      intro item member
      change item ∈ setItem key value store.items at member
      unfold setItem at member
      split at member
      · obtain ⟨old, isOld, isItem⟩ := List.mem_map.mp member
        split at isItem
        · exact ⟨owner, isItem ▸ TenantScope.owns_keyFor isKey⟩
        · exact isItem ▸ owned old isOld
      · rcases List.mem_append.mp member with old | isNew
        · exact owned item old
        · rw [List.mem_singleton.mp isNew]
          exact ⟨owner, TenantScope.owns_keyFor isKey⟩
  | get => exact owned
  | delete path =>
    dsimp only [step, delete]
    cases isKey : owner.keyFor path with
    | error => exact owned
    | ok =>
      intro item member
      exact owned item (List.mem_of_mem_filter member)
  | list => exact owned

theorem steps_owned (calls : List ScopedCall) :
    ∀ item ∈ (calls.foldl step ({} : InMemoryScopedStore)).items,
      ∃ scope : TenantScope, scope.owns item.1 := by
  induction calls using List.reverseRecOn with
  | nil => simp
  | append_singleton _ asked ih =>
    rw [List.foldl_append]
    exact step_owned ih asked

/-- How the store keeps a tenant apart from the others: it observes the same
whatever calls the others make, every stored key has one owner, a tenant owns
the keys its scope can produce, and such a key reads back as its path. -/
structure KeepsApart (scope : TenantScope) : Prop where
  observes : ∀ calls others : List ScopedCall,
    calls.filter (·.scope = scope) = others.filter (·.scope = scope) →
      Isolation.observed step answer (·.scope = scope) {} calls =
        Isolation.observed step answer (·.scope = scope) {} others
  oneOwner : ∀ calls : List ScopedCall,
    ∀ item ∈ (calls.foldl step ({} : InMemoryScopedStore)).items,
      ∃! owner : TenantScope, owner.owns item.1
  owns : ∀ key, scope.owns key ↔ ∃ path, scope.keyFor path = .ok key
  relative : ∀ path key, scope.keyFor path = .ok key → scope.relative key = .ok path

/-- Every tenant is kept apart from the others. -/
theorem keepsApart (scope : TenantScope) : KeepsApart scope where
  observes calls others same := (view_unwinds scope).observed_eq {} same
  oneOwner calls item member := by
    obtain ⟨owner, owns⟩ := steps_owned calls item member
    exact ⟨owner, owns, fun other otherOwns => TenantScope.owner_unique otherOwns owns⟩
  owns key := TenantScope.owns_iff_keyFor
  relative path key isKey := TenantScope.relative_keyFor isKey

end InMemoryScopedStore
end UrbanFlow
