import UrbanFlow.Metering.PyValue

/-!
# Writing and merging dictionaries

A dictionary is its items, so writing a key replaces its item or appends one.
`deepMerge` writes every item of a second dictionary into a first one, merging
where both hold a dictionary. What a merged dictionary holds under a key is
decided by the two values under that key alone.
-/

namespace UrbanFlow

namespace Fields

/-- `fields[key] = value`. -/
def set : Fields → String → PyValue → Fields
  | [], key, value => [(key, value)]
  | (other, old) :: rest, key, value =>
    if other = key then (other, value) :: rest
    else (other, old) :: set rest key value

theorem lookup_cons_of_ne {first key : String} (different : key ≠ first) (value : PyValue)
    (rest : Fields) : List.lookup key ((first, value) :: rest) = rest.lookup key := by
  rw [List.lookup_cons, beq_false_of_ne different]

section

variable (fields : Fields)

theorem lookup_set (key other : String) (value : PyValue) : (fields.set key value).lookup other =
      if other = key then some value else fields.lookup other := by
  induction fields with
  | nil =>
    by_cases same : other = key
    · simp [set, same]
    · simp [set, same, lookup_cons_of_ne same]
  | cons item _ ih =>
    obtain ⟨first, old⟩ := item
    by_cases isFirst : first = key
    · subst isFirst
      by_cases same : other = first
      · simp [set, same]
      · simp [set, same, lookup_cons_of_ne same]
    · by_cases same : other = first
      · subst same
        simp [set, isFirst]
      · rw [set, if_neg isFirst, lookup_cons_of_ne same, ih, lookup_cons_of_ne same]

@[simp] theorem lookup_set_self (key : String) (value : PyValue) :
    (fields.set key value).lookup key = some value := by
  simp [lookup_set]

theorem lookup_set_of_ne {key other : String} (different : other ≠ key) (value : PyValue) :
    (fields.set key value).lookup other = fields.lookup other := by
  simp [lookup_set, different]

/-- `{**base, **extra}`. The keys of `extra` are distinct, so the order in which
they are written only shows in the order of the items. -/
def update (base : Fields) : Fields → Fields
  | [] => base
  | (key, value) :: rest => (update base rest).set key value

theorem lookup_update (base extra : Fields) (key : String) :
    (base.update extra).lookup key = (extra.lookup key).or (base.lookup key) := by
  induction extra with
  | nil => rfl
  | cons item _ ih =>
    obtain ⟨first, value⟩ := item
    by_cases same : key = first
    · subst same
      simp [update]
    · rw [update, lookup_set_of_ne _ same, lookup_cons_of_ne same, ih]

theorem lookup_filter (keeps : String → Bool) (key : String) :
    List.lookup key (fields.filter fun item => keeps item.1) =
      if keeps key then fields.lookup key else none := by
  induction fields with
  | nil => simp
  | cons item _ ih =>
    obtain ⟨first, value⟩ := item
    by_cases same : key = first
    · subst same
      by_cases kept : keeps key = true
      · simp [kept]
      · simp [kept, ih]
    · by_cases kept : keeps first = true
      · simp [kept, lookup_cons_of_ne same, ih]
      · simp [kept, lookup_cons_of_ne same, ih]

/-- `fields.get(key)` when it is a dictionary. -/
def dictAt (key : String) : Option Fields := (fields.lookup key).bind PyValue.asDict

end

end Fields

mutual

/-- What `_deep_merge` leaves under a key that held `old` before it writes a
value there. -/
def PyValue.mergeOver (old : Option PyValue) : PyValue → PyValue
  | .dict extra =>
    match old with
    | some (.dict base) => .dict (Fields.deepMerge base extra)
    | _ => .dict extra
  | value => value

def Fields.deepMerge (base : Fields) : List (String × PyValue) → Fields
  | [] => base
  | (key, value) :: rest => Fields.deepMerge (base.set key (value.mergeOver (base.lookup key))) rest

end

mutual

/-- The keys of a value's dictionaries are distinct. What stands in lists is
never merged. -/
def PyValue.Distinct : PyValue → Prop
  | .dict items => Fields.Distinct items
  | _ => True

/-- The keys of a dictionary, and of the dictionaries it holds, are distinct. -/
def Fields.Distinct : List (String × PyValue) → Prop
  | [] => True
  | (key, value) :: rest => rest.lookup key = none ∧ value.Distinct ∧ Fields.Distinct rest

end

section

variable (value : PyValue)

theorem PyValue.mergeOver_of_asDict {old : Option PyValue}
    (notDict : old.bind PyValue.asDict = Option.none) : value.mergeOver old = value := by
  cases value with
  | dict =>
    cases old with
    | none => simp [PyValue.mergeOver]
    | some held =>
      cases held with
      | dict => simp [PyValue.asDict] at notDict
      | _ => simp [PyValue.mergeOver]
  | _ => simp [PyValue.mergeOver]

theorem PyValue.isNone_mergeOver (old : Option PyValue) :
    (value.mergeOver old).isNone = value.isNone := by
  cases isDict : old.bind PyValue.asDict with
  | none => rw [value.mergeOver_of_asDict isDict]
  | some =>
    obtain ⟨held, rfl, isHeld⟩ := Option.bind_eq_some_iff.mp isDict
    obtain rfl := PyValue.asDict_eq_some.mp isHeld
    cases value <;> simp [PyValue.mergeOver, PyValue.isNone]

@[simp] theorem PyValue.mergeOver_none : value.mergeOver Option.none = value :=
  value.mergeOver_of_asDict rfl

end

@[simp] theorem PyValue.mergeOver_str (words : String) (value : PyValue) :
    value.mergeOver (some (.str words)) = value :=
  value.mergeOver_of_asDict rfl

@[simp] theorem PyValue.mergeOver_list (items : List PyValue) (value : PyValue) :
    value.mergeOver (some (.list items)) = value :=
  value.mergeOver_of_asDict rfl

namespace Fields

variable {key : String} {extra base inner : Fields}

theorem Distinct.lookup {fields : Fields} (distinct : Distinct fields) {value : PyValue}
    (found : fields.lookup key = some value) : value.Distinct := by
  induction fields with
  | nil => simp at found
  | cons item _ ih =>
    obtain ⟨first, held⟩ := item
    rw [Distinct] at distinct
    by_cases same : key = first
    · subst same
      obtain rfl : held = value := by simpa using found
      exact distinct.2.1
    · rw [lookup_cons_of_ne same] at found
      exact ih distinct.2.2 found

/-- What a merged dictionary holds under a key. -/
theorem lookup_deepMerge (base : Fields) (distinct : Distinct extra) (key : String) :
    (deepMerge base extra).lookup key = match extra.lookup key with
      | none => base.lookup key
      | some value => some (value.mergeOver (base.lookup key)) := by
  induction extra generalizing base with
  | nil => simp [deepMerge]
  | cons item _ ih =>
    obtain ⟨first, value⟩ := item
    rw [Distinct] at distinct
    obtain ⟨absent, _, restDistinct⟩ := distinct
    rw [deepMerge, ih _ restDistinct]
    by_cases same : key = first
    · subst same
      simp [absent]
    · rw [lookup_set_of_ne _ same, lookup_cons_of_ne same]

/-- Merging loses no key. -/
theorem isSome_lookup_deepMerge (distinct : Distinct extra)
    (present : (base.lookup key).isSome = true) :
    ((deepMerge base extra).lookup key).isSome = true := by
  rw [lookup_deepMerge base distinct]
  cases extra.lookup key with
  | none => exact present
  | some => rfl

theorem lookup_deepMerge_of_none (base : Fields) (distinct : Distinct extra)
    (absent : extra.lookup key = none) : (deepMerge base extra).lookup key = base.lookup key := by
  rw [lookup_deepMerge base distinct, absent]

/-- A key the first dictionary does not have is read from the second. -/
theorem get_deepMerge_of_none (distinct : Distinct extra) (absent : base.lookup key = none) :
    (deepMerge base extra).get key = extra.get key := by
  unfold get
  rw [lookup_deepMerge base distinct, absent]
  cases extra.lookup key with
  | none => rfl
  | some => simp [PyValue.mergeOver_none]

theorem dictAt_eq_some {fields : Fields} :
    fields.dictAt key = some inner ↔ fields.lookup key = some (.dict inner) := by
  simp [dictAt, Option.bind_eq_some_iff, PyValue.asDict_eq_some]

theorem dictAt_set_self (fields inner : Fields) (key : String) :
    (fields.set key (.dict inner)).dictAt key = some inner := by
  simp [dictAt]

theorem dictAt_set_of_ne (fields : Fields) {other : String} (different : other ≠ key)
    (value : PyValue) : (fields.set key value).dictAt other = fields.dictAt other := by
  unfold dictAt
  rw [lookup_set_of_ne fields different]

/-- A section of a merged dictionary that was one before: it is one still,
merged with what the second dictionary has there, unless that has something
other than a section there. -/
theorem dictAt_deepMerge (distinct : Distinct extra) (isSection : base.dictAt key = some inner) :
    (deepMerge base extra).dictAt key = match extra.lookup key with
      | none => some inner
      | some (.dict other) => some (deepMerge inner other)
      | some _ => none := by
  have found := dictAt_eq_some.mp isSection
  unfold dictAt
  rw [lookup_deepMerge base distinct, found]
  cases extra.lookup key with
  | none => rfl
  | some value => cases value <;> simp [PyValue.mergeOver, PyValue.asDict]

end Fields
end UrbanFlow
