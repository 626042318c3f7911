import UrbanFlow.Library.FixedWidth

/-!
# Moments and the texts they are stored as

UTC `datetime` values as their fields, `isoformat`, `fromisoformat` on the texts
it writes, and adding a number of days. The database compares the texts and the
authenticator the moments; the two orders are the same, although the text leaves
the microseconds out when there are none.
-/

namespace UrbanFlow.Tokens

open FixedWidth

def isLeap (year : Nat) : Bool := year % 4 = 0 && (year % 100 ≠ 0 || year % 400 = 0)

/-- The number of days of a month. -/
def daysInMonth (year month : Nat) : Nat := if month = 2 then (if isLeap year then 29 else 28)
  else if month = 4 ∨ month = 6 ∨ month = 9 ∨ month = 11 then 30
  else 31

/-- A `datetime` whose time zone is UTC. -/
structure DateTime where
  year : Nat
  month : Nat
  day : Nat
  hour : Nat
  minute : Nat
  second : Nat
  microsecond : Nat
  year_range : 1 ≤ year ∧ year ≤ 9999
  month_range : 1 ≤ month ∧ month ≤ 12
  day_range : 1 ≤ day ∧ day ≤ daysInMonth year month
  hour_range : hour < 24
  minute_range : minute < 60
  second_range : second < 60
  microsecond_range : microsecond < 1000000
  deriving DecidableEq, Repr

namespace DateTime

variable {moment later : DateTime} {rest otherRest : List Char} {values otherValues : List Nat}

/-- The fields of a moment, the largest unit first. -/
def fields (moment : DateTime) : List Nat :=
  [moment.year, moment.month, moment.day, moment.hour, moment.minute,
    moment.second, moment.microsecond]

theorem fields_injective : Function.Injective fields := by
  rintro ⟨⟩ ⟨⟩ sameFields
  simpa [fields] using sameFields

/-- Two moments of one time zone compare field by field. -/
instance momentOrder : LinearOrder DateTime := LinearOrder.lift' fields fields_injective

theorem lt_iff_fields (first second : DateTime) :
    first < second ↔ first.fields < second.fields := Iff.rfl

theorem daysInMonth_le (year month : Nat) : daysInMonth year month ≤ 31 := by
  unfold daysInMonth
  split_ifs <;> decide

theorem one_le_daysInMonth (year month : Nat) : 1 ≤ daysInMonth year month := by
  unfold daysInMonth
  split_ifs <;> decide

/-- The same time of the next day; `none` where the year would leave the range
of `datetime`. -/
def nextDay (moment : DateTime) : Option DateTime :=
  if inMonth : moment.day + 1 ≤ daysInMonth moment.year moment.month then
    some { moment with
      day := moment.day + 1
      day_range := ⟨Nat.le_add_left 1 _, inMonth⟩ }
  else if inYear : moment.month + 1 ≤ 12 then
    some { moment with
      month := moment.month + 1
      day := 1
      month_range := ⟨Nat.le_add_left 1 _, inYear⟩
      day_range := ⟨le_rfl, one_le_daysInMonth _ _⟩ }
  else if inRange : moment.year + 1 ≤ 9999 then
    some { moment with
      year := moment.year + 1
      month := 1
      day := 1
      year_range := ⟨Nat.le_add_left 1 _, inRange⟩
      month_range := by decide
      day_range := ⟨le_rfl, one_le_daysInMonth _ _⟩ }
  else none

/-- `moment + timedelta(days=days)`; `none` stands for the `OverflowError`. -/
def addDays (moment : DateTime) : Nat → Option DateTime
  | 0 => some moment
  | days + 1 => (moment.addDays days).bind nextDay

theorem lt_of_nextDay (isNext : moment.nextDay = some later) : moment < later := by
  rw [lt_iff_fields]
  unfold nextDay at isNext
  split_ifs at isNext <;>
    · cases isNext
      simp [fields, List.cons_lt_cons_iff]

theorem lt_of_addDays {days : Nat} (isPositive : 1 ≤ days)
    (isLater : moment.addDays days = some later) : moment < later := by
  induction days generalizing later with
  | zero => omega
  | succ days ih =>
    rw [addDays, Option.bind_eq_some_iff] at isLater
    obtain ⟨before, isBefore, isNext⟩ := isLater
    cases days with
    | zero =>
      cases isBefore
      exact lt_of_nextDay isNext
    | succ days => exact (ih (Nat.le_add_left 1 days) isBefore).trans (lt_of_nextDay isNext)

/-- The microseconds of a text, left out when there are none, and the offset of
UTC. -/
def fraction (microsecond : Nat) : List Char :=
  if microsecond = 0 then ['+', '0', '0', ':', '0', '0']
  else '.' :: (block 6 microsecond ++ ['+', '0', '0', ':', '0', '0'])

/-- `datetime.isoformat()` of a UTC moment. -/
def isoformat (moment : DateTime) : List Char :=
  block 4 moment.year ++ '-' :: (block 2 moment.month ++ '-' ::
    (block 2 moment.day ++ 'T' :: (block 2 moment.hour ++ ':' ::
      (block 2 moment.minute ++ ':' :: (block 2 moment.second ++ fraction moment.microsecond)))))

/-- The microseconds a text ends in. -/
def readFraction : List Char → Option Nat
  | ['+', '0', '0', ':', '0', '0'] => some 0
  | ['.', a, b, c, d, e, f, '+', '0', '0', ':', '0', '0'] => readNumber [a, b, c, d, e, f]
  | _ => none

/-- A moment from its fields; `none` stands for the `ValueError` of a field out
of range. -/
def ofFields (year month day hour minute second microsecond : Nat) : Option DateTime :=
  if inRange : (1 ≤ year ∧ year ≤ 9999) ∧ (1 ≤ month ∧ month ≤ 12) ∧
      (1 ≤ day ∧ day ≤ daysInMonth year month) ∧ hour < 24 ∧ minute < 60 ∧
      second < 60 ∧ microsecond < 1000000 then
    some ⟨year, month, day, hour, minute, second, microsecond, inRange.1,
      inRange.2.1, inRange.2.2.1, inRange.2.2.2.1, inRange.2.2.2.2.1,
      inRange.2.2.2.2.2.1, inRange.2.2.2.2.2.2⟩
  else none

/-- `datetime.fromisoformat` on the shape `isoformat` writes; `none` stands for
its `ValueError`. -/
def fromisoformat : List Char → Option DateTime
  | y₁ :: y₂ :: y₃ :: y₄ :: '-' :: m₁ :: m₂ :: '-' :: d₁ :: d₂ :: 'T' ::
      h₁ :: h₂ :: ':' :: n₁ :: n₂ :: ':' :: s₁ :: s₂ :: rest => do
    let year ← readNumber [y₁, y₂, y₃, y₄]
    let month ← readNumber [m₁, m₂]
    let day ← readNumber [d₁, d₂]
    let hour ← readNumber [h₁, h₂]
    let minute ← readNumber [n₁, n₂]
    let second ← readNumber [s₁, s₂]
    let microsecond ← readFraction rest
    ofFields year month day hour minute second microsecond
  | _ => none

theorem readFraction_fraction {microsecond : Nat} (inRange : microsecond < 1000000) :
    readFraction (fraction microsecond) = some microsecond := by
  unfold fraction
  split_ifs with isZero
  · rw [isZero]
    rfl
  · exact @readNumber_block 6 microsecond inRange

/-- The text of a moment is read back to the moment. -/
@[simp] theorem fromisoformat_isoformat (moment : DateTime) :
    fromisoformat moment.isoformat = some moment := by
  have readYear : readNumber (block 4 moment.year) = some moment.year :=
    readNumber_block (Nat.lt_of_le_of_lt moment.year_range.2 (by decide))
  have readMonth : readNumber (block 2 moment.month) = some moment.month :=
    readNumber_block (Nat.lt_of_le_of_lt moment.month_range.2 (by decide))
  have readDay : readNumber (block 2 moment.day) = some moment.day :=
    readNumber_block (Nat.lt_of_le_of_lt
      (moment.day_range.2.trans (daysInMonth_le _ _)) (by decide))
  have readHour : readNumber (block 2 moment.hour) = some moment.hour :=
    readNumber_block (moment.hour_range.trans (by decide))
  have readMinute : readNumber (block 2 moment.minute) = some moment.minute :=
    readNumber_block (moment.minute_range.trans (by decide))
  have readSecond : readNumber (block 2 moment.second) = some moment.second :=
    readNumber_block (moment.second_range.trans (by decide))
  have readRest := readFraction_fraction moment.microsecond_range
  simp only [block] at readYear readMonth readDay readHour readMinute readSecond
  simp only [isoformat, block, List.cons_append, List.nil_append, fromisoformat,
    readYear, readMonth, readDay, readHour, readMinute, readSecond, readRest,
    Option.bind_eq_bind, Option.bind_some]
  rw [ofFields, dif_pos ⟨moment.year_range, moment.month_range,
    moment.day_range, moment.hour_range, moment.minute_range,
    moment.second_range, moment.microsecond_range⟩]

theorem isoformat_injective : Function.Injective isoformat := by
  intro first second sameText
  have read := fromisoformat_isoformat first
  rw [sameText, fromisoformat_isoformat] at read
  exact (Option.some.inj read).symm

/-- The text without microseconds comes before every text with some: a plus sign
comes before a point. -/
theorem fraction_lt_fraction_iff {first second : Nat} (inRange : first < 1000000)
    (otherInRange : second < 1000000) : fraction first < fraction second ↔ first < second := by
  unfold fraction
  split_ifs with isZero otherIsZero otherIsZero
  · simp [isZero, otherIsZero]
  · rw [List.cons_lt_cons_iff, isZero]
    have isPositive : 0 < second := Nat.pos_of_ne_zero otherIsZero
    simp [isPositive]
  · rw [List.cons_lt_cons_iff, otherIsZero]
    simp
  · rw [List.cons_lt_cons_iff, append_lt_append_iff (by simp),
      block_lt_block_iff inRange otherInRange]
    simp

theorem block_append_lt_iff {width number other : Nat} (fits : number < 10 ^ width)
    (otherFits : other < 10 ^ width) (sameOrder : rest < otherRest ↔ values < otherValues) :
    block width number ++ rest < block width other ++ otherRest ↔
      number :: values < other :: otherValues := by
  rw [append_lt_append_iff (by simp), List.cons_lt_cons_iff,
    block_lt_block_iff fits otherFits, block_inj fits otherFits, sameOrder]

theorem cons_lt_cons_same {symbol : Char} (sameOrder : rest < otherRest ↔ values < otherValues) :
    symbol :: rest < symbol :: otherRest ↔ values < otherValues := by
  simp [sameOrder]

/-- The order of the texts is the order of the moments. -/
theorem isoformat_lt_isoformat (first second : DateTime) :
    first.isoformat < second.isoformat ↔ first < second := by
  have dayFits : ∀ moment : DateTime, moment.day < 10 ^ 2 := fun moment =>
    Nat.lt_of_le_of_lt (moment.day_range.2.trans (daysInMonth_le _ _)) (by decide)
  rw [lt_iff_fields]
  unfold isoformat fields
  refine block_append_lt_iff (Nat.lt_of_le_of_lt first.year_range.2 (by decide))
    (Nat.lt_of_le_of_lt second.year_range.2 (by decide))
    (cons_lt_cons_same (block_append_lt_iff (Nat.lt_of_le_of_lt first.month_range.2 (by decide))
      (Nat.lt_of_le_of_lt second.month_range.2 (by decide))
      (cons_lt_cons_same (block_append_lt_iff (dayFits first) (dayFits second)
      (cons_lt_cons_same (block_append_lt_iff (first.hour_range.trans (by decide))
        (second.hour_range.trans (by decide))
      (cons_lt_cons_same (block_append_lt_iff (first.minute_range.trans (by decide))
        (second.minute_range.trans (by decide))
      (cons_lt_cons_same (block_append_lt_iff (first.second_range.trans (by decide))
        (second.second_range.trans (by decide)) ?_))))))))))
  rw [fraction_lt_fraction_iff first.microsecond_range second.microsecond_range]
  simp [List.cons_lt_cons_iff]

end DateTime
end UrbanFlow.Tokens
