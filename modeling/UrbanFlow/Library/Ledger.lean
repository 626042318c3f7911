import Mathlib.Algebra.BigOperators.Group.Finset.Piecewise
import Mathlib.Algebra.Order.BigOperators.Group.Finset

/-!
# Ledgers

What each account has been charged and refunded on each day. The balance of a
day is the charges of that day without its refunds, over all accounts. While no
account is refunded more on a day than it was charged on it, the balance of the
day covers the next such refund too.
-/

structure Ledger (Account Day Amount : Type*) where
  charged : Account → Day → Amount
  refunded : Account → Day → Amount

namespace Ledger

variable {Account Day Amount : Type*} [AddCommGroup Amount]

/-- The ledger without entries. -/
def empty : Ledger Account Day Amount where
  charged := fun _ _ => 0
  refunded := fun _ _ => 0

section

variable (ledger : Ledger Account Day Amount)

/-- What an account has been charged on a day and not been refunded. -/
def net (account : Account) (day : Day) : Amount :=
  ledger.charged account day - ledger.refunded account day

/-- The charges of a day without its refunds, over some accounts. -/
def balance (accounts : Finset Account) (day : Day) : Amount :=
  ∑ account ∈ accounts, ledger.net account day

theorem balance_of_subset {accounts more : Finset Account} (isSubset : accounts ⊆ more)
    {day : Day} (untouched : ∀ account ∉ accounts, ledger.net account day = 0) :
    ledger.balance more day = ledger.balance accounts day :=
  (Finset.sum_subset isSubset fun account _ notIn => untouched account notIn).symm

end

variable [DecidableEq Account] [DecidableEq Day]

section

variable (ledger : Ledger Account Day Amount) (account : Account) (day : Day) (amount : Amount)

def charge : Ledger Account Day Amount :=
  { ledger with
    charged := fun other held =>
      ledger.charged other held + if other = account ∧ held = day then amount else 0 }

def refund : Ledger Account Day Amount :=
  { ledger with
    refunded := fun other held =>
      ledger.refunded other held + if other = account ∧ held = day then amount else 0 }

end

section

variable (ledger : Ledger Account Day Amount) (account other : Account) (day held : Day)
  (amount : Amount)

theorem net_charge : (ledger.charge account day amount).net other held = ledger.net other held +
        if other = account ∧ held = day then amount else 0 := by
  exact add_sub_right_comm _ _ _

theorem net_refund : (ledger.refund account day amount).net other held = ledger.net other held -
        if other = account ∧ held = day then amount else 0 := by
  exact sub_add_eq_sub_sub _ _ _

end

theorem sum_ite_entry {accounts : Finset Account} {account : Account}
    (isAccount : account ∈ accounts) (day held : Day) (amount : Amount) :
    (∑ other ∈ accounts, if other = account ∧ held = day then amount else 0) =
      if held = day then amount else 0 := by
  by_cases isDay : held = day
  · simp [isDay, isAccount]
  · simp [isDay]

section

variable (ledger : Ledger Account Day Amount) {accounts : Finset Account} {account : Account}
  (isAccount : account ∈ accounts) (day held : Day) (amount : Amount)

include isAccount

theorem balance_charge : (ledger.charge account day amount).balance accounts held =
      ledger.balance accounts held + if held = day then amount else 0 := by
  simp only [balance, net_charge, Finset.sum_add_distrib]
  rw [sum_ite_entry isAccount]

theorem balance_refund : (ledger.refund account day amount).balance accounts held =
      ledger.balance accounts held - if held = day then amount else 0 := by
  simp only [balance, net_refund, Finset.sum_sub_distrib]
  rw [sum_ite_entry isAccount]

end

section Covered

variable [LinearOrder Amount] [IsOrderedAddMonoid Amount]

/-- No account has been refunded more on a day than it was charged on it. -/
def Covered (ledger : Ledger Account Day Amount) : Prop :=
  ∀ account day, ledger.refunded account day ≤ ledger.charged account day

variable {ledger : Ledger Account Day Amount}

omit [DecidableEq Account] [DecidableEq Day] [IsOrderedAddMonoid Amount] in
theorem covered_empty : Covered (empty : Ledger Account Day Amount) := fun _ _ => le_rfl

variable (covered : ledger.Covered)

include covered

omit [DecidableEq Account] [DecidableEq Day] in
theorem Covered.net_nonneg (account : Account) (day : Day) :
    0 ≤ ledger.net account day :=
  sub_nonneg.mpr (covered account day)

theorem Covered.charge (account : Account) (day : Day)
    {amount : Amount} (nonneg : 0 ≤ amount) : (ledger.charge account day amount).Covered := by
  intro other held
  have wasCovered := covered other held
  dsimp only [Ledger.charge]
  split
  · exact le_add_of_le_of_nonneg wasCovered nonneg
  · simpa using wasCovered

theorem Covered.refund {account : Account} {day : Day}
    {amount : Amount} (within : amount ≤ ledger.net account day) :
    (ledger.refund account day amount).Covered := by
  intro other held
  have wasCovered := covered other held
  dsimp only [Ledger.refund]
  split
  · next same =>
      obtain ⟨rfl, rfl⟩ := same
      exact le_sub_iff_add_le'.mp within
  · simpa using wasCovered

omit [DecidableEq Account] [DecidableEq Day] in
theorem Covered.net_le_balance {accounts : Finset Account}
    {account : Account} (isAccount : account ∈ accounts) (day : Day) :
    ledger.net account day ≤ ledger.balance accounts day :=
  Finset.single_le_sum (fun other _ => covered.net_nonneg other day) isAccount

end Covered

end Ledger
