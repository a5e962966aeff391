import Mathlib.Tactic.Common
import Mathlib.Data.Nat.Defs
import Mathlib.Algebra.Group.Nat.Basic

/-! # Machine integers, checked arithmetic and errors

The program computes in `u64` and `u128` with `checked_*` and `unwrap`. A value is a natural
number here, and each checked operation is given the width it runs at. An instruction runs in
`Result`: an error aborts the transaction, and the runtime then rolls every account back.
-/

namespace LuxorSwap

/-! ## Constants -/

def precision : Nat := 1000000000

def feeRateDenominatorValue : Nat := 1000000

theorem precision_pos : 0 < precision := by decide

theorem feeRateDenominatorValue_pos : 0 < feeRateDenominatorValue := by decide

/-! ## Checked arithmetic

`checked_add` and `checked_mul` fail past `2 ^ w`, `checked_sub` below zero, `checked_div` and
`checked_rem` on a zero divisor. -/

def checkedAdd (w a b : Nat) : Option Nat := if a + b < 2 ^ w then some (a + b) else none

def checkedSub (a b : Nat) : Option Nat := if b ≤ a then some (a - b) else none

def checkedMul (w a b : Nat) : Option Nat := if a * b < 2 ^ w then some (a * b) else none

def checkedDiv (a b : Nat) : Option Nat := if b = 0 then none else some (a / b)

def checkedRem (a b : Nat) : Option Nat := if b = 0 then none else some (a % b)

/-- Modelled from the spec: `utils::CheckedCeilDiv` is not in the repository; the spec gives
`swap_base_output_without_fees` as the quotient rounded up, failing on a zero divisor. -/
def checkedCeilDiv (a b : Nat) : Option Nat := if b = 0 then none else some ((a + b - 1) / b)

def u64TryFrom (a : Nat) : Option Nat := if a < 2 ^ 64 then some a else none

/-- `x as u64` of a `u128`: the low 64 bits, with no check. -/
def asU64 (a : Nat) : Nat := a % 2 ^ 64

@[simp] theorem checkedAdd_eq_some {w a b c : Nat} :
    checkedAdd w a b = some c ↔ a + b < 2 ^ w ∧ a + b = c := by
  unfold checkedAdd; split <;> simp_all

@[simp] theorem checkedSub_eq_some {a b c : Nat} : checkedSub a b = some c ↔ b ≤ a ∧ a - b = c := by
  unfold checkedSub; split <;> simp_all

@[simp] theorem checkedMul_eq_some {w a b c : Nat} :
    checkedMul w a b = some c ↔ a * b < 2 ^ w ∧ a * b = c := by
  unfold checkedMul; split <;> simp_all

@[simp] theorem checkedDiv_eq_some {a b c : Nat} : checkedDiv a b = some c ↔ 0 < b ∧ a / b = c := by
  unfold checkedDiv; split <;> simp_all [Nat.pos_iff_ne_zero]

@[simp] theorem checkedRem_eq_some {a b c : Nat} : checkedRem a b = some c ↔ 0 < b ∧ a % b = c := by
  unfold checkedRem; split <;> simp_all [Nat.pos_iff_ne_zero]

@[simp] theorem checkedCeilDiv_eq_some {a b c : Nat} :
    checkedCeilDiv a b = some c ↔ 0 < b ∧ (a + b - 1) / b = c := by
  unfold checkedCeilDiv; split <;> simp_all [Nat.pos_iff_ne_zero]

@[simp] theorem u64TryFrom_eq_some {a c : Nat} : u64TryFrom a = some c ↔ a < 2 ^ 64 ∧ a = c := by
  unfold u64TryFrom; split <;> simp_all

theorem asU64_of_lt {a : Nat} (h : a < 2 ^ 64) : asU64 a = a := Nat.mod_eq_of_lt h

/-! ## Errors -/

/-- The variants of `error::ErrorCode` that the modelled instructions raise. -/
inductive ErrorCode where
  | invalidOwner
  | zeroTradingTokens
  | insufficientRent
  | noRewardsToClaim
  | missingRemainingAccount
  | invalidParam
  | purchaseDisabled
  | buybackAlreadyRequested
  | noBuybackRequested
  | invalidStakePdaOwner
  deriving DecidableEq, Repr

/-- Anchor's own errors: the `require_*!` macros and an account that was never created. -/
inductive AnchorError where
  | requireGtViolated
  | requireEqViolated
  | requireGteViolated
  | requireKeysNeqViolated
  | accountNotInitialized
  deriving DecidableEq, Repr

inductive Error where
  | program (e : ErrorCode)
  | anchor (e : AnchorError)
  /-- `unwrap()` on `None`, or an arithmetic overflow the runtime traps. -/
  | panic
  /-- A cross-program invocation (system, stake, token or market program) was refused. -/
  | cpi
  deriving DecidableEq, Repr

abbrev Result := Except Error

/-! ## `unwrap`, `ok_or` and `require!` -/

def unwrap {α : Type} : Option α → Result α
  | some a => .ok a
  | none => .error .panic

def okOr {α : Type} (o : Option α) (e : Error) : Result α :=
  match o with
  | some a => .ok a
  | none => .error e

def require (c : Prop) [Decidable c] (e : Error) : Result Unit :=
  if c then .ok () else .error e

@[simp] theorem unwrap_eq_ok {α : Type} {o : Option α} {a : α} : unwrap o = .ok a ↔ o = some a := by
  cases o <;> simp [unwrap]

@[simp] theorem okOr_eq_ok {α : Type} {o : Option α} {e : Error} {a : α} :
    okOr o e = .ok a ↔ o = some a := by
  cases o <;> simp [okOr]

@[simp] theorem require_eq_ok {c : Prop} [Decidable c] {e : Error} {u : Unit} :
    require c e = .ok u ↔ c := by
  unfold require; split <;> simp_all

@[simp] theorem bind_eq_ok {α β : Type} {x : Result α} {f : α → Result β} {b : β} :
    x >>= f = .ok b ↔ ∃ a, x = .ok a ∧ f a = .ok b := by
  cases x <;> simp [bind, Except.bind]

@[simp] theorem pure_eq_ok {α : Type} {a b : α} : (pure a : Result α) = .ok b ↔ a = b := by
  simp [pure, Except.pure]

/-! The failures of each step, for reading off which error a whole instruction raises. -/

@[simp] theorem bind_eq_error {α β : Type} {x : Result α} {f : α → Result β} {e : Error} :
    x >>= f = .error e ↔ x = .error e ∨ ∃ a, x = .ok a ∧ f a = .error e := by
  cases x <;> simp [bind, Except.bind]

@[simp] theorem unwrap_eq_error {α : Type} {o : Option α} {e : Error} :
    unwrap o = .error e ↔ o = none ∧ e = .panic := by
  cases o <;> simp [unwrap, eq_comm]

@[simp] theorem okOr_eq_error {α : Type} {o : Option α} {e' e : Error} :
    okOr o e' = .error e ↔ o = none ∧ e = e' := by
  cases o <;> simp [okOr, eq_comm]

@[simp] theorem require_eq_error {c : Prop} [Decidable c] {e' e : Error} :
    require c e' = .error e ↔ ¬c ∧ e = e' := by
  unfold require; split <;> simp_all [eq_comm]

@[simp] theorem pure_ne_error {α : Type} {a : α} {e : Error} : (pure a : Result α) ≠ .error e := by
  simp [pure, Except.pure]

/-- Every error `r` raises satisfies `P`. -/
def RaisesOnly {α : Type} (P : Error → Prop) (r : Result α) : Prop := ∀ e, r = .error e → P e

section RaisesOnly
variable {α β : Type} {P : Error → Prop}

theorem RaisesOnly.bind {x : Result α} {f : α → Result β} (hx : RaisesOnly P x)
    (hf : ∀ a, x = .ok a → RaisesOnly P (f a)) : RaisesOnly P (x >>= f) := by
  intro e h
  rcases bind_eq_error.1 h with h | ⟨a, ha, h⟩
  · exact hx e h
  · exact hf a ha e h

theorem RaisesOnly.pure {a : α} : RaisesOnly P (pure a) := fun _ h => absurd h pure_ne_error

theorem RaisesOnly.unwrap {o : Option α} (h : P .panic) : RaisesOnly P (LuxorSwap.unwrap o) :=
  fun _ he => (unwrap_eq_error.1 he).2 ▸ h

theorem RaisesOnly.okOr {o : Option α} {e' : Error} (h : P e') : RaisesOnly P (LuxorSwap.okOr o e') :=
  fun _ he => (okOr_eq_error.1 he).2 ▸ h

theorem RaisesOnly.require {c : Prop} [Decidable c] {e' : Error} (h : c ∨ P e') :
    RaisesOnly P (LuxorSwap.require c e') := fun _ he => by
  obtain ⟨hc, rfl⟩ := require_eq_error.1 he
  exact h.resolve_left hc

theorem RaisesOnly.mono {Q : Error → Prop} {r : Result α} (h : RaisesOnly P r)
    (hPQ : ∀ e, P e → Q e) : RaisesOnly Q r := fun e he => hPQ e (h e he)

end RaisesOnly

end LuxorSwap
