import LuxorSwap.Basic

/-! # The constant-product calculator

`curve::constant_product` of the program and the `CurveCalculator` it prices with (the copy in
`programs/luxor-stake/src/curve/calculator.rs`). The fee arithmetic of `curve::fees` is not in
the repository, so the calculator takes it as an argument, and `specFees` models it from the spec.
-/

namespace LuxorSwap

/-! ## Overflow-trapping `+` and `-`

A plain `+` or `-` on an integer traps on overflow in the program's release profile. -/

def addOrPanic (w a b : Nat) : Result Nat := unwrap (checkedAdd w a b)

def subOrPanic (a b : Nat) : Result Nat := unwrap (checkedSub a b)

@[simp] theorem addOrPanic_eq_ok {w a b c : Nat} :
    addOrPanic w a b = .ok c ↔ a + b < 2 ^ w ∧ a + b = c := by
  simp [addOrPanic]

@[simp] theorem subOrPanic_eq_ok {a b c : Nat} : subOrPanic a b = .ok c ↔ b ≤ a ∧ a - b = c := by
  simp [subOrPanic]

/-! ## Fees -/

/-- The functions of `curve::fees::Fees` the calculator calls, each `None` on failure. -/
structure Fees where
  tradingFee : Nat → Nat → Option Nat
  protocolFee : Nat → Nat → Option Nat
  fundFee : Nat → Nat → Option Nat
  creatorFee : Nat → Nat → Option Nat
  calculatePreFeeAmount : Nat → Nat → Option Nat
  splitCreatorFee : Nat → Nat → Nat → Option Nat

/-- Modelled from the spec: a fee is the amount times the rate over `feeRateDenominatorValue`,
rounded down (the spec does not give the rounding), and `None` on overflow. -/
def feeOf (amount rate : Nat) : Option Nat := do
  let n ← checkedMul 128 amount rate
  checkedDiv n feeRateDenominatorValue

/-- Modelled from the spec: the pre-fee amount is recovered by ceiling division,
`post * D / (D - rate)` rounded up, and a zero rate changes nothing. -/
def preFeeAmount (post rate : Nat) : Option Nat :=
  if rate = 0 then some post
  else do
    let n ← checkedMul 128 post feeRateDenominatorValue
    let d ← checkedSub feeRateDenominatorValue rate
    checkedCeilDiv n d

/-- Modelled from the spec: the creator's part of a combined fee, proportional to the rates. -/
def creatorPart (total tradeRate creatorRate : Nat) : Option Nat := do
  let n ← checkedMul 128 total creatorRate
  checkedDiv n (tradeRate + creatorRate)

/-- Modelled from the spec (`curve::fees` is not in the repository). -/
def specFees : Fees where
  tradingFee := feeOf
  protocolFee := feeOf
  fundFee := feeOf
  creatorFee := feeOf
  calculatePreFeeAmount := preFeeAmount
  splitCreatorFee := creatorPart

/-! ## `ConstantProductCurve` -/

def swapBaseInputWithoutFees (inputAmount inputVaultAmount outputVaultAmount : Nat) :
    Result Nat := do
  let numerator ← unwrap (checkedMul 128 inputAmount outputVaultAmount)
  let denominator ← unwrap (checkedAdd 128 inputVaultAmount inputAmount)
  unwrap (checkedDiv numerator denominator)

def swapBaseOutputWithoutFees (outputAmount inputVaultAmount outputVaultAmount : Nat) :
    Result Nat := do
  let numerator ← unwrap (checkedMul 128 inputVaultAmount outputAmount)
  let denominator ← unwrap (checkedSub outputVaultAmount outputAmount)
  unwrap (checkedCeilDiv numerator denominator)

inductive RoundDirection where
  | floor
  | ceiling
  deriving DecidableEq, Repr

structure TradingTokenResult where
  token0Amount : Nat
  token1Amount : Nat
  deriving DecidableEq, Repr

/-- The ceiling step of `lp_tokens_to_trading_tokens`: one more only when the division left a
remainder and the floor is not zero, so dust shares stay at zero. The `+= 1` cannot overflow:
a positive remainder needs a divisor of at least 2, which halves the quotient. -/
def roundUpNonzero (amount remainder : Nat) : Nat :=
  if 0 < remainder ∧ 0 < amount then amount + 1 else amount

/-- `lp_tokens_to_trading_tokens`: each vault's share of `lpTokenAmount` out of `lpTokenSupply`. -/
def lpTokensToTradingTokens (lpTokenAmount lpTokenSupply token0VaultAmount token1VaultAmount : Nat)
    (roundDirection : RoundDirection) : Option TradingTokenResult := do
  let token0Amount ← checkedDiv (← checkedMul 128 lpTokenAmount token0VaultAmount) lpTokenSupply
  let token1Amount ← checkedDiv (← checkedMul 128 lpTokenAmount token1VaultAmount) lpTokenSupply
  match roundDirection with
  | .floor => pure ⟨token0Amount, token1Amount⟩
  | .ceiling => do
    let token0Remainder ←
      checkedRem (← checkedMul 128 lpTokenAmount token0VaultAmount) lpTokenSupply
    let token1Remainder ←
      checkedRem (← checkedMul 128 lpTokenAmount token1VaultAmount) lpTokenSupply
    pure ⟨roundUpNonzero token0Amount token0Remainder, roundUpNonzero token1Amount token1Remainder⟩

theorem roundUpNonzero_bounds {n d : Nat} (hd : 0 < d) :
    (n < d ∧ roundUpNonzero (n / d) (n % d) = 0) ∨
      (d ≤ n ∧ n ≤ roundUpNonzero (n / d) (n % d) * d ∧
        roundUpNonzero (n / d) (n % d) * d < n + d) := by
  have hdiv := Nat.div_add_mod n d
  have hmod := Nat.mod_lt n hd
  rcases Nat.lt_or_ge n d with hlt | hge
  · exact .inl ⟨hlt, by simp only [roundUpNonzero, Nat.div_eq_of_lt hlt, Nat.lt_irrefl,
      and_false, if_false]⟩
  · have hq : 0 < n / d := Nat.div_pos hge hd
    refine .inr ⟨hge, ?_⟩
    unfold roundUpNonzero
    split_ifs with h
    · constructor <;> rw [Nat.add_mul, Nat.one_mul, Nat.mul_comm] <;> omega
    · have hr : n % d = 0 := by omega
      constructor <;> rw [Nat.mul_comm] <;> omega

theorem lpTokensToTradingTokens_eq_some {lp supply v0 v1 : Nat} {dir : RoundDirection}
    {r : TradingTokenResult} (h : lpTokensToTradingTokens lp supply v0 v1 dir = some r) :
    0 < supply ∧ lp * v0 < 2 ^ 128 ∧ lp * v1 < 2 ^ 128 ∧
      (dir = .floor → r = ⟨lp * v0 / supply, lp * v1 / supply⟩) ∧
      (dir = .ceiling → r = ⟨roundUpNonzero (lp * v0 / supply) (lp * v0 % supply),
        roundUpNonzero (lp * v1 / supply) (lp * v1 % supply)⟩) := by
  simp only [lpTokensToTradingTokens, Option.bind_eq_bind, Option.bind_eq_some,
    checkedMul_eq_some, checkedDiv_eq_some, checkedRem_eq_some] at h
  obtain ⟨_, ⟨h0, rfl⟩, _, ⟨hs, rfl⟩, _, ⟨h1, rfl⟩, _, ⟨-, rfl⟩, h⟩ := h
  cases dir with
  | floor => exact ⟨hs, h0, h1, fun _ => (Option.some.inj h).symm, nofun⟩
  | ceiling =>
    simp only [Option.bind_eq_bind, Option.bind_eq_some, checkedMul_eq_some,
      checkedRem_eq_some] at h
    obtain ⟨_, ⟨-, rfl⟩, _, ⟨-, rfl⟩, _, ⟨-, rfl⟩, _, ⟨-, rfl⟩, h⟩ := h
    exact ⟨hs, h0, h1, nofun, fun _ => (Option.some.inj h).symm⟩

/-- `amount` is `n / d` rounded the way `dir` asks; rounding up keeps a share below one unit at
zero. -/
def ShareRounded (dir : RoundDirection) (amount n d : Nat) : Prop :=
  match dir with
  | .floor => amount * d ≤ n ∧ n < amount * d + d
  | .ceiling => (n < d ∧ amount = 0) ∨ (d ≤ n ∧ n ≤ amount * d ∧ amount * d < n + d)

/-- Every successful conversion rounds each vault's exact share `lp * vault / supply` the way it
was asked: down, or up unless the share is below one unit. -/
theorem lpTokensToTradingTokens_rounding {lp supply v0 v1 : Nat} {dir : RoundDirection}
    {r : TradingTokenResult} (h : lpTokensToTradingTokens lp supply v0 v1 dir = some r) :
    ShareRounded dir r.token0Amount (lp * v0) supply ∧
      ShareRounded dir r.token1Amount (lp * v1) supply := by
  obtain ⟨hs, -, -, hf, hc⟩ := lpTokensToTradingTokens_eq_some h
  cases dir with
  | floor =>
    rw [hf rfl]
    exact ⟨⟨Nat.div_mul_le_self _ _, Nat.lt_div_mul_add hs⟩,
      ⟨Nat.div_mul_le_self _ _, Nat.lt_div_mul_add hs⟩⟩
  | ceiling =>
    rw [hc rfl]
    exact ⟨roundUpNonzero_bounds hs, roundUpNonzero_bounds hs⟩

theorem lpTokensToTradingTokens_rounding_dust :
    lpTokensToTradingTokens 3 10 7 2 .ceiling = some ⟨3, 0⟩ ∧
    ShareRounded .ceiling 3 (3 * 7) 10 ∧ ShareRounded .ceiling 0 (3 * 2) 10 :=
  ⟨rfl, lpTokensToTradingTokens_rounding (rfl : lpTokensToTradingTokens 3 10 7 2 .ceiling = _)⟩

/-! ## `CurveCalculator` -/

structure SwapResult where
  newInputVaultAmount : Nat
  newOutputVaultAmount : Nat
  inputAmount : Nat
  outputAmount : Nat
  tradeFee : Nat
  protocolFee : Nat
  fundFee : Nat
  creatorFee : Nat
  deriving DecidableEq, Repr

/-- `swap_base_input`: the outer `Result` is a panic, the inner `Option` the `None` of `?`. -/
def swapBaseInput (fees : Fees) (inputAmount inputVaultAmount outputVaultAmount tradeFeeRate
    creatorFeeRate protocolFeeRate fundFeeRate : Nat) (isCreatorFeeOnInput : Bool) :
    Result (Option SwapResult) := do
  let some tradeFee := fees.tradingFee inputAmount tradeFeeRate | pure none
  let some (creatorFee, inputAmountLessFees) :=
    (if isCreatorFeeOnInput then do
        let creatorFee ← fees.creatorFee inputAmount creatorFeeRate
        let afterTrade ← checkedSub inputAmount tradeFee
        let less ← checkedSub afterTrade creatorFee
        pure (creatorFee, less)
      else do
        let less ← checkedSub inputAmount tradeFee
        pure (0, less) : Option (Nat × Nat)) | pure none
  let some protocolFee := fees.protocolFee tradeFee protocolFeeRate | pure none
  let some fundFee := fees.fundFee tradeFee fundFeeRate | pure none
  let outputAmountSwapped ←
    swapBaseInputWithoutFees inputAmountLessFees inputVaultAmount outputVaultAmount
  let some (creatorFee, outputAmount) :=
    (if isCreatorFeeOnInput then some (creatorFee, outputAmountSwapped)
      else do
        let creatorFee ← fees.creatorFee outputAmountSwapped creatorFeeRate
        let out ← checkedSub outputAmountSwapped creatorFee
        pure (creatorFee, out)) | pure none
  let some newInputVaultAmount := checkedAdd 128 inputVaultAmount inputAmountLessFees | pure none
  let some newOutputVaultAmount := checkedSub outputVaultAmount outputAmountSwapped | pure none
  pure (some ⟨newInputVaultAmount, newOutputVaultAmount, inputAmount, outputAmount, tradeFee,
    protocolFee, fundFee, creatorFee⟩)

/-- `swap_base_output`: the outer `Result` is a panic, the inner `Option` the `None` of `?`. -/
def swapBaseOutput (fees : Fees) (outputAmount inputVaultAmount outputVaultAmount tradeFeeRate
    creatorFeeRate protocolFeeRate fundFeeRate : Nat) (isCreatorFeeOnInput : Bool) :
    Result (Option SwapResult) := do
  let some (creatorFee, actualOutputAmount) ←
    (if isCreatorFeeOnInput then pure (some (0, outputAmount))
      else match fees.calculatePreFeeAmount outputAmount creatorFeeRate with
        | none => pure none
        | some withCreatorFee => do
          let creatorFee ← subOrPanic withCreatorFee outputAmount
          pure (some (creatorFee, withCreatorFee)) : Result (Option (Nat × Nat))) | pure none
  let inputAmountSwapped ←
    swapBaseOutputWithoutFees actualOutputAmount inputVaultAmount outputVaultAmount
  let some (creatorFee, tradeFee, inputAmount) ←
    (if isCreatorFeeOnInput then do
        let rate ← addOrPanic 64 tradeFeeRate creatorFeeRate
        let withFee ← unwrap (fees.calculatePreFeeAmount inputAmountSwapped rate)
        let totalFee ← subOrPanic withFee inputAmountSwapped
        match fees.splitCreatorFee totalFee tradeFeeRate creatorFeeRate with
        | none => pure none
        | some creatorFee => do
          let tradeFee ← subOrPanic totalFee creatorFee
          pure (some (creatorFee, tradeFee, withFee))
      else do
        let withFee ← unwrap (fees.calculatePreFeeAmount inputAmountSwapped tradeFeeRate)
        let tradeFee ← subOrPanic withFee inputAmountSwapped
        pure (some (creatorFee, tradeFee, withFee)) : Result (Option (Nat × Nat × Nat))) | pure none
  let some protocolFee := fees.protocolFee tradeFee protocolFeeRate | pure none
  let some fundFee := fees.fundFee tradeFee fundFeeRate | pure none
  let some newInputVaultAmount := checkedAdd 128 inputVaultAmount inputAmountSwapped | pure none
  let some newOutputVaultAmount := checkedSub outputVaultAmount actualOutputAmount | pure none
  pure (some ⟨newInputVaultAmount, newOutputVaultAmount, inputAmount, outputAmount, tradeFee,
    protocolFee, fundFee, creatorFee⟩)

end LuxorSwap
