import LuxorSwap.Instructions.Purchase

/-! # `buyback`

Two phases, chosen by `buyback_requested`. A request realises the SOL rewards, splits the unspent
budget `total_sol_rewards_accrued - total_sol_used_for_buyback` off the stake account into a
fresh split account and starts its deactivation. The settlement withdraws the split account,
keeps a treasury fee, sells the rest for LXR on the market and credits the LXR index.
-/

namespace LuxorSwap

/-- The request branch. Creating the split account fails if its address already holds
lamports; the stake program's split moves a positive amount the stake account holds. Its
minimum-delegation rules are not checked, so the model accepts some requests the program refuses. -/
def requestBuyback (env : Env) (now : Nat) (s : ProgramState) : Result ProgramState := do
  require (s.stakeInfo.buybackRequested = false) (.program .buybackAlreadyRequested)
  require (0 < env.minRent) (.program .insufficientRent)
  require (s.stakeSplitPda = 0) .cpi
  let stakeInfo ← accrueSolRewards s.stakeInfo s.stakePda
  let rewardAvailableToBuyback ←
    unwrap (checkedSub stakeInfo.totalSolRewardsAccrued stakeInfo.totalSolUsedForBuyback)
  require (0 < rewardAvailableToBuyback ∧ rewardAvailableToBuyback ≤ s.stakePda) .cpi
  let stakePda := s.stakePda - rewardAvailableToBuyback
  pure { s with
    stakeInfo := { stakeInfo with lastTrackedSolBalance := stakePda, buybackRequested := true,
                                  lastUpdateTimestamp := now },
    stakePda := stakePda,
    stakeSplitPda := env.minRent + rewardAvailableToBuyback }

/-- The settlement branch. The market trade itself is the pool program's; the LXR it returns
goes to the reward vault and the fee to the SOL treasury. -/
def settleBuyback (env : Env) (pool : PoolView) (now : Nat) (s : ProgramState) :
    Result ProgramState := do
  require (s.stakeInfo.buybackRequested = true) (.program .noBuybackRequested)
  require (0 < env.minRent) (.program .insufficientRent)
  let solWithdrawan ← unwrap (checkedSub s.stakeSplitPda env.minRent)
  let fee ← unwrap (checkedMul 128 solWithdrawan s.globalConfig.feeTreasuryRate)
  let fee ← unwrap (checkedDiv fee feeRateDenominatorValue)
  let feeTreasury := asU64 fee
  require (0 < feeTreasury) (.program .zeroTradingTokens)
  let actualAmountIn ← unwrap (checkedSub solWithdrawan feeTreasury)
  require (0 < actualAmountIn) (.anchor .requireGtViolated)
  let constantBefore ←
    unwrap (checkedMul 128 pool.totalInputTokenAmount pool.totalOutputTokenAmount)
  let result ← okOr (← swapBaseInput env.fees actualAmountIn pool.totalInputTokenAmount
    pool.totalOutputTokenAmount 2500 pool.creatorFeeRate 120000 40000 pool.isCreatorFeeOnInput)
    (.program .zeroTradingTokens)
  let constantAfter ←
    unwrap (checkedMul 128 result.newInputVaultAmount result.newOutputVaultAmount)
  let inputAmount ← unwrap (u64TryFrom result.inputAmount)
  require (inputAmount = actualAmountIn) (.anchor .requireEqViolated)
  require (constantBefore ≤ constantAfter) (.anchor .requireGteViolated)
  let lxrBought ← unwrap (u64TryFrom result.outputAmount)
  let si := s.stakeInfo
  let totalLuxorRewardsAccrued ← unwrap (checkedAdd 64 si.totalLuxorRewardsAccrued lxrBought)
  let totalSolUsedForBuyback ← unwrap (checkedAdd 64 si.totalSolUsedForBuyback actualAmountIn)
  let scaled ← unwrap (checkedMul 128 lxrBought precision)
  let perToken ← unwrap (checkedDiv scaled si.totalStakedSol)
  let rewardPerTokenLxrStored ← unwrap (checkedAdd 128 si.rewardPerTokenLxrStored perToken)
  let buybackCount ← unwrap (checkedAdd 64 si.buybackCount 1)
  pure { s with
    stakeInfo := { si with totalLuxorRewardsAccrued := totalLuxorRewardsAccrued,
                           totalSolUsedForBuyback := totalSolUsedForBuyback,
                           lastBuybackTimestamp := now,
                           rewardPerTokenLxrStored := rewardPerTokenLxrStored,
                           buybackRequested := false, buybackCount := buybackCount },
    stakeSplitPda := 0,
    luxorRewardVault := s.luxorRewardVault + lxrBought,
    solTreasuryVault := s.solTreasuryVault + feeTreasury }

/-- `buyback`: admin only, then the branch `buyback_requested` selects. -/
def buyback (env : Env) (signer : Pubkey) (pool : PoolView) (now : Nat) (s : ProgramState) :
    Result ProgramState := do
  require (isAdmin env s signer) (.program .invalidOwner)
  if s.stakeInfo.buybackRequested then settleBuyback env pool now s else requestBuyback env now s

theorem requestBuyback_ok {env : Env} {now : Nat} {s s' : ProgramState}
    (h : requestBuyback env now s = .ok s') :
    ∃ si, s.stakeInfo.buybackRequested = false ∧ 0 < env.minRent ∧ s.stakeSplitPda = 0 ∧
      accrueSolRewards s.stakeInfo s.stakePda = .ok si ∧
      si.totalSolUsedForBuyback < si.totalSolRewardsAccrued ∧
      si.totalSolRewardsAccrued - si.totalSolUsedForBuyback ≤ s.stakePda ∧
      s' = { s with
        stakeInfo := { si with
          lastTrackedSolBalance := s.stakePda - (si.totalSolRewardsAccrued - si.totalSolUsedForBuyback),
          buybackRequested := true, lastUpdateTimestamp := now },
        stakePda := s.stakePda - (si.totalSolRewardsAccrued - si.totalSolUsedForBuyback),
        stakeSplitPda := env.minRent + (si.totalSolRewardsAccrued - si.totalSolUsedForBuyback) } := by
  simp only [requestBuyback, bind_eq_ok, require_eq_ok, unwrap_eq_ok, checkedSub_eq_some,
    pure_eq_ok] at h
  obtain ⟨-, hreq, -, hrent, -, hsplit, si, hsi, _, ⟨hle, rfl⟩, -, ⟨hpos, hbud⟩, rfl⟩ := h
  exact ⟨si, hreq, hrent, hsplit, hsi, by omega, hbud, rfl⟩

theorem settleBuyback_ok {env : Env} {pool : PoolView} {now : Nat} {s s' : ProgramState}
    (h : settleBuyback env pool now s = .ok s') :
    ∃ fee r, let w := s.stakeSplitPda - env.minRent
      s.stakeInfo.buybackRequested = true ∧ 0 < env.minRent ∧ env.minRent ≤ s.stakeSplitPda ∧
      fee = asU64 (w * s.globalConfig.feeTreasuryRate / feeRateDenominatorValue) ∧
      0 < fee ∧ fee < w ∧
      swapBaseInput env.fees (w - fee) pool.totalInputTokenAmount pool.totalOutputTokenAmount 2500
        pool.creatorFeeRate 120000 40000 pool.isCreatorFeeOnInput = .ok (some r) ∧
      r.inputAmount = w - fee ∧ r.outputAmount < 2 ^ 64 ∧
      pool.totalInputTokenAmount * pool.totalOutputTokenAmount ≤
        r.newInputVaultAmount * r.newOutputVaultAmount ∧
      0 < s.stakeInfo.totalStakedSol ∧
      s' = { s with
        stakeInfo := { s.stakeInfo with
          totalLuxorRewardsAccrued := s.stakeInfo.totalLuxorRewardsAccrued + r.outputAmount,
          totalSolUsedForBuyback := s.stakeInfo.totalSolUsedForBuyback + (w - fee),
          lastBuybackTimestamp := now,
          rewardPerTokenLxrStored := s.stakeInfo.rewardPerTokenLxrStored +
            r.outputAmount * precision / s.stakeInfo.totalStakedSol,
          buybackRequested := false, buybackCount := s.stakeInfo.buybackCount + 1 },
        stakeSplitPda := 0,
        luxorRewardVault := s.luxorRewardVault + r.outputAmount,
        solTreasuryVault := s.solTreasuryVault + fee } := by
  simp only [settleBuyback, bind_eq_ok, require_eq_ok, unwrap_eq_ok, checkedSub_eq_some,
    checkedMul_eq_some, checkedDiv_eq_some, checkedAdd_eq_some, u64TryFrom_eq_some, okOr_eq_ok,
    pure_eq_ok, and_assoc, exists_and_left, exists_eq_left', exists_const] at h
  obtain ⟨hreq, hrent, hsplit, -, -, hfee, hle, hin, -, o, ho, r, rfl, -, -, hinp, hk, hout, -, -,
    -, hT, -, -, rfl⟩ := h
  exact ⟨_, r, hreq, hrent, hsplit, rfl, hfee, by omega, ho, hinp, hout, hk, hT, rfl⟩

theorem buyback_ok {env : Env} {signer : Pubkey} {pool : PoolView} {now : Nat}
    {s s' : ProgramState} (h : buyback env signer pool now s = .ok s') :
    isAdmin env s signer ∧
      (s.stakeInfo.buybackRequested = true ∧ settleBuyback env pool now s = .ok s' ∨
       s.stakeInfo.buybackRequested = false ∧ requestBuyback env now s = .ok s') := by
  simp only [buyback, bind_eq_ok, require_eq_ok] at h
  obtain ⟨-, hadm, h⟩ := h
  refine ⟨hadm, ?_⟩
  cases hr : s.stakeInfo.buybackRequested <;> simp_all

end LuxorSwap
