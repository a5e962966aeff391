import LuxorSwap.State

/-! # `purchase` and `manual_purchase`

Both stake the SOL they are paid: they first realise the rewards the stake account earned since
it was last observed, then move the SOL in and resynchronise `last_tracked_sol_balance`.
`purchase` prices the LXR against the market pool; `manual_purchase` takes the admin's numbers.
-/

namespace LuxorSwap

/-! ## Realising SOL rewards -/

/-- The "Realize newly accrued SOL rewards" block of `purchase` (and of a buyback request). -/
def accrueSolRewards (si : StakeInfo) (lamports : Nat) : Result StakeInfo :=
  if si.lastTrackedSolBalance < lamports then do
    let rewardsAccured ← unwrap (checkedSub lamports si.lastTrackedSolBalance)
    let totalSolRewardsAccrued ← unwrap (checkedAdd 64 si.totalSolRewardsAccrued rewardsAccured)
    let scaled ← unwrap (checkedMul 128 rewardsAccured precision)
    let perToken ← unwrap (checkedDiv scaled si.totalStakedSol)
    let rewardPerTokenSolStored ← unwrap (checkedAdd 128 si.rewardPerTokenSolStored perToken)
    pure { si with totalSolRewardsAccrued := totalSolRewardsAccrued,
                   lastTrackedSolBalance := lamports,
                   rewardPerTokenSolStored := rewardPerTokenSolStored }
  else pure si

/-- `manual_purchase`'s copy of the block: it does not move `reward_per_token_sol_stored`. -/
def observeSolRewards (si : StakeInfo) (lamports : Nat) : Result StakeInfo :=
  if si.lastTrackedSolBalance < lamports then do
    let rewardsAccured ← unwrap (checkedSub lamports si.lastTrackedSolBalance)
    let totalSolRewardsAccrued ← unwrap (checkedAdd 64 si.totalSolRewardsAccrued rewardsAccured)
    pure { si with totalSolRewardsAccrued := totalSolRewardsAccrued,
                   lastTrackedSolBalance := lamports }
  else pure si

theorem accrueSolRewards_ok {si si' : StakeInfo} {lamports : Nat}
    (h : accrueSolRewards si lamports = .ok si') :
    ∃ r, si' = { si with
      totalSolRewardsAccrued := si.totalSolRewardsAccrued + (lamports - si.lastTrackedSolBalance),
      lastTrackedSolBalance := max lamports si.lastTrackedSolBalance,
      rewardPerTokenSolStored := r } ∧
    (si.lastTrackedSolBalance < lamports → 0 < si.totalStakedSol) := by
  unfold accrueSolRewards at h
  split at h
  next hlt =>
    simp only [bind_eq_ok, unwrap_eq_ok, checkedSub_eq_some, checkedAdd_eq_some,
      checkedMul_eq_some, checkedDiv_eq_some, pure_eq_ok] at h
    obtain ⟨_, ⟨-, rfl⟩, _, ⟨-, rfl⟩, _, ⟨-, rfl⟩, _, ⟨hpos, rfl⟩, _, ⟨-, rfl⟩, rfl⟩ := h
    exact ⟨_, by rw [Nat.max_eq_left (Nat.le_of_lt hlt)], fun _ => hpos⟩
  next hle =>
    cases h
    have hle := Nat.not_lt.1 hle
    exact ⟨si.rewardPerTokenSolStored, by simp [Nat.sub_eq_zero_of_le hle, Nat.max_eq_right hle],
      fun h => absurd h (Nat.not_lt.2 hle)⟩

theorem observeSolRewards_ok {si si' : StakeInfo} {lamports : Nat}
    (h : observeSolRewards si lamports = .ok si') :
    si' = { si with
      totalSolRewardsAccrued := si.totalSolRewardsAccrued + (lamports - si.lastTrackedSolBalance),
      lastTrackedSolBalance := max lamports si.lastTrackedSolBalance } := by
  unfold observeSolRewards at h
  split at h
  next hlt =>
    simp only [bind_eq_ok, unwrap_eq_ok, checkedSub_eq_some, checkedAdd_eq_some,
      pure_eq_ok] at h
    obtain ⟨_, ⟨-, rfl⟩, _, ⟨-, rfl⟩, rfl⟩ := h
    rw [Nat.max_eq_left (Nat.le_of_lt hlt)]
  next hle =>
    cases h
    have hle := Nat.not_lt.1 hle
    simp [Nat.sub_eq_zero_of_le hle, Nat.max_eq_right hle]

/-! ## Pricing -/

/-- The pricing half of `purchase`: the SOL the pool asks for `lxr_to_purchase` LXR, discounted by
`bonus_rate` while the stake count is within `max_stake_count_to_get_bonus`, and scaled by the
treasury's inventory against `initial_lxr_allocation_vault` after that. -/
def purchasePrice (fees : Fees) (pool : PoolView) (config : GlobalConfig)
    (totalStakeCount luxorVault lxrToPurchase : Nat) : Result Nat := do
  let constantBefore ←
    unwrap (checkedMul 128 pool.totalInputTokenAmount pool.totalOutputTokenAmount)
  let result ← okOr (← swapBaseOutput fees lxrToPurchase pool.totalInputTokenAmount
    pool.totalOutputTokenAmount 2500 pool.creatorFeeRate 120000 40000 pool.isCreatorFeeOnInput)
    (.program .zeroTradingTokens)
  let constantAfter ←
    unwrap (checkedMul 128 result.newInputVaultAmount result.newOutputVaultAmount)
  let outputAmount ← unwrap (u64TryFrom result.outputAmount)
  require (outputAmount = lxrToPurchase) (.anchor .requireEqViolated)
  require (constantBefore ≤ constantAfter) (.anchor .requireGteViolated)
  let totalSolNeeded ← unwrap (u64TryFrom result.inputAmount)
  let count ← addOrPanic 64 totalStakeCount 1
  if count ≤ config.maxStakeCountToGetBonus then do
    let bonus ← unwrap (checkedMul 64 totalSolNeeded config.bonusRate)
    let bonus ← unwrap (checkedDiv bonus feeRateDenominatorValue)
    unwrap (checkedSub totalSolNeeded bonus)
  else do
    let scaled ← unwrap (checkedMul 128 totalSolNeeded luxorVault)
    let scaled ← unwrap (checkedDiv scaled config.initialLxrAllocationVault)
    pure (asU64 scaled)

/-! ## Recording the stake -/

def StakeInfo.recordPurchase (si : StakeInfo) (totalSolNeeded lamports now : Nat) :
    Result StakeInfo := do
  let totalStakedSol ← unwrap (checkedAdd 64 si.totalStakedSol totalSolNeeded)
  let totalStakeCount ← unwrap (checkedAdd 64 si.totalStakeCount 1)
  pure { si with totalStakedSol := totalStakedSol, totalStakeCount := totalStakeCount,
                 lastTrackedSolBalance := lamports, lastUpdateTimestamp := now }

def StakeInfo.recordManualPurchase (si : StakeInfo) (solSpent lamports now : Nat) :
    Result StakeInfo := do
  let totalStakedSol ← unwrap (checkedAdd 64 si.totalStakedSol solSpent)
  pure { si with totalStakedSol := totalStakedSol, lastTrackedSolBalance := lamports,
                 lastUpdateTimestamp := now }

def UserStakeInfo.open (u : UserStakeInfo) (owner : Pubkey) (index : Nat) : UserStakeInfo :=
  { u with owner := owner, lxrRewardPerTokenCompleted := index }

def UserStakeInfo.recordPurchase (u : UserStakeInfo) (owner : Pubkey)
    (index totalSolNeeded lxrToPurchase : Nat) : Result UserStakeInfo := do
  let u := if u.owner = defaultPubkey then u.open owner index else u
  let totalStakedSol ← unwrap (checkedAdd 64 u.totalStakedSol totalSolNeeded)
  let baseLxrHoldings ← unwrap (checkedAdd 64 u.baseLxrHoldings lxrToPurchase)
  pure { u with totalStakedSol := totalStakedSol, baseLxrHoldings := baseLxrHoldings }

/-- `lxr_rewards_to_claim_user` of `manual_purchase`: stake times index delta, divided by
`PRECISION` once (redeem and blacklist divide twice), then `as u64`. -/
def manualLxrRewardsToClaim (staked delta : Nat) : Result Nat := do
  let m ← unwrap (checkedMul 128 staked delta)
  let q ← unwrap (checkedDiv m precision)
  pure (asU64 q)

def UserStakeInfo.recordManualPurchase (u : UserStakeInfo) (user : Pubkey)
    (index solSpent lxrPurchased : Nat) : Result UserStakeInfo := do
  let u ← if u.owner = defaultPubkey then pure (u.open user index) else do
    let delta ← unwrap (checkedSub index u.lxrRewardPerTokenCompleted)
    let earned ← manualLxrRewardsToClaim u.totalStakedSol delta
    let lxrRewardsPending ← unwrap (checkedAdd 64 u.lxrRewardsPending earned)
    pure { u with lxrRewardsPending := lxrRewardsPending, lxrRewardPerTokenCompleted := index }
  let totalStakedSol ← unwrap (checkedAdd 64 u.totalStakedSol solSpent)
  let baseLxrHoldings ← unwrap (checkedAdd 64 u.baseLxrHoldings lxrPurchased)
  pure { u with totalStakedSol := totalStakedSol, baseLxrHoldings := baseLxrHoldings }

/-! ## The instructions -/

/-- `purchase`: the account constraint on `purchase_enabled`, then the handler. The transfers of
SOL in and of LXR out are the system and token programs'. The delegation moves no lamports; the
stake program refuses it with `InsufficientDelegation` when nothing lies above the stake account's
rent-exempt reserve, the minimum delegation being one lamport. -/
def purchase (env : Env) (owner : Pubkey) (pool : PoolView) (lxrToPurchase maxSolAmount now : Nat)
    (s : ProgramState) : Result ProgramState := do
  require (s.globalConfig.purchaseEnabled = true) (.program .purchaseDisabled)
  require (0 < lxrToPurchase) (.anchor .requireGtViolated)
  let totalSolNeeded ← purchasePrice env.fees pool s.globalConfig s.stakeInfo.totalStakeCount
    s.luxorVault lxrToPurchase
  require (totalSolNeeded ≤ maxSolAmount) (.anchor .requireGteViolated)
  let stakeInfo ← accrueSolRewards s.stakeInfo s.stakePda
  let stakePda := s.stakePda + totalSolNeeded
  require (env.minRent < stakePda) .cpi
  let stakeInfo ← stakeInfo.recordPurchase totalSolNeeded stakePda now
  let user ← (s.userStakeInfo owner).recordPurchase owner stakeInfo.rewardPerTokenLxrStored
    totalSolNeeded lxrToPurchase
  let luxorVault ← okOr (checkedSub s.luxorVault lxrToPurchase) .cpi
  pure { s with stakeInfo := stakeInfo, userStakeInfo := Function.update s.userStakeInfo owner user,
                stakePda := stakePda, luxorVault := luxorVault }

/-- `manual_purchase`: admin only; no pricing, no token transfer. -/
def manualPurchase (env : Env) (signer user : Pubkey) (lxrPurchased solSpent now : Nat)
    (s : ProgramState) : Result ProgramState := do
  require (isAdmin env s signer) (.program .invalidOwner)
  let stakeInfo ← observeSolRewards s.stakeInfo s.stakePda
  let stakePda := s.stakePda + solSpent
  let stakeInfo ← stakeInfo.recordManualPurchase solSpent stakePda now
  let record ← (s.userStakeInfo user).recordManualPurchase user stakeInfo.rewardPerTokenLxrStored
    solSpent lxrPurchased
  pure { s with stakeInfo := stakeInfo, userStakeInfo := Function.update s.userStakeInfo user record,
                stakePda := stakePda }

/-! ## What a successful instruction did -/

section
variable {si si' : StakeInfo} {u u' : UserStakeInfo}

theorem StakeInfo.recordPurchase_ok {t lamports now : Nat}
    (h : si.recordPurchase t lamports now = .ok si') :
    si' = { si with totalStakedSol := si.totalStakedSol + t,
                    totalStakeCount := si.totalStakeCount + 1,
                    lastTrackedSolBalance := lamports, lastUpdateTimestamp := now } := by
  simp only [StakeInfo.recordPurchase, bind_eq_ok, unwrap_eq_ok, checkedAdd_eq_some,
    pure_eq_ok] at h
  obtain ⟨_, ⟨-, rfl⟩, _, ⟨-, rfl⟩, rfl⟩ := h
  rfl

theorem StakeInfo.recordManualPurchase_ok {t lamports now : Nat}
    (h : si.recordManualPurchase t lamports now = .ok si') :
    si' = { si with totalStakedSol := si.totalStakedSol + t,
                    lastTrackedSolBalance := lamports, lastUpdateTimestamp := now } := by
  simp only [StakeInfo.recordManualPurchase, bind_eq_ok, unwrap_eq_ok, checkedAdd_eq_some,
    pure_eq_ok] at h
  obtain ⟨_, ⟨-, rfl⟩, rfl⟩ := h
  rfl

theorem UserStakeInfo.recordPurchase_ok {owner : Pubkey} {index t lxr : Nat}
    (h : u.recordPurchase owner index t lxr = .ok u') :
    u' = { (if u.owner = defaultPubkey then u.open owner index else u) with
      totalStakedSol := u.totalStakedSol + t, baseLxrHoldings := u.baseLxrHoldings + lxr } := by
  simp only [UserStakeInfo.recordPurchase, bind_eq_ok, unwrap_eq_ok, checkedAdd_eq_some,
    pure_eq_ok] at h
  obtain ⟨_, ⟨-, rfl⟩, _, ⟨-, rfl⟩, rfl⟩ := h
  split <;> rfl

theorem manualLxrRewardsToClaim_ok {staked delta c : Nat}
    (h : manualLxrRewardsToClaim staked delta = .ok c) :
    c = asU64 (staked * delta / precision) := by
  simp only [manualLxrRewardsToClaim, bind_eq_ok, unwrap_eq_ok, checkedMul_eq_some,
    checkedDiv_eq_some, pure_eq_ok] at h
  obtain ⟨_, ⟨-, rfl⟩, _, ⟨-, rfl⟩, rfl⟩ := h
  rfl

theorem UserStakeInfo.recordManualPurchase_ok {user : Pubkey} {index t lxr : Nat}
    (h : u.recordManualPurchase user index t lxr = .ok u') :
    (u.owner = defaultPubkey ∧
      u' = { u with owner := user, lxrRewardPerTokenCompleted := index,
                    totalStakedSol := u.totalStakedSol + t,
                    baseLxrHoldings := u.baseLxrHoldings + lxr }) ∨
    (u.owner ≠ defaultPubkey ∧ u.lxrRewardPerTokenCompleted ≤ index ∧
      u' = { u with lxrRewardsPending := u.lxrRewardsPending +
                      asU64 (u.totalStakedSol * (index - u.lxrRewardPerTokenCompleted) / precision),
                    lxrRewardPerTokenCompleted := index,
                    totalStakedSol := u.totalStakedSol + t,
                    baseLxrHoldings := u.baseLxrHoldings + lxr }) := by
  unfold UserStakeInfo.recordManualPurchase at h
  split at h
  next hnew =>
    simp only [bind_eq_ok, unwrap_eq_ok, checkedAdd_eq_some, pure_eq_ok] at h
    obtain ⟨_, rfl, _, ⟨-, rfl⟩, _, ⟨-, rfl⟩, rfl⟩ := h
    exact .inl ⟨hnew, rfl⟩
  next hold =>
    simp only [bind_eq_ok, unwrap_eq_ok, checkedSub_eq_some, checkedAdd_eq_some,
      pure_eq_ok] at h
    obtain ⟨_, ⟨hle, rfl⟩, _, hc, _, ⟨-, rfl⟩, _, rfl, _, ⟨-, rfl⟩, _, ⟨-, rfl⟩, rfl⟩ := h
    exact .inr ⟨hold, hle, by rw [manualLxrRewardsToClaim_ok hc]⟩

end

theorem purchase_ok {env : Env} {owner : Pubkey} {pool : PoolView} {lxr maxSol now : Nat}
    {s s' : ProgramState} (h : purchase env owner pool lxr maxSol now s = .ok s') :
    ∃ t si₁ si₂ u, purchasePrice env.fees pool s.globalConfig s.stakeInfo.totalStakeCount
        s.luxorVault lxr = .ok t ∧ t ≤ maxSol ∧
      accrueSolRewards s.stakeInfo s.stakePda = .ok si₁ ∧
      si₁.recordPurchase t (s.stakePda + t) now = .ok si₂ ∧
      (s.userStakeInfo owner).recordPurchase owner si₂.rewardPerTokenLxrStored t lxr = .ok u ∧
      lxr ≤ s.luxorVault ∧
      s' = { s with stakeInfo := si₂, userStakeInfo := Function.update s.userStakeInfo owner u,
                    stakePda := s.stakePda + t, luxorVault := s.luxorVault - lxr } := by
  simp only [purchase, bind_eq_ok, require_eq_ok, okOr_eq_ok, checkedSub_eq_some,
    pure_eq_ok] at h
  obtain ⟨-, -, -, -, t, ht, -, hmax, si₁, h₁, -, -, si₂, h₂, u, hu, _, ⟨hv, rfl⟩, rfl⟩ := h
  exact ⟨t, si₁, si₂, u, ht, hmax, h₁, h₂, hu, hv, rfl⟩

theorem purchase_refused_while_disabled {env : Env} {owner : Pubkey} {pool : PoolView}
    {lxr maxSol now : Nat} {s : ProgramState} (h : s.globalConfig.purchaseEnabled = false) :
    purchase env owner pool lxr maxSol now s = .error (.program .purchaseDisabled) := by
  simp only [purchase, h, require, Bool.false_eq_true, if_false]
  rfl

theorem manualPurchase_ok {env : Env} {signer user : Pubkey} {lxr sol now : Nat}
    {s s' : ProgramState} (h : manualPurchase env signer user lxr sol now s = .ok s') :
    ∃ si₁ si₂ u, isAdmin env s signer ∧
      observeSolRewards s.stakeInfo s.stakePda = .ok si₁ ∧
      si₁.recordManualPurchase sol (s.stakePda + sol) now = .ok si₂ ∧
      (s.userStakeInfo user).recordManualPurchase user si₂.rewardPerTokenLxrStored sol lxr = .ok u ∧
      s' = { s with stakeInfo := si₂, userStakeInfo := Function.update s.userStakeInfo user u,
                    stakePda := s.stakePda + sol } := by
  simp only [manualPurchase, bind_eq_ok, require_eq_ok, pure_eq_ok] at h
  obtain ⟨-, hadm, si₁, h₁, si₂, h₂, u, hu, rfl⟩ := h
  exact ⟨si₁, si₂, u, hadm, h₁, h₂, hu, rfl⟩

end LuxorSwap
