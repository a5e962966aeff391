import LuxorSwap.Curve

/-! # The program's accounts

`states::GlobalConfig`, `states::StakeInfo` and `states::UserStakeInfo`, and the balances of
the accounts the instructions move lamports and tokens between. Addresses, bumps and the
fields no instruction reads are left out.
-/

namespace LuxorSwap

abbrev Pubkey := Nat

def defaultPubkey : Pubkey := 0

structure GlobalConfig where
  admin : Pubkey := defaultPubkey
  bonusRate : Nat := 0
  maxStakeCountToGetBonus : Nat := 0
  minSwapAmount : Nat := 0
  maxSwapAmount : Nat := 0
  feeTreasuryRate : Nat := 0
  purchaseEnabled : Bool := false
  redeemEnabled : Bool := false
  initialLxrAllocationVault : Nat := 0
  deriving DecidableEq, Repr

structure StakeInfo where
  totalStakedSol : Nat := 0
  totalStakeCount : Nat := 0
  totalSolRewardsAccrued : Nat := 0
  lastTrackedSolBalance : Nat := 0
  rewardPerTokenSolStored : Nat := 0
  totalLuxorRewardsAccrued : Nat := 0
  totalSolUsedForBuyback : Nat := 0
  lastUpdateTimestamp : Nat := 0
  lastBuybackTimestamp : Nat := 0
  rewardPerTokenLxrStored : Nat := 0
  totalLxrClaimed : Nat := 0
  totalLxrForfeited : Nat := 0
  buybackCount : Nat := 0
  buybackRequested : Bool := false
  deriving DecidableEq, Repr

structure UserStakeInfo where
  owner : Pubkey := defaultPubkey
  totalStakedSol : Nat := 0
  totalLxrClaimed : Nat := 0
  totalLxrForfeited : Nat := 0
  baseLxrHoldings : Nat := 0
  lxrRewardPerTokenCompleted : Nat := 0
  lxrRewardsPending : Nat := 0
  blacklistedSol : Nat := 0
  deriving DecidableEq, Repr

/-- Everything an instruction reads or writes. `userStakeInfo k` is the record at the
`USER_STAKE_INFO_SEED` address of `k`, all zero while it does not exist. Lamport balances are
unbounded: the runtime's own overflow checks on them never fire, as all SOL fits in a `u64`. -/
structure ProgramState where
  globalConfig : GlobalConfig
  stakeInfo : StakeInfo
  userStakeInfo : Pubkey → UserStakeInfo
  /-- The record at `ADMIN_STAKE_INFO_SEED`, where blacklisted stake goes. -/
  adminStakeInfo : UserStakeInfo
  /-- Whether an account exists at `ADMIN_STAKE_INFO_SEED`: no instruction creates one. -/
  adminStakeInfoExists : Bool
  /-- Lamports of `stake_pda`. -/
  stakePda : Nat
  /-- Lamports of the `stake_split_pda` of the current `buyback_count`. -/
  stakeSplitPda : Nat
  /-- LXR in `luxor_vault`, the treasury. -/
  luxorVault : Nat
  /-- LXR in `luxor_reward_vault`, which pays redemptions. -/
  luxorRewardVault : Nat
  /-- WSOL in `sol_treasury_vault`. -/
  solTreasuryVault : Nat

/-- What the runtime fixes for a whole run: the hard-coded `crate::admin::id()`, the
rent-exempt minimum of a stake account, and the fee functions of the pool. -/
structure Env where
  adminId : Pubkey
  minRent : Nat
  fees : Fees

/-- What `PoolState::get_swap_params` and `adjust_creator_fee_rate(500)` read from the market
pool (its code is not in the repository): the reserves on each side and the creator fee. -/
structure PoolView where
  totalInputTokenAmount : Nat
  totalOutputTokenAmount : Nat
  isCreatorFeeOnInput : Bool
  creatorFeeRate : Nat
  deriving DecidableEq, Repr

/-- Whether `signer` may run an admin instruction: the configured or the hard-coded admin. -/
def isAdmin (env : Env) (s : ProgramState) (signer : Pubkey) : Prop :=
  signer = s.globalConfig.admin ∨ signer = env.adminId

instance (env : Env) (s : ProgramState) (signer : Pubkey) : Decidable (isAdmin env s signer) :=
  inferInstanceAs (Decidable (_ ∨ _))

/-! ## The LXR owed to a record

Every instruction that pays or moves LXR rewards converts an index delta the same way:
stake times delta, divided by `PRECISION` twice, narrowed to `u64`. -/

/-- `(total_staked_sol as u128) * delta / PRECISION / PRECISION`, before the `as u64`. -/
def lxrAccrued (staked delta : Nat) : Nat := staked * delta / precision / precision

/-- What a record is owed at the global index `index`: its pending LXR and what its stake earned
since its checkpoint. -/
def UserStakeInfo.entitlement (u : UserStakeInfo) (index : Nat) : Nat :=
  u.lxrRewardsPending + lxrAccrued u.totalStakedSol (index - u.lxrRewardPerTokenCompleted)

@[simp] theorem lxrAccrued_zero_left {delta : Nat} : lxrAccrued 0 delta = 0 := by
  simp [lxrAccrued]

@[simp] theorem lxrAccrued_zero_right {staked : Nat} : lxrAccrued staked 0 = 0 := by
  simp [lxrAccrued]

theorem lxrAccrued_add_le {a b delta : Nat} :
    lxrAccrued a delta + lxrAccrued b delta ≤ lxrAccrued (a + b) delta := by
  simp only [lxrAccrued, precision, Nat.add_mul]
  omega

theorem lxrAccrued_add_delta_le {staked d e : Nat} :
    lxrAccrued staked (d + e) ≤
      lxrAccrued staked d + staked * e / (precision * precision) + 1 := by
  simp only [lxrAccrued, precision, Nat.mul_add, Nat.div_div_eq_div_mul]
  omega

theorem lxrAccrued_index_credit_le (staked d lxr total : Nat) :
    lxrAccrued staked (d + lxr * precision / total) ≤
      lxrAccrued staked d + staked * lxr / (total * precision) + 1 := by
  have hscale : staked * (lxr * precision / total) / (precision * precision) ≤
      staked * lxr / (total * precision) :=
    calc staked * (lxr * precision / total) / (precision * precision)
        ≤ staked * (lxr * precision) / total / (precision * precision) :=
          Nat.div_le_div_right (Nat.mul_div_le_mul_div_assoc _ _ _)
      _ = staked * lxr / (total * precision) := by
          rw [Nat.div_div_eq_div_mul, ← Nat.mul_assoc, ← Nat.mul_assoc,
            Nat.mul_div_mul_right _ _ precision_pos]
  have := @lxrAccrued_add_delta_le staked d (lxr * precision / total)
  omega

end LuxorSwap
