import LuxorSwap.Machine

/-! # The purchase price

`purchase` asks the pool what `lxr_to_purchase` LXR cost, then discounts that by `bonus_rate`
while the stake count is within the bonus ceiling, and after that scales it by the treasury's
inventory against `initial_lxr_allocation_vault`, narrowing the scaled `u128` with `as u64`.
-/

namespace LuxorSwap

theorem purchasePrice_ok {fees : Fees} {pool : PoolView} {config : GlobalConfig}
    {count vault lxr p : Nat} (h : purchasePrice fees pool config count vault lxr = .ok p) :
    ∃ r, swapBaseOutput fees lxr pool.totalInputTokenAmount pool.totalOutputTokenAmount 2500
        pool.creatorFeeRate 120000 40000 pool.isCreatorFeeOnInput = .ok (some r) ∧
      r.outputAmount = lxr ∧ r.inputAmount < 2 ^ 64 ∧
      pool.totalInputTokenAmount * pool.totalOutputTokenAmount ≤
        r.newInputVaultAmount * r.newOutputVaultAmount ∧
      (count + 1 ≤ config.maxStakeCountToGetBonus ∧
          p = r.inputAmount - r.inputAmount * config.bonusRate / feeRateDenominatorValue ∨
        config.maxStakeCountToGetBonus < count + 1 ∧ 0 < config.initialLxrAllocationVault ∧
          p = asU64 (r.inputAmount * vault / config.initialLxrAllocationVault)) := by
  simp only [purchasePrice, bind_eq_ok, unwrap_eq_ok, checkedMul_eq_some, okOr_eq_ok,
    u64TryFrom_eq_some, require_eq_ok, addOrPanic_eq_ok, and_assoc, exists_and_left,
    exists_eq_left', exists_const] at h
  obtain ⟨-, o, ho, r, rfl, -, -, hout, hk, ht, -, h⟩ := h
  refine ⟨r, ho, hout, ht, hk, ?_⟩
  split at h
  next hb =>
    simp only [bind_eq_ok, unwrap_eq_ok, checkedMul_eq_some, checkedDiv_eq_some,
      checkedSub_eq_some] at h
    obtain ⟨_, ⟨-, rfl⟩, _, ⟨-, rfl⟩, -, rfl⟩ := h
    exact .inl ⟨hb, rfl⟩
  next hb =>
    simp only [bind_eq_ok, unwrap_eq_ok, checkedMul_eq_some, checkedDiv_eq_some,
      pure_eq_ok] at h
    obtain ⟨_, ⟨-, rfl⟩, _, ⟨hI, rfl⟩, rfl⟩ := h
    exact .inr ⟨Nat.lt_of_not_le hb, hI, rfl⟩

/-- While the treasury holds at most its initial allocation, no purchase costs more than the
pool's quote, and the inventory scaling is exact: its `as u64` never truncates. -/
theorem purchasePrice_le_quote {fees : Fees} {pool : PoolView} {config : GlobalConfig}
    {count vault lxr p : Nat} (h : purchasePrice fees pool config count vault lxr = .ok p)
    (hv : vault ≤ config.initialLxrAllocationVault) :
    ∃ r, swapBaseOutput fees lxr pool.totalInputTokenAmount pool.totalOutputTokenAmount 2500
        pool.creatorFeeRate 120000 40000 pool.isCreatorFeeOnInput = .ok (some r) ∧
      p ≤ r.inputAmount ∧
      (config.maxStakeCountToGetBonus < count + 1 →
        p = r.inputAmount * vault / config.initialLxrAllocationVault) := by
  obtain ⟨r, hr, -, ht, -, ⟨hb, rfl⟩ | ⟨-, hI, rfl⟩⟩ := purchasePrice_ok h
  · exact ⟨r, hr, Nat.sub_le _ _, fun hlt => absurd hb (Nat.not_le.2 hlt)⟩
  · have hle : r.inputAmount * vault / config.initialLxrAllocationVault ≤ r.inputAmount :=
      calc r.inputAmount * vault / config.initialLxrAllocationVault
          ≤ r.inputAmount * config.initialLxrAllocationVault / config.initialLxrAllocationVault :=
            Nat.div_le_div_right (Nat.mul_le_mul_left _ hv)
        _ = r.inputAmount := Nat.mul_div_cancel _ hI
    rw [asU64_of_lt (Nat.lt_of_le_of_lt hle ht)]
    exact ⟨r, hr, hle, fun _ => rfl⟩

theorem purchasePrice_le_quote_deploy :
    purchasePrice deployEnv.fees deployPool deployConfig 1000 1000000000000000 1000000000 =
      .ok 1003008775 ∧ 1000000000000000 ≤ deployConfig.initialLxrAllocationVault ∧
    ∃ r, swapBaseOutput deployEnv.fees 1000000000 deployPool.totalInputTokenAmount
        deployPool.totalOutputTokenAmount 2500 deployPool.creatorFeeRate 120000 40000
        deployPool.isCreatorFeeOnInput = .ok (some r) ∧
      1003008775 ≤ r.inputAmount ∧
      (deployConfig.maxStakeCountToGetBonus < 1000 + 1 →
        1003008775 = r.inputAmount * 1000000000000000 / deployConfig.initialLxrAllocationVault) :=
  ⟨rfl, by decide, @purchasePrice_le_quote deployEnv.fees deployPool deployConfig 1000
    1000000000000000 1000000000 1003008775 rfl (by decide)⟩

def wrapConfig : GlobalConfig := { deployConfig with
  maxStakeCountToGetBonus := 0, initialLxrAllocationVault := 1 }

def wrapTreasury : ProgramState :=
  run deployEnv (genesis deployEnv wrapConfig 0)
    [.depositLxr .treasury (2 ^ 63), .instruction (.manualPurchase 1 9 1 1000000000 0)]

def wrapPurchase : ProgramState :=
  step deployEnv wrapTreasury (.instruction (.purchase 7 deployPool 1000001000 0 1))

/-- The pool quotes 1003009778 lamports for 1000001000 LXR units; scaled by the inventory that
is a multiple of `2 ^ 64`, so `as u64` makes it 0 and the buyer gets the LXR without paying. -/
theorem inventory_price_wraps_to_zero :
    Reachable deployEnv wrapTreasury ∧
    (∃ r, swapBaseOutput deployEnv.fees 1000001000 deployPool.totalInputTokenAmount
        deployPool.totalOutputTokenAmount 2500 deployPool.creatorFeeRate 120000 40000
        deployPool.isCreatorFeeOnInput = .ok (some r) ∧ r.inputAmount = 1003009778) ∧
    2 ^ 64 ≤
      1003009778 * wrapTreasury.luxorVault / wrapTreasury.globalConfig.initialLxrAllocationVault ∧
    purchasePrice deployEnv.fees deployPool wrapTreasury.globalConfig
      wrapTreasury.stakeInfo.totalStakeCount wrapTreasury.luxorVault 1000001000 = .ok 0 ∧
    purchase deployEnv 7 deployPool 1000001000 0 1 wrapTreasury = .ok wrapPurchase ∧
    wrapPurchase.luxorVault + 1000001000 = wrapTreasury.luxorVault ∧
    wrapPurchase.stakePda = wrapTreasury.stakePda :=
  ⟨(@Reachable.init deployEnv 1 wrapConfig 0 _ rfl).run _, ⟨_, rfl, rfl⟩, by decide, rfl, rfl,
    by decide, rfl⟩

/-! ## Splitting a purchase

`purchase` prices against the pool's reserves and takes the LXR from the treasury, so a
purchase leaves the reserves the next one is priced on as they were. The exact-output quote is
convex in the amount, and two halves priced on the same reserves cost less than the whole. -/

def treasuryFunded : ProgramState :=
  step deployEnv (genesis deployEnv deployConfig 0) (.depositLxr .treasury 1000000000000000)

def halfBought : ProgramState :=
  step deployEnv treasuryFunded
    (.instruction (.purchase 2 deployPool 100000000000000 1000000000000000 1))

def halvesBought : ProgramState :=
  step deployEnv halfBought (.instruction (.purchase 2 deployPool 100000000000000 1000000000000000 2))

def wholeBought : ProgramState :=
  step deployEnv treasuryFunded
    (.instruction (.purchase 2 deployPool 200000000000000 1000000000000000 1))

/-- Two purchases of `10 ^ 14` LXR units charge 111451502575229 lamports each, 222903005150458 in
all, where one purchase of `2 * 10 ^ 14` charges 250783305982281. -/
theorem split_purchase_costs_less :
    Reachable deployEnv treasuryFunded ∧
    purchase deployEnv 2 deployPool 100000000000000 1000000000000000 1 treasuryFunded =
      .ok halfBought ∧
    purchase deployEnv 2 deployPool 100000000000000 1000000000000000 2 halfBought = .ok halvesBought ∧
    purchase deployEnv 2 deployPool 200000000000000 1000000000000000 1 treasuryFunded =
      .ok wholeBought ∧
    halvesBought.stakeInfo.totalStakedSol - treasuryFunded.stakeInfo.totalStakedSol = 222903005150458 ∧
    wholeBought.stakeInfo.totalStakedSol - treasuryFunded.stakeInfo.totalStakedSol = 250783305982281 :=
  ⟨(Reachable.init deploy_initialises).step _, rfl, rfl, rfl, rfl, rfl⟩

end LuxorSwap
