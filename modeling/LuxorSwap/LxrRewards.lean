import LuxorSwap.BuybackBudget

/-! # What a stake record is owed in LXR

A record's entitlement is its pending LXR plus `lxrAccrued` of its stake over the index delta
since its checkpoint. Four things decide whether that entitlement is right: whether an
instruction settles a record before it adds stake, the scale each conversion divides by, the
scale a settlement credits the index with, and the stake a settlement shares its LXR over.
-/

namespace LuxorSwap

/-! ## What the two purchases do to the records -/

theorem purchase_records {env : Env} {owner : Pubkey} {pool : PoolView} {lxr maxSol now : Nat}
    {s s' : ProgramState} (h : purchase env owner pool lxr maxSol now s = .ok s') :
    let u := s.userStakeInfo owner
    let index := s.stakeInfo.rewardPerTokenLxrStored
    s'.stakeInfo.rewardPerTokenLxrStored = index ∧ s.stakePda ≤ s'.stakePda ∧
    s'.userStakeInfo = Function.update s.userStakeInfo owner
      { (if u.owner = defaultPubkey then u.open owner index else u) with
        totalStakedSol := u.totalStakedSol + (s'.stakePda - s.stakePda),
        baseLxrHoldings := u.baseLxrHoldings + lxr } := by
  obtain ⟨t, si₁, si₂, u, -, -, h₁, h₂, hu, -, rfl⟩ := purchase_ok h
  obtain ⟨r, rfl, -⟩ := accrueSolRewards_ok h₁
  cases StakeInfo.recordPurchase_ok h₂
  refine ⟨rfl, Nat.le_add_right _ _, ?_⟩
  rw [UserStakeInfo.recordPurchase_ok hu, Nat.add_sub_cancel_left]

theorem manualPurchase_records {env : Env} {signer user : Pubkey} {lxr sol now : Nat}
    {s s' : ProgramState} (h : manualPurchase env signer user lxr sol now s = .ok s') :
    s'.stakeInfo.rewardPerTokenLxrStored = s.stakeInfo.rewardPerTokenLxrStored ∧
    ∃ u, (s.userStakeInfo user).recordManualPurchase user s.stakeInfo.rewardPerTokenLxrStored
        sol lxr = .ok u ∧ s'.userStakeInfo = Function.update s.userStakeInfo user u := by
  obtain ⟨si₁, si₂, u, -, h₁, h₂, hu, rfl⟩ := manualPurchase_ok h
  cases observeSolRewards_ok h₁
  cases StakeInfo.recordManualPurchase_ok h₂
  exact ⟨rfl, u, hu, rfl⟩

/-! ## `purchase` adds stake without settling

`manual_purchase` settles an existing record at the index before it adds stake; `purchase`
does not. A returning buyer's new stake then earns the whole index growth since the record's
old checkpoint. -/

def returningBuyerRequest : ProgramState :=
  run deployEnv (genesis deployEnv deployConfig 0)
    [.depositLxr .treasury 1000000000000000, .creditStake 10000000000,
      .instruction (.manualPurchase 1 7 1 4 1), .instruction (.buyback 1 deployPool 2)]

def returningBuyerSettled : ProgramState :=
  step deployEnv returningBuyerRequest (.instruction (.buyback 1 deployPool 3))

def returningBuyerBack : ProgramState :=
  step deployEnv returningBuyerSettled (.instruction (.purchase 7 deployPool 4000000000 10000000000 4))

theorem returningBuyerBack_reachable : Reachable deployEnv returningBuyerBack :=
  (((Reachable.init deploy_initialises).run _).step _).step _

/-- For every `purchase` on an existing record, the SOL just paid earns the index growth since
the record's checkpoint, growth that happened before that SOL was staked. -/
theorem purchase_credits_new_stake_retroactively {env : Env} {owner : Pubkey} {pool : PoolView}
    {lxr maxSol now : Nat} {s s' : ProgramState}
    (h : purchase env owner pool lxr maxSol now s = .ok s')
    (hold : (s.userStakeInfo owner).owner ≠ defaultPubkey) :
    (s.userStakeInfo owner).entitlement s.stakeInfo.rewardPerTokenLxrStored +
        lxrAccrued (s'.stakePda - s.stakePda)
          (s.stakeInfo.rewardPerTokenLxrStored - (s.userStakeInfo owner).lxrRewardPerTokenCompleted) ≤
      (s'.userStakeInfo owner).entitlement s'.stakeInfo.rewardPerTokenLxrStored := by
  obtain ⟨hi, -, hu⟩ := purchase_records h
  simp only [hu, hi, Function.update_same, hold, if_false, UserStakeInfo.entitlement,
    Nat.add_assoc]
  exact Nat.add_le_add_left lxrAccrued_add_le _

theorem purchase_credits_new_stake_retroactively_deploy :
    purchase deployEnv 7 deployPool 4000000000 10000000000 4 returningBuyerSettled =
      .ok returningBuyerBack ∧
    (returningBuyerSettled.userStakeInfo 7).owner ≠ defaultPubkey ∧
    (returningBuyerSettled.userStakeInfo 7).entitlement
          returningBuyerSettled.stakeInfo.rewardPerTokenLxrStored +
        lxrAccrued (returningBuyerBack.stakePda - returningBuyerSettled.stakePda)
          (returningBuyerSettled.stakeInfo.rewardPerTokenLxrStored -
            (returningBuyerSettled.userStakeInfo 7).lxrRewardPerTokenCompleted) ≤
      (returningBuyerBack.userStakeInfo 7).entitlement
        returningBuyerBack.stakeInfo.rewardPerTokenLxrStored :=
  ⟨rfl, by decide, @purchase_credits_new_stake_retroactively deployEnv 7 deployPool 4000000000
    10000000000 4 returningBuyerSettled returningBuyerBack rfl (by decide)⟩

/-- The returning buyer's 4 SOL earn the settlement's index growth, and the buyer is owed more LXR
than every settlement together bought. -/
theorem returning_buyer_owed_more_than_bought :
    Reachable deployEnv returningBuyerBack ∧
    returningBuyerBack.stakeInfo.totalLuxorRewardsAccrued <
      (returningBuyerBack.userStakeInfo 7).entitlement
        returningBuyerBack.stakeInfo.rewardPerTokenLxrStored :=
  ⟨returningBuyerBack_reachable, by decide⟩

/-- The only settlement credits the buyer's 4 lamports with `4 * delta / PRECISION²`, about 9 LXR
units, yet after the return the buyer is owed more than one unit beyond that. -/
theorem returning_buyer_exceeds_settled_share :
    Reachable deployEnv returningBuyerBack ∧
    returningBuyerRequest.stakeInfo.rewardPerTokenLxrStored = 0 ∧
    (returningBuyerRequest.userStakeInfo 7).totalStakedSol *
        (returningBuyerSettled.stakeInfo.rewardPerTokenLxrStored -
          returningBuyerRequest.stakeInfo.rewardPerTokenLxrStored) +
        precision * precision ≤
      (returningBuyerBack.userStakeInfo 7).entitlement
          returningBuyerBack.stakeInfo.rewardPerTokenLxrStored * (precision * precision) :=
  ⟨returningBuyerBack_reachable, by decide, by decide⟩

/-! ## `manual_purchase` divides by `PRECISION` once

`redeem`, `blacklist` and `emergency_withdraw` convert a delta with `lxrRewardsToClaim`, which
divides by `PRECISION` twice; `manual_purchase` settles an existing record with
`manualLxrRewardsToClaim`, which divides once. -/

def firstSettlementTopUp : ProgramState :=
  step deployEnv firstSettlement (.instruction (.manualPurchase 1 7 1 1 4))

/-- For every `manual_purchase` on an existing record whose credit fits in a `u64`, the LXR it
credits is at least `PRECISION` times what `redeem` would pay for the same delta. -/
theorem manualPurchase_credits_precision_fold {env : Env} {signer user : Pubkey}
    {lxr sol now : Nat} {s s' : ProgramState}
    (h : manualPurchase env signer user lxr sol now s = .ok s')
    (hold : (s.userStakeInfo user).owner ≠ defaultPubkey)
    (hfit : (s.userStakeInfo user).totalStakedSol * (s.stakeInfo.rewardPerTokenLxrStored -
      (s.userStakeInfo user).lxrRewardPerTokenCompleted) / precision < 2 ^ 64) :
    precision * lxrAccrued (s.userStakeInfo user).totalStakedSol
        (s.stakeInfo.rewardPerTokenLxrStored - (s.userStakeInfo user).lxrRewardPerTokenCompleted) ≤
      (s'.userStakeInfo user).lxrRewardsPending - (s.userStakeInfo user).lxrRewardsPending := by
  obtain ⟨-, u, hu, hs⟩ := manualPurchase_records h
  rcases UserStakeInfo.recordManualPurchase_ok hu with ⟨hnew, -⟩ | ⟨-, -, rfl⟩
  · exact absurd hnew hold
  · simp only [hs, Function.update_same, asU64_of_lt hfit, Nat.add_sub_cancel_left, lxrAccrued]
    rw [Nat.mul_comm]
    exact Nat.div_mul_le_self _ _

theorem manualPurchase_credits_precision_fold_deploy :
    manualPurchase deployEnv 1 7 1 1 4 firstSettlement = .ok firstSettlementTopUp ∧
    (firstSettlement.userStakeInfo 7).owner ≠ defaultPubkey ∧
    (firstSettlement.userStakeInfo 7).totalStakedSol *
        (firstSettlement.stakeInfo.rewardPerTokenLxrStored -
          (firstSettlement.userStakeInfo 7).lxrRewardPerTokenCompleted) / precision < 2 ^ 64 ∧
    precision * lxrAccrued (firstSettlement.userStakeInfo 7).totalStakedSol
        (firstSettlement.stakeInfo.rewardPerTokenLxrStored -
          (firstSettlement.userStakeInfo 7).lxrRewardPerTokenCompleted) ≤
      (firstSettlementTopUp.userStakeInfo 7).lxrRewardsPending -
        (firstSettlement.userStakeInfo 7).lxrRewardsPending :=
  ⟨rfl, by decide, by decide,
    @manualPurchase_credits_precision_fold deployEnv 1 7 1 1 4 firstSettlement firstSettlementTopUp
      rfl (by decide) (by decide)⟩

/-- After the first settlement user 7's record is owed 9 LXR units by `redeem`'s conversion, and
a `manual_purchase` of one lamport credits it 9471422121. -/
theorem manual_purchase_settles_single_division :
    Reachable deployEnv firstSettlement ∧
    (firstSettlement.userStakeInfo 7).lxrRewardsPending = 0 ∧
    lxrRewardsToClaim (firstSettlement.userStakeInfo 7).totalStakedSol
      (firstSettlement.stakeInfo.rewardPerTokenLxrStored -
        (firstSettlement.userStakeInfo 7).lxrRewardPerTokenCompleted) = .ok 9 ∧
    (firstSettlementTopUp.userStakeInfo 7).lxrRewardsPending = 9471422121 :=
  ⟨firstSettlement_reachable, rfl, rfl, rfl⟩

/-! ## A settlement credits the index at `PRECISION`, redemption divides by `PRECISION²`

The index credit is `L * PRECISION / T` for `L` LXR bought over `T` staked lamports, and every
conversion back divides by `PRECISION` twice, so a settlement makes about `L / PRECISION` of
what it bought redeemable. -/

/-- For every settlement and every record, the record's entitlement rises by at most its stake's
share `staked / T` of the LXR bought, divided by `PRECISION`, plus one. -/
theorem settleBuyback_entitlement_gain_le {env : Env} {pool : PoolView} {now : Nat}
    {s s' : ProgramState} (h : settleBuyback env pool now s = .ok s') (k : Pubkey)
    (hc : (s.userStakeInfo k).lxrRewardPerTokenCompleted ≤ s.stakeInfo.rewardPerTokenLxrStored) :
    (s'.userStakeInfo k).entitlement s'.stakeInfo.rewardPerTokenLxrStored ≤
      (s.userStakeInfo k).entitlement s.stakeInfo.rewardPerTokenLxrStored +
        (s.userStakeInfo k).totalStakedSol * (s'.luxorRewardVault - s.luxorRewardVault) /
          (s.stakeInfo.totalStakedSol * precision) + 1 := by
  obtain ⟨fee, r, -, -, -, -, -, -, -, -, -, -, -, rfl⟩ := settleBuyback_ok h
  have := lxrAccrued_index_credit_le (s.userStakeInfo k).totalStakedSol
    (s.stakeInfo.rewardPerTokenLxrStored - (s.userStakeInfo k).lxrRewardPerTokenCompleted)
    r.outputAmount s.stakeInfo.totalStakedSol
  simp only [UserStakeInfo.entitlement, Nat.sub_add_comm hc, Nat.add_sub_cancel_left]
  omega

theorem settleBuyback_entitlement_gain_le_deploy :
    settleBuyback deployEnv deployPool 3 firstRequest = .ok firstSettlement ∧
    (firstRequest.userStakeInfo 7).lxrRewardPerTokenCompleted ≤
      firstRequest.stakeInfo.rewardPerTokenLxrStored ∧
    (firstSettlement.userStakeInfo 7).entitlement firstSettlement.stakeInfo.rewardPerTokenLxrStored ≤
      (firstRequest.userStakeInfo 7).entitlement firstRequest.stakeInfo.rewardPerTokenLxrStored +
        (firstRequest.userStakeInfo 7).totalStakedSol *
            (firstSettlement.luxorRewardVault - firstRequest.luxorRewardVault) /
          (firstRequest.stakeInfo.totalStakedSol * precision) + 1 :=
  ⟨rfl, by decide, @settleBuyback_entitlement_gain_le deployEnv deployPool 3 firstRequest
    firstSettlement rfl 7 (by decide)⟩

/-- With user 7's one SOL the only stake, the first settlement buys 9471422121 LXR units and
makes 9 of them redeemable. -/
theorem settlement_makes_billionth_redeemable :
    Reachable deployEnv firstRequest ∧ firstRequest.stakeInfo.totalStakedSol = precision ∧
    firstRequest.userStakeInfo =
      Function.update (fun _ => {}) 7 (firstRequest.userStakeInfo 7) ∧
    firstRequest.adminStakeInfo.totalStakedSol = 0 ∧
    firstSettlement.stakeInfo.totalLuxorRewardsAccrued -
      firstRequest.stakeInfo.totalLuxorRewardsAccrued = 9471422121 ∧
    (firstRequest.userStakeInfo 7).entitlement firstRequest.stakeInfo.rewardPerTokenLxrStored = 0 ∧
    (firstSettlement.userStakeInfo 7).entitlement
      firstSettlement.stakeInfo.rewardPerTokenLxrStored = 9 :=
  ⟨firstRequest_reachable, rfl, rfl, rfl, rfl, rfl, rfl⟩

/-! ## A settlement shares its LXR over the stake present at settlement

Nothing records the stake at the request: the index credit divides by `total_staked_sol` when the
settlement runs. A record opened between the two phases starts at the index, and the index does
not move until the settlement, so the new stake takes its full per-lamport share. -/

/-- A record owed nothing at `index`: never opened and without stake, or checkpointed at
`index` with nothing pending. -/
def WindowRecord (u : UserStakeInfo) (index : Nat) : Prop :=
  u.lxrRewardsPending = 0 ∧
    (u.owner = defaultPubkey ∧ u.totalStakedSol = 0 ∨ u.lxrRewardPerTokenCompleted = index)

section Window
variable {env : Env} {s s' : ProgramState} {k : Pubkey}

theorem purchase_windowRecord {owner : Pubkey} {pool : PoolView} {lxr maxSol now : Nat}
    (h : purchase env owner pool lxr maxSol now s = .ok s')
    (hk : WindowRecord (s.userStakeInfo k) s.stakeInfo.rewardPerTokenLxrStored) :
    WindowRecord (s'.userStakeInfo k) s'.stakeInfo.rewardPerTokenLxrStored := by
  obtain ⟨hi, -, hu⟩ := purchase_records h
  rw [hu, hi]
  by_cases hko : k = owner
  · subst hko
    obtain ⟨hp, hc⟩ := hk
    simp only [Function.update_same, WindowRecord]
    split_ifs with ho
    · exact ⟨hp, .inr rfl⟩
    · exact ⟨hp, .inr (hc.resolve_left fun h => ho h.1)⟩
  · rwa [Function.update_noteq hko]

theorem manualPurchase_windowRecord {signer user : Pubkey} {lxr sol now : Nat}
    (h : manualPurchase env signer user lxr sol now s = .ok s')
    (hk : WindowRecord (s.userStakeInfo k) s.stakeInfo.rewardPerTokenLxrStored) :
    WindowRecord (s'.userStakeInfo k) s'.stakeInfo.rewardPerTokenLxrStored := by
  obtain ⟨hi, u, hu, hs⟩ := manualPurchase_records h
  rw [hs, hi]
  by_cases hko : k = user
  · subst hko
    rw [Function.update_same]
    rcases UserStakeInfo.recordManualPurchase_ok hu with ⟨-, rfl⟩ | ⟨ho, -, rfl⟩
    · exact ⟨hk.1, .inr rfl⟩
    · have hc := hk.2.resolve_left fun h => ho h.1
      exact ⟨by simp [hk.1, hc, asU64], .inr rfl⟩
  · rwa [Function.update_noteq hko]

theorem redeem_windowRecord {owner : Pubkey} {amount : Nat} (h : redeem owner amount s = .ok s')
    (hk : WindowRecord (s.userStakeInfo k) s.stakeInfo.rewardPerTokenLxrStored) :
    WindowRecord (s'.userStakeInfo k) s'.stakeInfo.rewardPerTokenLxrStored := by
  obtain ⟨c, p, f, v, -, -, -, -, -, -, rfl⟩ := redeem_ok h
  exact hk

theorem blacklist_windowRecord {signer user : Pubkey} (h : blacklist env signer user s = .ok s')
    (hk : WindowRecord (s.userStakeInfo k) s.stakeInfo.rewardPerTokenLxrStored) :
    WindowRecord (s'.userStakeInfo k) s'.stakeInfo.rewardPerTokenLxrStored := by
  obtain ⟨-, -, -, -, rfl⟩ := blacklist_ok h
  by_cases hko : k = user
  · subst hko
    simp only [Function.update_same]
    exact ⟨rfl, .inr rfl⟩
  · simpa only [Function.update_noteq hko] using hk

theorem emergencyWithdraw_windowRecord {signer : Pubkey} {param value : Nat} {v : LxrVault}
    (h : emergencyWithdraw env signer param value v s = .ok s')
    (hk : WindowRecord (s.userStakeInfo k) s.stakeInfo.rewardPerTokenLxrStored) :
    WindowRecord (s'.userStakeInfo k) s'.stakeInfo.rewardPerTokenLxrStored := by
  obtain ⟨-, ⟨-, rfl⟩ | ⟨-, rfl⟩ | ⟨-, -, s₁, h₁, rfl⟩ | ⟨-, rfl⟩ | ⟨-, -, rfl⟩⟩ :=
    emergencyWithdraw_ok h
  · cases v <;> exact hk
  · exact hk
  · obtain ⟨-, rfl⟩ := payFromRewardVault_ok h₁
    cases v <;> exact hk
  · exact hk
  · exact hk

theorem Instruction.exec_windowRecord {i : Instruction} (h : i.exec env s = .ok s')
    (hi : (Event.instruction i).callsBuyback = false)
    (hk : WindowRecord (s.userStakeInfo k) s.stakeInfo.rewardPerTokenLxrStored) :
    WindowRecord (s'.userStakeInfo k) s'.stakeInfo.rewardPerTokenLxrStored := by
  cases i with
  | purchase => exact purchase_windowRecord h hk
  | manualPurchase => exact manualPurchase_windowRecord h hk
  | redeem => exact redeem_windowRecord h hk
  | blacklist => exact blacklist_windowRecord h hk
  | updateConfig =>
    obtain ⟨-, c, rfl⟩ := updateConfig_ok h
    exact hk
  | emergencyWithdraw => exact emergencyWithdraw_windowRecord h hk
  | buyback => cases hi

theorem windowRecord_step {e : Event} (he : e.callsBuyback = false)
    (hk : WindowRecord (s.userStakeInfo k) s.stakeInfo.rewardPerTokenLxrStored) :
    WindowRecord ((step env s e).userStakeInfo k) (step env s e).stakeInfo.rewardPerTokenLxrStored := by
  cases e with
  | instruction i =>
    exact commit_preserves hk fun _ hx => Instruction.exec_windowRecord hx he hk
  | creditStake | creditSplit => exact hk
  | depositLxr v => cases v <;> exact hk

theorem windowRecord_run {es : List Event} (hes : ∀ e ∈ es, e.callsBuyback = false)
    (hk : WindowRecord (s.userStakeInfo k) s.stakeInfo.rewardPerTokenLxrStored) :
    WindowRecord ((run env s es).userStakeInfo k) (run env s es).stakeInfo.rewardPerTokenLxrStored :=
  @run_preserves env (fun s => WindowRecord (s.userStakeInfo k) s.stakeInfo.rewardPerTokenLxrStored)
    _ (fun _ _ he hk => windowRecord_step he hk) s es hk hes

theorem requestBuyback_windowRecord {now : Nat} (h : requestBuyback env now s = .ok s')
    (hk : WindowRecord (s.userStakeInfo k) s.stakeInfo.rewardPerTokenLxrStored) :
    WindowRecord (s'.userStakeInfo k) s'.stakeInfo.rewardPerTokenLxrStored := by
  obtain ⟨si, -, -, -, h₁, -, -, rfl⟩ := requestBuyback_ok h
  obtain ⟨r, rfl, -⟩ := accrueSolRewards_ok h₁
  exact hk

theorem settleBuyback_windowRecord_entitlement {pool : PoolView} {now : Nat}
    (h : settleBuyback env pool now s = .ok s')
    (hk : WindowRecord (s.userStakeInfo k) s.stakeInfo.rewardPerTokenLxrStored) :
    (s'.userStakeInfo k).entitlement s'.stakeInfo.rewardPerTokenLxrStored =
      lxrAccrued (s.userStakeInfo k).totalStakedSol
        ((s'.stakeInfo.totalLuxorRewardsAccrued - s.stakeInfo.totalLuxorRewardsAccrued) *
          precision / s.stakeInfo.totalStakedSol) := by
  obtain ⟨fee, r, -, -, -, -, -, -, -, -, -, -, -, rfl⟩ := settleBuyback_ok h
  obtain ⟨hp, ⟨-, h0⟩ | hc⟩ := hk
  · simp [UserStakeInfo.entitlement, hp, h0]
  · simp only [UserStakeInfo.entitlement, hp, hc, Nat.add_sub_cancel_left, Nat.zero_add]

end Window

/-- Settlement `k` shares the LXR it bought over the stake present when it runs: a record owed
nothing when request `k` ran (never opened, or checkpointed at the index with nothing pending)
that is created or funded before the settlement is owed, right after it, exactly its stake's
per-lamport share `lxrAccrued staked (L * PRECISION / T)`. -/
theorem window_stake_shares_settlement {env : Env} {pool : PoolView} {now₀ now : Nat} {k : Pubkey}
    {s₀ s₁ s' : ProgramState} {es : List Event} (hreq : requestBuyback env now₀ s₀ = .ok s₁)
    (hk : WindowRecord (s₀.userStakeInfo k) s₀.stakeInfo.rewardPerTokenLxrStored)
    (hes : ∀ e ∈ es, e.callsBuyback = false)
    (hset : settleBuyback env pool now (run env s₁ es) = .ok s') :
    (s'.userStakeInfo k).entitlement s'.stakeInfo.rewardPerTokenLxrStored =
      lxrAccrued ((run env s₁ es).userStakeInfo k).totalStakedSol
        ((s'.stakeInfo.totalLuxorRewardsAccrued -
          (run env s₁ es).stakeInfo.totalLuxorRewardsAccrued) * precision /
          (run env s₁ es).stakeInfo.totalStakedSol) :=
  settleBuyback_windowRecord_entitlement hset
    (windowRecord_run hes (requestBuyback_windowRecord hreq hk))

def windowFunding : List Event := [.instruction (.manualPurchase 1 8 1000000000 1000000000 3)]

def windowSettled : ProgramState :=
  step deployEnv (run deployEnv firstRequest windowFunding) (.instruction (.buyback 1 deployPool 4))

theorem window_stake_shares_settlement_deploy :
    requestBuyback deployEnv 2 rewarded = .ok firstRequest ∧
    WindowRecord (rewarded.userStakeInfo 8) rewarded.stakeInfo.rewardPerTokenLxrStored ∧
    (∀ e ∈ windowFunding, e.callsBuyback = false) ∧
    settleBuyback deployEnv deployPool 4 (run deployEnv firstRequest windowFunding) =
      .ok windowSettled ∧
    (windowSettled.userStakeInfo 8).entitlement windowSettled.stakeInfo.rewardPerTokenLxrStored =
      lxrAccrued ((run deployEnv firstRequest windowFunding).userStakeInfo 8).totalStakedSol
        ((windowSettled.stakeInfo.totalLuxorRewardsAccrued -
          (run deployEnv firstRequest windowFunding).stakeInfo.totalLuxorRewardsAccrued) *
          precision / (run deployEnv firstRequest windowFunding).stakeInfo.totalStakedSol) :=
  ⟨rfl, ⟨rfl, .inl ⟨rfl, rfl⟩⟩, by decide, rfl,
    @window_stake_shares_settlement deployEnv deployPool 2 4 8 rewarded _ _ _ rfl
      ⟨rfl, .inl ⟨rfl, rfl⟩⟩ (by decide) rfl⟩

/-- User 8, without stake when the first request runs, is staked one SOL before the settlement
and is owed as much of what it bought as user 7, whose stake earned the SOL. -/
theorem window_stake_gets_bought_lxr :
    Reachable deployEnv windowSettled ∧ firstRequest.stakeInfo.buybackRequested = true ∧
    (firstRequest.userStakeInfo 8).totalStakedSol = 0 ∧ windowSettled.stakeInfo.buybackCount = 1 ∧
    (windowSettled.userStakeInfo 8).entitlement windowSettled.stakeInfo.rewardPerTokenLxrStored = 4 ∧
    (windowSettled.userStakeInfo 7).entitlement windowSettled.stakeInfo.rewardPerTokenLxrStored = 4 :=
  ⟨(firstRequest_reachable.run _).step _, rfl, rfl, rfl, rfl, rfl⟩

end LuxorSwap
