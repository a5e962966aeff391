import LuxorSwap.StakeLedger
import LuxorSwap.LxrRewards
import LuxorSwap.PurchasePrice

/-! # What `redeem` refuses and what it pays

`redeem` refuses with `NoRewardsToClaim` on the fresh claim alone: the LXR a record carries in
`lxr_rewards_pending` is paid only on top of a positive fresh claim. It pays the fresh claim
pro-rated by the caller's LXR balance, and it writes nothing back to the record, so the same claim
is paid again each time the instruction is sent. No instruction reads `min_swap_amount`,
`max_swap_amount` or `redeem_enabled`.
-/

namespace LuxorSwap

/-! ## `redeem`'s `NoRewardsToClaim` -/

theorem UserStakeInfo.redeemClaim_noRewardsToClaim_iff {u : UserStakeInfo} {index amount : Nat}
    (hown : u.owner ≠ defaultPubkey) (hc : u.lxrRewardPerTokenCompleted ≤ index) :
    u.redeemClaim index amount = .error (.program .noRewardsToClaim) ↔
      lxrRewardsToClaim u.totalStakedSol (index - u.lxrRewardPerTokenCompleted) = .ok 0 := by
  simp only [UserStakeInfo.redeemClaim, bind_eq_error, require_eq_error, unwrap_eq_error,
    pure_ne_error, forfeiture_ne_program, lxrRewardsToClaim_ne_program, reduceCtorEq,
    and_false, and_true, false_or, or_false, exists_false, exists_const, require_eq_ok,
    unwrap_eq_ok, checkedSub_eq_some, ne_eq, hown, hc, true_and, not_false_eq_true,
    exists_eq_left', exists_eq_right, Nat.not_lt, Nat.le_zero]
  constructor
  · rintro (hδ | ⟨-, hclaim⟩)
    · rw [hδ, lxrRewardsToClaim_zero]
    · exact hclaim
  · intro hclaim
    by_cases hδ : index - u.lxrRewardPerTokenCompleted = 0
    · exact .inl hδ
    · exact .inr ⟨Nat.pos_of_ne_zero hδ, hclaim⟩

theorem ProgramState.payRedeem_ne_program {s : ProgramState} {x f : Nat} {c : ErrorCode} :
    s.payRedeem x f ≠ .error (.program c) := by
  simp only [ProgramState.payRedeem, ne_eq, bind_eq_error, unwrap_eq_error, okOr_eq_error,
    pure_ne_error, ite_eq_iff, reduceCtorEq, and_false, false_or, or_false, exists_false,
    not_false_eq_true]

theorem redeem_noRewardsToClaim_iff {owner : Pubkey} {amount : Nat} {s : ProgramState}
    (hown : (s.userStakeInfo owner).owner ≠ defaultPubkey)
    (hc : (s.userStakeInfo owner).lxrRewardPerTokenCompleted ≤ s.stakeInfo.rewardPerTokenLxrStored) :
    redeem owner amount s = .error (.program .noRewardsToClaim) ↔
      lxrRewardsToClaim (s.userStakeInfo owner).totalStakedSol
        (s.stakeInfo.rewardPerTokenLxrStored - (s.userStakeInfo owner).lxrRewardPerTokenCompleted)
        = .ok 0 := by
  rw [← UserStakeInfo.redeemClaim_noRewardsToClaim_iff hown hc]
  simp only [redeem, bind_eq_error]
  constructor
  · rintro (h | ⟨⟨x, f⟩, -, h⟩)
    · exact h
    · exact absurd h ProgramState.payRedeem_ne_program
  · exact .inl

/-- Right after a `manual_purchase` tops up user 7's record, its whole entitlement is the pending
LXR that the top-up settled, and `redeem` refuses it with `NoRewardsToClaim`, whatever balance
the caller shows. -/
theorem topped_up_record_cannot_redeem :
    Reachable deployEnv firstSettlementTopUp ∧
    0 < (firstSettlementTopUp.userStakeInfo 7).entitlement
      firstSettlementTopUp.stakeInfo.rewardPerTokenLxrStored ∧
    ∀ amount, redeem 7 amount firstSettlementTopUp = .error (.program .noRewardsToClaim) :=
  ⟨firstSettlement_reachable.step _, by decide, fun _ => rfl⟩

/-- In every reachable state, `redeem` by the owner of a record raises `NoRewardsToClaim` exactly
when the fresh claim over the index delta since its checkpoint is zero, whatever LXR the record
has pending. -/
theorem redeem_refuses_only_zero_fresh_claim {env : Env} {s : ProgramState} (hs : Reachable env s)
    {owner : Pubkey} (amount : Nat) (hown : (s.userStakeInfo owner).owner ≠ defaultPubkey) :
    redeem owner amount s = .error (.program .noRewardsToClaim) ↔
      lxrRewardsToClaim (s.userStakeInfo owner).totalStakedSol
        (s.stakeInfo.rewardPerTokenLxrStored - (s.userStakeInfo owner).lxrRewardPerTokenCompleted)
        = .ok 0 :=
  redeem_noRewardsToClaim_iff hown (hs.checkpointsBelow.1 owner)

theorem redeem_refuses_only_zero_fresh_claim_topUp :
    Reachable deployEnv firstSettlementTopUp ∧
    (firstSettlementTopUp.userStakeInfo 7).owner ≠ defaultPubkey ∧
    (redeem 7 0 firstSettlementTopUp = .error (.program .noRewardsToClaim) ↔
      lxrRewardsToClaim (firstSettlementTopUp.userStakeInfo 7).totalStakedSol
        (firstSettlementTopUp.stakeInfo.rewardPerTokenLxrStored -
          (firstSettlementTopUp.userStakeInfo 7).lxrRewardPerTokenCompleted) = .ok 0) :=
  ⟨firstSettlement_reachable.step _, by decide,
    redeem_refuses_only_zero_fresh_claim (firstSettlement_reachable.step _) 0 (by decide)⟩

/-! ## The configuration's switches and bounds

`redeem_enabled`, `min_swap_amount` and `max_swap_amount` are written by `initialise_configs` and
`update_config` and read by nothing. -/

def redeemOff : ProgramState :=
  step deployEnv firstSettlement (.instruction (.updateConfig 1 5 0 none))

def redeemedWhileOff : ProgramState := step deployEnv redeemOff (.instruction (.redeem 7 1000000000))

def swapBounded : ProgramState :=
  run deployEnv treasuryFunded
    [.instruction (.updateConfig 1 1 2000 none), .instruction (.updateConfig 1 2 1 none)]

def boughtOutOfBounds : ProgramState :=
  step deployEnv swapBounded (.instruction (.purchase 2 deployPool 1000 1000000 1))

/-- With `redeem_enabled` off, `redeem` still pays LXR out of the reward vault; with
`lxr_to_purchase` outside `[min_swap_amount, max_swap_amount]`, `purchase` still sells LXR out of
the treasury. -/
theorem redeem_switch_and_swap_bounds_unchecked :
    Reachable deployEnv redeemOff ∧ redeemOff.globalConfig.redeemEnabled = false ∧
    redeem 7 1000000000 redeemOff = .ok redeemedWhileOff ∧
    redeemedWhileOff.luxorRewardVault < redeemOff.luxorRewardVault ∧
    Reachable deployEnv swapBounded ∧
    swapBounded.globalConfig.maxSwapAmount < 1000 ∧ 1000 < swapBounded.globalConfig.minSwapAmount ∧
    purchase deployEnv 2 deployPool 1000 1000000 1 swapBounded = .ok boughtOutOfBounds ∧
    boughtOutOfBounds.luxorVault < swapBounded.luxorVault :=
  ⟨firstSettlement_reachable.step _, rfl, rfl, by decide,
    ((Reachable.init deploy_initialises).step _).run _,
    by decide, by decide, rfl, by decide⟩

/-! ## A claim is paid again

`redeem` writes nothing back to the owner's record, neither the checkpoint nor the pending LXR,
and leaves the index alone. The claim `redeemClaim` prices from the record and the index is then
the same at the next `redeem`, which pays it again out of the reward vault; sent again and again,
one positive claim empties the vault. -/

theorem forfeiture_prorated {holdings base claim p f : Nat}
    (h : forfeiture holdings base claim = .ok (p, f)) (hlt : holdings < base) (hc : claim < 2 ^ 64) :
    p * base ≤ holdings * claim ∧ holdings * claim < (p + 1) * base := by
  unfold forfeiture at h
  rw [if_pos hlt] at h
  simp only [bind_eq_ok, unwrap_eq_ok, checkedMul_eq_some, checkedDiv_eq_some,
    checkedSub_eq_some, pure_eq_ok, Prod.mk.injEq] at h
  obtain ⟨_, ⟨-, rfl⟩, _, ⟨-, rfl⟩, _, ⟨-, rfl⟩, rfl, -⟩ := h
  have hq : holdings * claim / base ≤ claim :=
    Nat.div_le_of_le_mul (Nat.mul_le_mul_right _ (Nat.le_of_lt hlt))
  rw [asU64_of_lt (Nat.lt_of_le_of_lt hq hc)]
  exact ⟨Nat.div_mul_le_self _ _, by
    rw [Nat.mul_comm _ base]; exact Nat.lt_mul_div_succ _ (Nat.zero_lt_of_lt hlt)⟩

/-- A successful `redeem` pays the owner `p` of the fresh claim `c` plus the pending LXR, and
forfeits the rest of `c` to the treasury, both out of the reward vault and both counted in
`stake_info`'s tallies: `p` is all of `c` while the reported LXR balance `amount` is at least
`base_lxr_holdings`, and below it the share `amount / base_lxr_holdings` of `c` rounded down, so
that an owner holding nothing is paid only the pending LXR. -/
theorem redeem_prorates_fresh_claim {owner : Pubkey} {amount : Nat} {s s' : ProgramState}
    (h : redeem owner amount s = .ok s') :
    ∃ c p, lxrRewardsToClaim (s.userStakeInfo owner).totalStakedSol
        (s.stakeInfo.rewardPerTokenLxrStored - (s.userStakeInfo owner).lxrRewardPerTokenCompleted)
        = .ok c ∧
      s'.stakeInfo.totalLxrClaimed =
        s.stakeInfo.totalLxrClaimed + (p + (s.userStakeInfo owner).lxrRewardsPending) ∧
      s'.stakeInfo.totalLxrForfeited + p = s.stakeInfo.totalLxrForfeited + c ∧
      s'.luxorRewardVault + (p + (s.userStakeInfo owner).lxrRewardsPending) + (c - p) =
        s.luxorRewardVault ∧
      s'.luxorVault = s.luxorVault + (c - p) ∧
      ((s.userStakeInfo owner).baseLxrHoldings ≤ amount → p = c) ∧
      (amount < (s.userStakeInfo owner).baseLxrHoldings →
        p * (s.userStakeInfo owner).baseLxrHoldings ≤ amount * c ∧
        amount * c < (p + 1) * (s.userStakeInfo owner).baseLxrHoldings) := by
  obtain ⟨c, p, f, v, -, -, hc, -, hf, hv, rfl⟩ := redeem_ok h
  obtain ⟨hpf, hzero⟩ := forfeiture_ok hf
  have hc64 : c < 2 ^ 64 := (lxrRewardsToClaim_ok hc).2 ▸ Nat.mod_lt _ (Nat.two_pow_pos 64)
  have hfc : f = c - p := by omega
  subst hfc
  refine ⟨c, p, hc, rfl, by dsimp only; omega, hv, rfl, fun hle => ?_,
    fun hlt => forfeiture_prorated hf hlt hc64⟩
  have := hzero hle
  omega

def halfHeldRedeem : ProgramState := step deployEnv firstSettlement (.instruction (.redeem 7 500000000))

theorem redeem_prorates_fresh_claim_half :
    redeem 7 500000000 firstSettlement = .ok halfHeldRedeem ∧
    halfHeldRedeem.stakeInfo.totalLxrClaimed = 4 ∧ halfHeldRedeem.stakeInfo.totalLxrForfeited = 5 ∧
    halfHeldRedeem.luxorVault = firstSettlement.luxorVault + 5 ∧
    ∃ c p, lxrRewardsToClaim (firstSettlement.userStakeInfo 7).totalStakedSol
        (firstSettlement.stakeInfo.rewardPerTokenLxrStored -
          (firstSettlement.userStakeInfo 7).lxrRewardPerTokenCompleted) = .ok c ∧
      halfHeldRedeem.stakeInfo.totalLxrClaimed =
        firstSettlement.stakeInfo.totalLxrClaimed +
          (p + (firstSettlement.userStakeInfo 7).lxrRewardsPending) ∧
      halfHeldRedeem.stakeInfo.totalLxrForfeited + p = firstSettlement.stakeInfo.totalLxrForfeited + c ∧
      halfHeldRedeem.luxorRewardVault + (p + (firstSettlement.userStakeInfo 7).lxrRewardsPending) +
          (c - p) = firstSettlement.luxorRewardVault ∧
      halfHeldRedeem.luxorVault = firstSettlement.luxorVault + (c - p) ∧
      ((firstSettlement.userStakeInfo 7).baseLxrHoldings ≤ 500000000 → p = c) ∧
      (500000000 < (firstSettlement.userStakeInfo 7).baseLxrHoldings →
        p * (firstSettlement.userStakeInfo 7).baseLxrHoldings ≤ 500000000 * c ∧
        500000000 * c < (p + 1) * (firstSettlement.userStakeInfo 7).baseLxrHoldings) := by
  have h : redeem 7 500000000 firstSettlement = .ok halfHeldRedeem := rfl
  exact ⟨h, by decide, by decide, by decide, redeem_prorates_fresh_claim h⟩

end LuxorSwap
