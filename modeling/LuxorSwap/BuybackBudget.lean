import LuxorSwap.SolRewards

/-! # The buyback budget

A request splits `total_sol_rewards_accrued - total_sol_used_for_buyback` off the stake account;
the settlement that follows adds what it sold, the split account's balance above rent less the
treasury fee, to `total_sol_used_for_buyback`. Two things follow. The fee is never counted as
used, so the next request splits it off again, out of staked principal. And lamports the split
account earns while it deactivates are counted as used without ever being counted as accrued.
-/

namespace LuxorSwap

/-! ## Instructions that only add rewards -/

def GrowsRewards (s s' : ProgramState) : Prop :=
  s'.stakeSplitPda = s.stakeSplitPda ∧
  s'.stakeInfo.totalSolUsedForBuyback = s.stakeInfo.totalSolUsedForBuyback ∧
  s'.stakeInfo.buybackRequested = s.stakeInfo.buybackRequested ∧
  s.stakeInfo.totalSolRewardsAccrued ≤ s'.stakeInfo.totalSolRewardsAccrued

theorem KeepsStake.growsRewards {s s' : ProgramState} (h : KeepsStake s s') :
    GrowsRewards s s' :=
  ⟨h.2.1, h.2.2.2.2.1, h.2.2.2.2.2.1, Nat.le_of_eq h.2.2.2.1.symm⟩

theorem purchase_growsRewards {env : Env} {owner : Pubkey} {pool : PoolView}
    {lxr maxSol now : Nat} {s s' : ProgramState}
    (h : purchase env owner pool lxr maxSol now s = .ok s') : GrowsRewards s s' := by
  obtain ⟨t, si₁, si₂, u, -, -, h₁, h₂, -, -, rfl⟩ := purchase_ok h
  obtain ⟨r, rfl, -⟩ := accrueSolRewards_ok h₁
  cases StakeInfo.recordPurchase_ok h₂
  exact ⟨rfl, rfl, rfl, Nat.le_add_right _ _⟩

theorem manualPurchase_growsRewards {env : Env} {signer user : Pubkey} {lxr sol now : Nat}
    {s s' : ProgramState} (h : manualPurchase env signer user lxr sol now s = .ok s') :
    GrowsRewards s s' := by
  obtain ⟨si₁, si₂, u, -, h₁, h₂, -, rfl⟩ := manualPurchase_ok h
  cases observeSolRewards_ok h₁
  cases StakeInfo.recordManualPurchase_ok h₂
  exact ⟨rfl, rfl, rfl, Nat.le_add_right _ _⟩

theorem emergencyWithdraw_growsRewards {env : Env} {signer : Pubkey} {param value : Nat}
    {v : LxrVault} {s s' : ProgramState}
    (h : emergencyWithdraw env signer param value v s = .ok s') : GrowsRewards s s' := by
  by_cases hp : param = 4
  · subst hp
    obtain ⟨-, ⟨⟨⟩, -⟩ | ⟨⟨⟩, -⟩ | ⟨⟨⟩, -⟩ | ⟨⟨⟩, -⟩ | ⟨-, -, rfl⟩⟩ := emergencyWithdraw_ok h
    exact ⟨rfl, rfl, rfl, Nat.le_refl _⟩
  · exact (emergencyWithdraw_keepsStake h hp).growsRewards

def Event.callsBuyback : Event → Bool
  | .instruction (.buyback ..) => true
  | _ => false

theorem Instruction.exec_growsRewards {env : Env} {i : Instruction} {s s' : ProgramState}
    (h : i.exec env s = .ok s') (hi : (Event.instruction i).callsBuyback = false) :
    GrowsRewards s s' := by
  cases i with
  | purchase => exact purchase_growsRewards h
  | manualPurchase => exact manualPurchase_growsRewards h
  | emergencyWithdraw => exact emergencyWithdraw_growsRewards h
  | redeem | blacklist | updateConfig => exact (Instruction.exec_keepsStake h rfl).growsRewards
  | buyback => cases hi

/-! ## Without credits to the split account the budget stays non-negative -/

/-- Before a request the budget is non-negative; while one is pending, what it split off is
still inside it. -/
def BudgetInv (env : Env) (s : ProgramState) : Prop :=
  (s.stakeInfo.buybackRequested = false →
    s.stakeInfo.totalSolUsedForBuyback ≤ s.stakeInfo.totalSolRewardsAccrued) ∧
  (s.stakeInfo.buybackRequested = true → env.minRent ≤ s.stakeSplitPda ∧
    s.stakeInfo.totalSolUsedForBuyback + (s.stakeSplitPda - env.minRent) ≤
      s.stakeInfo.totalSolRewardsAccrued)

theorem BudgetInv.of_growsRewards {env : Env} {s s' : ProgramState} (h : BudgetInv env s)
    (hg : GrowsRewards s s') : BudgetInv env s' := by
  obtain ⟨hsp, hu, hr, ha⟩ := hg
  refine ⟨fun h' => ?_, fun h' => ?_⟩
  · have := h.1 (hr ▸ h'); omega
  · have := h.2 (hr ▸ h'); rw [hsp, hu]; omega

theorem requestBuyback_budgetInv {env : Env} {now : Nat} {s s' : ProgramState}
    (h : requestBuyback env now s = .ok s') : BudgetInv env s' := by
  obtain ⟨si, -, -, -, -, hlt, -, rfl⟩ := requestBuyback_ok h
  exact ⟨nofun, fun _ => ⟨Nat.le_add_right _ _, by simp only; omega⟩⟩

theorem settleBuyback_budgetInv {env : Env} {pool : PoolView} {now : Nat} {s s' : ProgramState}
    (hi : BudgetInv env s) (h : settleBuyback env pool now s = .ok s') : BudgetInv env s' := by
  obtain ⟨fee, r, hreq, -, -, -, -, hfee, -, -, -, -, -, rfl⟩ := settleBuyback_ok h
  have := (hi.2 hreq).2
  exact ⟨fun _ => by simp only; omega, nofun⟩

def Event.creditsSplit : Event → Bool
  | .creditSplit _ => true
  | _ => false

theorem budgetInv_step {env : Env} {s : ProgramState} {e : Event} (h : BudgetInv env s)
    (he : e.creditsSplit = false) : BudgetInv env (step env s e) := by
  cases e with
  | instruction i =>
    refine commit_preserves h fun s' hx => ?_
    cases i with
    | buyback =>
      rcases (buyback_ok hx).2 with ⟨-, hs⟩ | ⟨-, hr⟩
      · exact settleBuyback_budgetInv h hs
      · exact requestBuyback_budgetInv hr
    | _ => exact h.of_growsRewards (Instruction.exec_growsRewards hx rfl)
  | creditStake => exact h
  | depositLxr v => cases v <;> exact h
  | creditSplit => cases he

def rewardedRequests : List Event :=
  [.creditStake 10000000000, .instruction (.manualPurchase 1 7 1000000000 1000000000 1),
    .instruction (.buyback 1 deployPool 2), .instruction (.buyback 1 deployPool 3),
    .instruction (.buyback 1 deployPool 4)]

/-- When nothing outside the program credits the pending split account, the buyback budget
`total_sol_rewards_accrued - total_sol_used_for_buyback` never goes negative, and a pending
request's split stays inside it. -/
theorem buyback_budget_without_split_credits {env : Env} {signer : Pubkey}
    {config : GlobalConfig} {split : Nat} {s₀ : ProgramState}
    (h₀ : initialiseConfigs env signer config 0 split = .ok s₀) (es : List Event)
    (hes : ∀ e ∈ es, e.creditsSplit = false) : BudgetInv env (run env s₀ es) := by
  obtain ⟨-, rfl⟩ := initialiseConfigs_ok h₀
  exact run_preserves (fun _ _ he h => budgetInv_step h he) ⟨fun _ => Nat.le_refl 0, nofun⟩ hes

theorem buyback_budget_without_split_credits_deploy :
    (∀ e ∈ rewardedRequests, e.creditsSplit = false) ∧
    BudgetInv deployEnv (run deployEnv (genesis deployEnv deployConfig 0) rewardedRequests) :=
  ⟨by decide, buyback_budget_without_split_credits deploy_initialises _ (by decide)⟩

def splitCredited : ProgramState :=
  run deployEnv firstRequest [.creditSplit 1000000000, .instruction (.buyback 1 deployPool 3)]

/-- Epoch rewards that the deactivating split account earns are sold and counted as used, but
were never counted as accrued: the used total passes the accrued one and the next request
panics in the budget's `checked_sub`. -/
theorem split_credit_overspends_budget :
    Reachable deployEnv splitCredited ∧
    splitCredited.stakeInfo.totalSolRewardsAccrued <
      splitCredited.stakeInfo.totalSolUsedForBuyback ∧
    buyback deployEnv 1 deployPool 4 splitCredited = .error .panic :=
  ⟨firstRequest_reachable.run _, by decide, rfl⟩

/-! ## The treasury fee is spent twice

A settlement counts only what it sold, `w - fee`, as used, so the fee it paid to the treasury is
budget again for the next request, which takes it out of the stake account. The lamports credited
to the split account while the request is pending are sold and counted as used too. -/

theorem settleBuyback_budget {env : Env} {pool : PoolView} {now : Nat} {s s' : ProgramState}
    (h : settleBuyback env pool now s = .ok s') :
    (s'.stakeInfo.totalSolRewardsAccrued : Int) - s'.stakeInfo.totalSolUsedForBuyback =
      (s.stakeInfo.totalSolRewardsAccrued : Int) - s.stakeInfo.totalSolUsedForBuyback -
        ((s.stakeSplitPda : Int) - env.minRent) +
        ((s'.solTreasuryVault : Int) - s.solTreasuryVault) := by
  obtain ⟨fee, r, -, -, hsplit, -, -, hfee, -, -, -, -, -, rfl⟩ := settleBuyback_ok h
  simp only
  omega

def Event.splitCredit : Event → Nat
  | .creditSplit c => c
  | _ => 0

def Event.splitCredits : List Event → Nat
  | [] => 0
  | e :: es => e.splitCredit + Event.splitCredits es

section
variable {env : Env} {s : ProgramState}

theorem step_splitUsed {e : Event} (he : e.callsBuyback = false) :
    (step env s e).stakeSplitPda + (step env s e).stakeInfo.totalSolUsedForBuyback =
      s.stakeSplitPda + s.stakeInfo.totalSolUsedForBuyback + e.splitCredit := by
  cases e with
  | instruction i =>
    refine @commit_preserves (fun s' => s'.stakeSplitPda + s'.stakeInfo.totalSolUsedForBuyback =
      s.stakeSplitPda + s.stakeInfo.totalSolUsedForBuyback + 0) s _ rfl fun _ hx => ?_
    obtain ⟨hsp, hu, -⟩ := Instruction.exec_growsRewards hx he
    rw [hsp, hu]
    rfl
  | creditSplit c => simp only [step, Event.splitCredit]; omega
  | creditStake => rfl
  | depositLxr v => cases v <;> rfl

theorem sumRun_splitCredit {es : List Event} :
    sumRun env (fun _ e => e.splitCredit) s es = Event.splitCredits es := by
  induction es generalizing s with
  | nil => rfl
  | cons e es ih => simp only [sumRun, Event.splitCredits, ih]

end

/-- After every settlement, the used total plus the fee the settlement paid to the treasury is
the accrued total its request left plus the lamports credited to the split account in between,
whatever else happened in between. The next request's budget is then the rewards realised since
the request, plus that fee, less those credits. -/
theorem budget_after_settlement {env : Env} {pool : PoolView} {now₀ now : Nat}
    {s₀ s₁ s' : ProgramState} {es : List Event} (hreq : requestBuyback env now₀ s₀ = .ok s₁)
    (hes : ∀ e ∈ es, e.callsBuyback = false)
    (hset : settleBuyback env pool now (run env s₁ es) = .ok s') :
    s'.stakeInfo.totalSolUsedForBuyback + (s'.solTreasuryVault - (run env s₁ es).solTreasuryVault) =
      s₁.stakeInfo.totalSolRewardsAccrued + Event.splitCredits es := by
  have hrun := @sumRun_potential env (fun _ e => e.splitCredit)
    (fun s => s.stakeSplitPda + s.stakeInfo.totalSolUsedForBuyback) _
    (fun _ _ he => step_splitUsed he) s₁ es hes
  rw [sumRun_splitCredit] at hrun
  obtain ⟨si, -, -, -, -, hlt, -, rfl⟩ := requestBuyback_ok hreq
  obtain ⟨fee, r, -, -, hsplit, -, -, hfee, -, -, -, -, -, hs'⟩ := settleBuyback_ok hset
  rw [hs']
  simp only at hrun ⊢
  omega

theorem budget_after_settlement_splitCredited :
    requestBuyback deployEnv 2 rewarded = .ok firstRequest ∧
    (∀ e ∈ [Event.creditSplit 1000000000], e.callsBuyback = false) ∧
    settleBuyback deployEnv deployPool 3 (run deployEnv firstRequest [.creditSplit 1000000000]) =
      .ok splitCredited ∧
    splitCredited.stakeInfo.totalSolUsedForBuyback = 10450000000 ∧
    splitCredited.stakeInfo.totalSolUsedForBuyback +
        (splitCredited.solTreasuryVault -
          (run deployEnv firstRequest [.creditSplit 1000000000]).solTreasuryVault) =
      firstRequest.stakeInfo.totalSolRewardsAccrued + Event.splitCredits [.creditSplit 1000000000] := by
  have hreq : requestBuyback deployEnv 2 rewarded = .ok firstRequest := rfl
  have hset : settleBuyback deployEnv deployPool 3
      (run deployEnv firstRequest [.creditSplit 1000000000]) = .ok splitCredited := rfl
  exact ⟨hreq, by decide, hset, by decide, budget_after_settlement hreq (by decide) hset⟩

def secondRequest : ProgramState :=
  step deployEnv firstSettlement (.instruction (.buyback 1 deployPool 4))

/-- The first request splits the ten SOL of rewards off, its settlement pays a 0.5 SOL fee, and
the second request splits the fee off again: the two splits exceed the rewards, and the stake
account drops below its initial balance plus the stake. -/
theorem buyback_splits_fee_from_principal :
    Reachable deployEnv secondRequest ∧
    secondRequest.stakeInfo.totalSolRewardsAccrued <
      (firstRequest.stakeSplitPda - deployEnv.minRent) +
        (secondRequest.stakeSplitPda - deployEnv.minRent) ∧
    secondRequest.stakeSplitPda - deployEnv.minRent = secondRequest.solTreasuryVault ∧
    secondRequest.stakePda <
      (genesis deployEnv deployConfig 0).stakePda + secondRequest.stakeInfo.totalStakedSol :=
  ⟨firstSettlement_reachable.step _, by decide, by decide, by decide⟩

/-! ## The stake account stays short of the stake by at most the fees

A request splits off what was realised as reward and not yet used, and that includes every
treasury fee an earlier settlement paid. Nothing else leaves the stake account but the admin's
emergency withdrawals, so the stake account plus the SOL treasury always hold the rent and the
whole stake: the principal a buyback takes is at most the fees the treasury received. -/

def Event.withdrawsSol : Event → Bool
  | .instruction (.emergencyWithdraw _ 1 _ _) => true
  | .instruction (.emergencyWithdraw _ 4 _ _) => true
  | _ => false

/-- The checkpoint is at most the balance, and the checkpoint with the treasury covers the rent
and the stake. Above that, the realised rewards are covered by the checkpoint, the used total, the
treasury and, while a request is pending, the split account's balance above rent. -/
structure StakeBacked (env : Env) (s : ProgramState) : Prop where
  checkpoint_le : s.stakeInfo.lastTrackedSolBalance ≤ s.stakePda
  principal : env.minRent + s.stakeInfo.totalStakedSol ≤
    s.stakeInfo.lastTrackedSolBalance + s.solTreasuryVault
  idle : s.stakeInfo.buybackRequested = false →
    env.minRent + s.stakeInfo.totalStakedSol + s.stakeInfo.totalSolRewardsAccrued ≤
      s.stakeInfo.lastTrackedSolBalance + s.stakeInfo.totalSolUsedForBuyback + s.solTreasuryVault
  pending : s.stakeInfo.buybackRequested = true →
    env.minRent + s.stakeInfo.totalStakedSol + s.stakeInfo.totalSolRewardsAccrued ≤
      s.stakeInfo.lastTrackedSolBalance + s.stakeInfo.totalSolUsedForBuyback +
        (s.stakeSplitPda - env.minRent) + s.solTreasuryVault

def StakesIn (s s' : ProgramState) : Prop :=
  ObservesSol s s' ∧ GrowsRewards s s' ∧ s.stakePda ≤ s'.stakePda ∧
  s'.stakeInfo.totalStakedSol + s.stakePda = s.stakeInfo.totalStakedSol + s'.stakePda ∧
  s'.solTreasuryVault = s.solTreasuryVault

section
variable {env : Env} {s s' : ProgramState}

theorem purchase_stakesIn {owner : Pubkey} {pool : PoolView} {lxr maxSol now : Nat}
    (h : purchase env owner pool lxr maxSol now s = .ok s') : StakesIn s s' := by
  refine ⟨purchase_observes_sol h, purchase_growsRewards h, ?_⟩
  obtain ⟨t, si₁, si₂, u, -, -, h₁, h₂, -, -, rfl⟩ := purchase_ok h
  obtain ⟨r, rfl, -⟩ := accrueSolRewards_ok h₁
  cases StakeInfo.recordPurchase_ok h₂
  exact ⟨Nat.le_add_right _ _, by simp only; omega, rfl⟩

theorem manualPurchase_stakesIn {signer user : Pubkey} {lxr sol now : Nat}
    (h : manualPurchase env signer user lxr sol now s = .ok s') : StakesIn s s' := by
  refine ⟨manualPurchase_observes_sol h, manualPurchase_growsRewards h, ?_⟩
  obtain ⟨si₁, si₂, u, -, h₁, h₂, -, rfl⟩ := manualPurchase_ok h
  cases observeSolRewards_ok h₁
  cases StakeInfo.recordManualPurchase_ok h₂
  exact ⟨Nat.le_add_right _ _, by simp only; omega, rfl⟩

theorem Instruction.exec_keepsTreasury {i : Instruction} (h : i.exec env s = .ok s')
    (hi : i.touchesStake = false) (hw : (Event.instruction i).withdrawsSol = false) :
    s'.solTreasuryVault = s.solTreasuryVault := by
  cases i with
  | redeem => obtain ⟨c, p, f, v, -, -, -, -, -, -, rfl⟩ := redeem_ok h; rfl
  | blacklist => obtain ⟨-, -, -, -, rfl⟩ := blacklist_ok h; rfl
  | updateConfig => obtain ⟨-, c, rfl⟩ := updateConfig_ok h; rfl
  | emergencyWithdraw signer param value v =>
    obtain ⟨-, ⟨-, rfl⟩ | ⟨rfl, -⟩ | ⟨-, -, s₁, h₁, rfl⟩ | ⟨-, rfl⟩ | ⟨rfl, -⟩⟩ :=
      emergencyWithdraw_ok h
    · cases v <;> rfl
    · cases hw
    · obtain ⟨-, rfl⟩ := payFromRewardVault_ok h₁
      cases v <;> rfl
    · rfl
    · cases hi
  | purchase | manualPurchase | buyback => cases hi

theorem StakeBacked.of_stakesIn (h : StakeBacked env s) (hi : StakesIn s s') :
    StakeBacked env s' := by
  obtain ⟨⟨hl, ha⟩, ⟨hsp, hu, hr, -⟩, hp, hS, hf⟩ := hi
  obtain ⟨h₁, h₂, h₃, h₄⟩ := h
  refine ⟨Nat.le_of_eq hl, ?_, fun hq => ?_, fun hq => ?_⟩
  · omega
  · have := h₃ (hr ▸ hq); omega
  · have := h₄ (hr ▸ hq); omega

theorem StakeBacked.of_keepsStake (h : StakeBacked env s) (hk : KeepsStake s s')
    (hf : s'.solTreasuryVault = s.solTreasuryVault) : StakeBacked env s' := by
  obtain ⟨hp, hsp, hl, ha, hu, hr, hS, -⟩ := hk
  obtain ⟨h₁, h₂, h₃, h₄⟩ := h
  constructor <;> simp only [hp, hsp, hl, ha, hu, hr, hS, hf] <;> assumption

theorem StakeBacked.requestBuyback {now : Nat} (h : StakeBacked env s)
    (hr : requestBuyback env now s = .ok s') : StakeBacked env s' := by
  obtain ⟨si, hq, -, -, h₁, hlt, hle, rfl⟩ := requestBuyback_ok hr
  obtain ⟨r, rfl, -⟩ := accrueSolRewards_ok h₁
  have := h.idle hq
  have := h.checkpoint_le
  simp only at hlt hle
  exact ⟨Nat.le_refl _, by simp only; omega, nofun, fun _ => by simp only; omega⟩

theorem StakeBacked.settleBuyback {pool : PoolView} {now : Nat} (h : StakeBacked env s)
    (hs : settleBuyback env pool now s = .ok s') : StakeBacked env s' := by
  obtain ⟨fee, r, hq, -, -, -, -, hfee, -, -, -, -, -, rfl⟩ := settleBuyback_ok hs
  have := h.pending hq
  have := h.principal
  exact ⟨h.checkpoint_le, by simp only; omega, fun _ => by simp only; omega, nofun⟩

theorem stakeBacked_step {e : Event} (h : StakeBacked env s) (he : e.withdrawsSol = false) :
    StakeBacked env (step env s e) := by
  cases e with
  | instruction i =>
    refine commit_preserves h fun s' hx => ?_
    cases i with
    | purchase => exact h.of_stakesIn (purchase_stakesIn hx)
    | manualPurchase => exact h.of_stakesIn (manualPurchase_stakesIn hx)
    | buyback signer pool now =>
      rcases (buyback_ok hx).2 with ⟨-, hs⟩ | ⟨-, hr⟩
      · exact h.settleBuyback hs
      · exact h.requestBuyback hr
    | emergencyWithdraw signer param value v =>
      have hi : (Instruction.emergencyWithdraw signer param value v).touchesStake = false := by
        rcases Nat.decEq param 4 with hp | rfl
        · simpa [Instruction.touchesStake] using hp
        · cases he
      exact h.of_keepsStake (Instruction.exec_keepsStake hx hi)
        (Instruction.exec_keepsTreasury hx hi he)
    | redeem | blacklist | updateConfig =>
      exact h.of_keepsStake (Instruction.exec_keepsStake hx rfl)
        (Instruction.exec_keepsTreasury hx rfl he)
  | creditStake c => exact ⟨Nat.le_add_right_of_le h.1, h.2, h.3, h.4⟩
  | creditSplit c => exact ⟨h.1, h.2, h.3, fun hq => by have := h.4 hq; simp only [step]; omega⟩
  | depositLxr v a => cases v <;> exact ⟨h.1, h.2, h.3, h.4⟩

end

/-- From initialisation, along every run in which the admin takes no SOL out by
`emergency_withdraw` (param 1 or 4), whatever else happens (purchases, buybacks, lamports sent to
either stake account), the stake account and the SOL treasury together hold at least the rent plus
`total_staked_sol`: buybacks split off staked principal, but never more than the treasury fees. -/
theorem stake_shortfall_within_treasury {env : Env} {signer : Pubkey} {config : GlobalConfig}
    {split : Nat} {s₀ : ProgramState} (h₀ : initialiseConfigs env signer config 0 split = .ok s₀)
    (es : List Event) (hes : ∀ e ∈ es, e.withdrawsSol = false) :
    env.minRent + (run env s₀ es).stakeInfo.totalStakedSol ≤
      (run env s₀ es).stakePda + (run env s₀ es).solTreasuryVault := by
  obtain ⟨-, rfl⟩ := initialiseConfigs_ok h₀
  have h := run_preserves (fun _ _ he h => stakeBacked_step h he)
    (⟨Nat.le_refl _, Nat.le_refl _, fun _ => Nat.le_refl _, nofun⟩ :
      StakeBacked env (genesis env config split)) hes
  exact Nat.le_trans h.principal (Nat.add_le_add_right h.checkpoint_le _)

theorem stake_shortfall_within_treasury_deploy :
    (∀ e ∈ rewardedRequests, e.withdrawsSol = false) ∧
    (run deployEnv (genesis deployEnv deployConfig 0) rewardedRequests).stakePda <
      deployEnv.minRent +
        (run deployEnv (genesis deployEnv deployConfig 0) rewardedRequests).stakeInfo.totalStakedSol ∧
    deployEnv.minRent +
        (run deployEnv (genesis deployEnv deployConfig 0) rewardedRequests).stakeInfo.totalStakedSol ≤
      (run deployEnv (genesis deployEnv deployConfig 0) rewardedRequests).stakePda +
        (run deployEnv (genesis deployEnv deployConfig 0) rewardedRequests).solTreasuryVault :=
  ⟨by decide, by decide, stake_shortfall_within_treasury deploy_initialises _ (by decide)⟩

/-! ## Lamports at the next split address block every request

A request creates the split account with the system program's `create_account`, which refuses an
address that already holds lamports. The address is derived from `buyback_count`, so anyone can
send lamports to the next one while no request is pending; nothing in the program moves them. -/

/-- No request is pending and the next split address holds lamports. -/
def SplitBlocked (s : ProgramState) : Prop :=
  s.stakeInfo.buybackRequested = false ∧ 0 < s.stakeSplitPda

theorem SplitBlocked.buyback_ne_ok {env : Env} {signer : Pubkey} {pool : PoolView} {now : Nat}
    {s s' : ProgramState} (h : SplitBlocked s) : buyback env signer pool now s ≠ .ok s' := by
  intro hb
  rcases (buyback_ok hb).2 with ⟨hreq, -⟩ | ⟨-, hr⟩
  · rw [h.1] at hreq
    cases hreq
  · obtain ⟨si, -, -, hsplit, -⟩ := requestBuyback_ok hr
    exact Nat.ne_of_gt h.2 hsplit

theorem SplitBlocked.of_growsRewards {s s' : ProgramState} (h : SplitBlocked s)
    (hg : GrowsRewards s s') : SplitBlocked s' :=
  ⟨hg.2.2.1 ▸ h.1, hg.1 ▸ h.2⟩

theorem splitBlocked_step {env : Env} {s : ProgramState} (h : SplitBlocked s) (e : Event) :
    SplitBlocked (step env s e) := by
  cases e with
  | instruction i =>
    refine commit_preserves h fun s' hx => ?_
    cases i with
    | buyback => exact absurd hx h.buyback_ne_ok
    | _ => exact h.of_growsRewards (Instruction.exec_growsRewards hx rfl)
  | creditSplit c => exact ⟨h.1, Nat.lt_of_lt_of_le h.2 (Nat.le_add_right _ _)⟩
  | creditStake => exact h
  | depositLxr v => cases v <;> exact h

/-- Once the next split address holds lamports while no request is pending, no run ever starts a
buyback again: no request is ever pending and every `buyback` fails. -/
theorem prefunded_split_blocks_buyback {env : Env} {s : ProgramState}
    (hreq : s.stakeInfo.buybackRequested = false) (hsplit : 0 < s.stakeSplitPda) (es : List Event)
    (signer : Pubkey) (pool : PoolView) (now : Nat) :
    (run env s es).stakeInfo.buybackRequested = false ∧
    ∃ e, buyback env signer pool now (run env s es) = .error e := by
  have h : SplitBlocked (run env s es) :=
    @run_preserves env SplitBlocked (fun _ => True) (fun _ e _ h => splitBlocked_step h e) s es
      ⟨hreq, hsplit⟩ fun _ _ => trivial
  refine ⟨h.1, ?_⟩
  cases hb : buyback env signer pool now (run env s es) with
  | error e => exact ⟨e, rfl⟩
  | ok s' => exact absurd hb h.buyback_ne_ok

def splitPrefunded : ProgramState := step deployEnv firstSettlement (.creditSplit 1)

theorem prefunded_split_blocks_buyback_deploy :
    Reachable deployEnv splitPrefunded ∧
    splitPrefunded.stakeInfo.buybackRequested = false ∧ 0 < splitPrefunded.stakeSplitPda ∧
    (run deployEnv splitPrefunded [.creditStake 10000000000]).stakeInfo.buybackRequested = false ∧
    ∃ e, buyback deployEnv 1 deployPool 5 (run deployEnv splitPrefunded [.creditStake 10000000000])
      = .error e :=
  ⟨firstSettlement_reachable.step _, rfl, by decide,
    prefunded_split_blocks_buyback rfl (by decide) [.creditStake 10000000000] 1 deployPool 5⟩

/-! ## A request for one lamport never settles

A settlement pays the treasury `fee = w * fee_treasury_rate / FEE_RATE_DENOMINATOR_VALUE` out of
the split account's balance above rent `w`, and requires both `0 < fee` and `0 < w - fee`. No
rate meets both when `w` is at most one lamport, and no instruction cancels a pending request or
moves the split account's lamports: only lamports sent to the split account from outside let the
buyback go on. A request splits the whole budget off, so a budget of one lamport (one lamport of
rewards) gets here. -/

/-- A request is pending whose split account holds at most one lamport above rent. -/
def SettleBlocked (env : Env) (s : ProgramState) : Prop :=
  s.stakeInfo.buybackRequested = true ∧ s.stakeSplitPda ≤ env.minRent + 1

section
variable {env : Env} {s s' : ProgramState}

theorem SettleBlocked.buyback_ne_ok {signer : Pubkey} {pool : PoolView} {now : Nat}
    (h : SettleBlocked env s) : buyback env signer pool now s ≠ .ok s' := by
  intro hb
  rcases (buyback_ok hb).2 with ⟨-, hs⟩ | ⟨hreq, -⟩
  · obtain ⟨fee, r, -, -, -, -, hfee, hlt, -⟩ := settleBuyback_ok hs
    have := h.2
    omega
  · rw [h.1] at hreq
    cases hreq

theorem SettleBlocked.of_growsRewards (h : SettleBlocked env s) (hg : GrowsRewards s s') :
    SettleBlocked env s' :=
  ⟨hg.2.2.1 ▸ h.1, hg.1 ▸ h.2⟩

theorem settleBlocked_step (h : SettleBlocked env s) {e : Event} (he : e.creditsSplit = false) :
    SettleBlocked env (step env s e) := by
  cases e with
  | instruction i =>
    refine commit_preserves h fun s' hx => ?_
    cases i with
    | buyback => exact absurd hx h.buyback_ne_ok
    | _ => exact h.of_growsRewards (Instruction.exec_growsRewards hx rfl)
  | creditSplit => cases he
  | creditStake => exact h
  | depositLxr v => cases v <;> exact h

end

/-- Once a pending request's split account holds at most one lamport above rent, every run that
sends no lamports to the split account keeps the request pending, and every `buyback` fails,
whatever the admin sets `fee_treasury_rate` to. -/
theorem one_lamport_request_never_settles {env : Env} {s : ProgramState}
    (hreq : s.stakeInfo.buybackRequested = true) (hsplit : s.stakeSplitPda ≤ env.minRent + 1)
    (es : List Event) (hes : ∀ e ∈ es, e.creditsSplit = false) (signer : Pubkey) (pool : PoolView)
    (now : Nat) :
    (run env s es).stakeInfo.buybackRequested = true ∧
    ∃ e, buyback env signer pool now (run env s es) = .error e := by
  have h : SettleBlocked env (run env s es) :=
    @run_preserves env (SettleBlocked env) _ (fun _ _ he h => settleBlocked_step h he) s es
      ⟨hreq, hsplit⟩ hes
  refine ⟨h.1, ?_⟩
  cases hb : buyback env signer pool now (run env s es) with
  | error e => exact ⟨e, rfl⟩
  | ok s' => exact absurd hb h.buyback_ne_ok

def dustRequest : ProgramState :=
  run deployEnv (genesis deployEnv deployConfig 0)
    [.instruction (.manualPurchase 1 7 1000000000 1000000000 1), .creditStake 1,
     .instruction (.buyback 1 deployPool 2)]

def dustRetry : List Event :=
  [.instruction (.updateConfig 1 3 999999 none), .instruction (.buyback 1 deployPool 3)]

theorem one_lamport_request_never_settles_dust :
    Reachable deployEnv dustRequest ∧
    dustRequest.stakeInfo.buybackRequested = true ∧
    dustRequest.stakeSplitPda ≤ deployEnv.minRent + 1 ∧
    (∀ e ∈ dustRetry, e.creditsSplit = false) ∧
    (run deployEnv dustRequest dustRetry).stakeInfo.buybackRequested = true ∧
    ∃ e, buyback deployEnv 1 deployPool 4 (run deployEnv dustRequest dustRetry) = .error e :=
  ⟨(Reachable.init deploy_initialises).run _, rfl, by decide, by decide,
    one_lamport_request_never_settles rfl (by decide) dustRetry (by decide) 1 deployPool 4⟩

end LuxorSwap
