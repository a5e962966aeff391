import LuxorSwap.PurchasePrice

/-! # The pricing terms over a run

`update_config` writes one field per `param` and has none for `bonus_rate` or
`initial_lxr_allocation_vault`, and no other instruction writes the configuration: those two keep
the values `initialise_configs` gave them. The bonus ceiling `max_stake_count_to_get_bonus` is
`param` 6. Each successful `purchase` adds one to `total_stake_count` and nothing else moves it,
so while nobody sets `param` 6 at most `max_stake_count_to_get_bonus - total_stake_count` more
purchases are priced with the bonus.

Nothing bounds `bonus_rate`: at `FEE_RATE_DENOMINATOR_VALUE` (100%) the discount is the whole price,
and each bonus-tier purchase hands out LXR for no SOL and no stake, for as long as the program runs.
-/

namespace LuxorSwap

def Event.setsBonusCeiling : Event → Bool
  | .instruction (.updateConfig _ param _ _) => param == 6
  | _ => false

def Instruction.isPurchase : Instruction → Bool
  | .purchase .. => true
  | _ => false

theorem GlobalConfig.update_pricing {c c' : GlobalConfig} {param value : Nat}
    {newAdmin : Option Pubkey} (h : c.update param value newAdmin = .ok c') :
    c'.bonusRate = c.bonusRate ∧ c'.initialLxrAllocationVault = c.initialLxrAllocationVault ∧
    (param ≠ 6 → c'.maxStakeCountToGetBonus = c.maxStakeCountToGetBonus) := by
  unfold GlobalConfig.update at h
  split at h
  · simp only [bind_eq_ok, okOr_eq_ok, require_eq_ok, pure_eq_ok] at h
    obtain ⟨_, -, -, -, rfl⟩ := h
    exact ⟨rfl, rfl, fun _ => rfl⟩
  all_goals cases h
  all_goals first
    | exact ⟨rfl, rfl, fun _ => rfl⟩
    | exact ⟨rfl, rfl, fun hp => absurd rfl hp⟩

section
variable {env : Env} {s s' : ProgramState}

theorem Instruction.exec_pricing {i : Instruction} (h : i.exec env s = .ok s') :
    s'.globalConfig.bonusRate = s.globalConfig.bonusRate ∧
    s'.globalConfig.initialLxrAllocationVault = s.globalConfig.initialLxrAllocationVault ∧
    ((Event.instruction i).setsBonusCeiling = false →
      s'.globalConfig.maxStakeCountToGetBonus = s.globalConfig.maxStakeCountToGetBonus) ∧
    s'.stakeInfo.totalStakeCount = s.stakeInfo.totalStakeCount + (if i.isPurchase then 1 else 0) := by
  cases i with
  | purchase =>
    obtain ⟨t, si₁, si₂, u, -, -, h₁, h₂, -, -, rfl⟩ := purchase_ok h
    obtain ⟨r, rfl, -⟩ := accrueSolRewards_ok h₁
    cases StakeInfo.recordPurchase_ok h₂
    exact ⟨rfl, rfl, fun _ => rfl, rfl⟩
  | manualPurchase =>
    obtain ⟨si₁, si₂, u, -, h₁, h₂, -, rfl⟩ := manualPurchase_ok h
    cases observeSolRewards_ok h₁
    cases StakeInfo.recordManualPurchase_ok h₂
    exact ⟨rfl, rfl, fun _ => rfl, rfl⟩
  | redeem =>
    obtain ⟨c, p, f, v, -, -, -, -, -, -, rfl⟩ := redeem_ok h
    exact ⟨rfl, rfl, fun _ => rfl, rfl⟩
  | blacklist =>
    obtain ⟨-, -, -, -, rfl⟩ := blacklist_ok h
    exact ⟨rfl, rfl, fun _ => rfl, rfl⟩
  | updateConfig _ param =>
    simp only [Instruction.exec, LuxorSwap.updateConfig, bind_eq_ok, require_eq_ok, pure_eq_ok] at h
    obtain ⟨-, -, c, hc, rfl⟩ := h
    obtain ⟨hb, hi, hm⟩ := GlobalConfig.update_pricing hc
    refine ⟨hb, hi, fun he => hm fun hp => ?_, rfl⟩
    simp only [Event.setsBonusCeiling, hp, beq_self_eq_true, Bool.true_eq_false] at he
  | buyback =>
    rcases (buyback_ok h).2 with ⟨-, h⟩ | ⟨-, h⟩
    · obtain ⟨fee, r, -, -, -, -, -, -, -, -, -, -, -, rfl⟩ := settleBuyback_ok h
      exact ⟨rfl, rfl, fun _ => rfl, rfl⟩
    · obtain ⟨si, -, -, -, h₁, -, -, rfl⟩ := requestBuyback_ok h
      obtain ⟨r, rfl, -⟩ := accrueSolRewards_ok h₁
      exact ⟨rfl, rfl, fun _ => rfl, rfl⟩
  | emergencyWithdraw _ _ _ v =>
    obtain ⟨-, ⟨-, rfl⟩ | ⟨-, rfl⟩ | ⟨-, -, s₁, h₁, rfl⟩ | ⟨-, rfl⟩ | ⟨-, -, rfl⟩⟩ :=
      emergencyWithdraw_ok h
    · cases v <;> exact ⟨rfl, rfl, fun _ => rfl, rfl⟩
    · exact ⟨rfl, rfl, fun _ => rfl, rfl⟩
    · obtain ⟨-, rfl⟩ := payFromRewardVault_ok h₁
      cases v <;> exact ⟨rfl, rfl, fun _ => rfl, rfl⟩
    · exact ⟨rfl, rfl, fun _ => rfl, rfl⟩
    · exact ⟨rfl, rfl, fun _ => rfl, rfl⟩

theorem step_bonusTerms (e : Event) :
    (step env s e).globalConfig.bonusRate = s.globalConfig.bonusRate ∧
    (step env s e).globalConfig.initialLxrAllocationVault =
      s.globalConfig.initialLxrAllocationVault := by
  cases e with
  | instruction i =>
    exact @commit_preserves (fun s' => s'.globalConfig.bonusRate = s.globalConfig.bonusRate ∧
        s'.globalConfig.initialLxrAllocationVault = s.globalConfig.initialLxrAllocationVault)
      s _ ⟨rfl, rfl⟩ fun _ hx => ⟨(Instruction.exec_pricing hx).1, (Instruction.exec_pricing hx).2.1⟩
  | creditStake | creditSplit => exact ⟨rfl, rfl⟩
  | depositLxr v => cases v <;> exact ⟨rfl, rfl⟩

end

/-! ## The terms `initialise_configs` fixes -/

/-- From initialisation, every run keeps `bonus_rate` and `initial_lxr_allocation_vault` at the
values `initialise_configs` was given: not even the admin can change them. -/
theorem bonus_terms_fixed_at_initialisation {env : Env} {signer : Pubkey} {config : GlobalConfig}
    {split : Nat} {s₀ : ProgramState} (h₀ : initialiseConfigs env signer config 0 split = .ok s₀)
    (es : List Event) :
    (run env s₀ es).globalConfig.bonusRate = config.bonusRate ∧
    (run env s₀ es).globalConfig.initialLxrAllocationVault = config.initialLxrAllocationVault := by
  obtain ⟨-, rfl⟩ := initialiseConfigs_ok h₀
  exact @run_preserves env (fun s => s.globalConfig.bonusRate = config.bonusRate ∧
      s.globalConfig.initialLxrAllocationVault = config.initialLxrAllocationVault)
    (fun _ => True) (fun _ e _ hs => ⟨(step_bonusTerms e).1.trans hs.1, (step_bonusTerms e).2.trans hs.2⟩)
    _ es ⟨rfl, rfl⟩ fun _ _ => trivial

def everyParam : List Event :=
  [.instruction (.updateConfig 1 0 0 (some 9)), .instruction (.updateConfig 9 1 5 none),
   .instruction (.updateConfig 9 2 500 none), .instruction (.updateConfig 9 3 7 none),
   .instruction (.updateConfig 9 4 0 none), .instruction (.updateConfig 9 5 0 none),
   .instruction (.updateConfig 9 6 0 none), .instruction (.updateConfig 9 7 1 none)]

theorem bonus_terms_fixed_at_initialisation_everyParam :
    initialiseConfigs deployEnv 1 deployConfig 0 0 = .ok (genesis deployEnv deployConfig 0) ∧
    (run deployEnv (genesis deployEnv deployConfig 0) everyParam).globalConfig.bonusRate =
      deployConfig.bonusRate ∧
    (run deployEnv (genesis deployEnv deployConfig 0) everyParam).globalConfig.initialLxrAllocationVault =
      deployConfig.initialLxrAllocationVault :=
  ⟨deploy_initialises, bonus_terms_fixed_at_initialisation deploy_initialises everyParam⟩

/-! ## Purchases priced with the bonus -/

def Event.bonusPurchase (env : Env) (s : ProgramState) : Event → Bool
  | .instruction (.purchase owner pool lxr maxSol now) =>
    (purchase env owner pool lxr maxSol now s).isOk &&
      decide (s.stakeInfo.totalStakeCount + 1 ≤ s.globalConfig.maxStakeCountToGetBonus)
  | _ => false

def bonusPurchases (env : Env) (s : ProgramState) (es : List Event) : Nat :=
  sumRun env (fun s e => if e.bonusPurchase env s then 1 else 0) s es

section
variable {env : Env} {s : ProgramState}

theorem Event.bonusPurchase_true {e : Event} (h : e.bonusPurchase env s = true) :
    ∃ i s', e = .instruction i ∧ i.isPurchase = true ∧ i.exec env s = .ok s' ∧
      s.stakeInfo.totalStakeCount + 1 ≤ s.globalConfig.maxStakeCountToGetBonus := by
  cases e with
  | instruction i =>
    cases i with
    | purchase owner pool lxr maxSol now =>
      simp only [Event.bonusPurchase, Bool.and_eq_true, decide_eq_true_eq] at h
      cases hx : purchase env owner pool lxr maxSol now s with
      | error => rw [hx] at h; exact absurd h.1 Bool.false_ne_true
      | ok s' => exact ⟨_, s', rfl, rfl, hx, h.2⟩
    | _ => cases h
  | _ => cases h

theorem step_bonusCount (e : Event) :
    s.stakeInfo.totalStakeCount ≤ (step env s e).stakeInfo.totalStakeCount ∧
    (e.bonusPurchase env s = true →
      (step env s e).stakeInfo.totalStakeCount = s.stakeInfo.totalStakeCount + 1 ∧
      s.stakeInfo.totalStakeCount + 1 ≤ s.globalConfig.maxStakeCountToGetBonus) ∧
    (e.setsBonusCeiling = false →
      (step env s e).globalConfig.maxStakeCountToGetBonus =
        s.globalConfig.maxStakeCountToGetBonus) := by
  refine ⟨?_, fun hb => ?_, fun he => ?_⟩
  · cases e with
    | instruction i =>
      exact @commit_preserves (fun s' => s.stakeInfo.totalStakeCount ≤ s'.stakeInfo.totalStakeCount)
        s _ le_rfl fun _ hx => by
          dsimp only
          rw [(Instruction.exec_pricing hx).2.2.2]
          exact Nat.le_add_right _ _
    | creditStake | creditSplit => exact le_rfl
    | depositLxr v => cases v <;> exact le_rfl
  · obtain ⟨i, s', rfl, hp, hx, hle⟩ := Event.bonusPurchase_true hb
    refine ⟨?_, hle⟩
    simp only [step, hx, commit, (Instruction.exec_pricing hx).2.2.2, hp, if_true]
  · cases e with
    | instruction i =>
      exact @commit_preserves (fun s' => s'.globalConfig.maxStakeCountToGetBonus =
          s.globalConfig.maxStakeCountToGetBonus) s _ rfl fun _ hx =>
        (Instruction.exec_pricing hx).2.2.1 he
    | creditStake | creditSplit => rfl
    | depositLxr v => cases v <;> rfl

end

/-- Along every run in which nobody sets the bonus ceiling, at most
`max_stake_count_to_get_bonus - total_stake_count` purchases are priced with the bonus. -/
theorem bonus_purchases_within_ceiling {env : Env} (s : ProgramState) (es : List Event)
    (hes : ∀ e ∈ es, e.setsBonusCeiling = false) :
    bonusPurchases env s es ≤
      s.globalConfig.maxStakeCountToGetBonus - s.stakeInfo.totalStakeCount := by
  /- The purchases still open to the bonus fall by one at each bonus purchase. -/
  refine Nat.le_of_add_right_le (@sumRun_le_potential env _
    (fun s => s.globalConfig.maxStakeCountToGetBonus - s.stakeInfo.totalStakeCount) _
    (fun s e he => ?_) s es hes)
  obtain ⟨hle, hbonus, hceil⟩ := @step_bonusCount env s e
  dsimp only
  rw [hceil he]
  split
  · have := hbonus ‹_›
    omega
  · omega

def ceilingOne : ProgramState := step deployEnv treasuryFunded (.instruction (.updateConfig 1 6 1 none))

def twoBuyers : List Event :=
  [.instruction (.purchase 2 deployPool 1000 1000000 1), .instruction (.purchase 3 deployPool 1000 1000000 2)]

theorem bonus_purchases_within_ceiling_one :
    (∀ e ∈ twoBuyers, e.setsBonusCeiling = false) ∧
    bonusPurchases deployEnv ceilingOne twoBuyers ≤
      ceilingOne.globalConfig.maxStakeCountToGetBonus - ceilingOne.stakeInfo.totalStakeCount :=
  ⟨by decide, bonus_purchases_within_ceiling ceilingOne twoBuyers (by decide)⟩

/-! ## A bonus rate of 100% -/

/-- With `bonus_rate = FEE_RATE_DENOMINATOR_VALUE`, every successful purchase in the bonus tier
takes its LXR out of the treasury and nothing into the stake account: the buyer's record gains the
LXR in `base_lxr_holdings` and no stake. -/
theorem full_bonus_purchase_is_free {env : Env} {owner : Pubkey} {pool : PoolView}
    {lxr maxSol now : Nat} {s s' : ProgramState}
    (hrate : s.globalConfig.bonusRate = feeRateDenominatorValue)
    (htier : s.stakeInfo.totalStakeCount + 1 ≤ s.globalConfig.maxStakeCountToGetBonus)
    (h : purchase env owner pool lxr maxSol now s = .ok s') :
    s'.stakePda = s.stakePda ∧ s'.luxorVault + lxr = s.luxorVault ∧
    (s'.userStakeInfo owner).totalStakedSol = (s.userStakeInfo owner).totalStakedSol ∧
    (s'.userStakeInfo owner).baseLxrHoldings = (s.userStakeInfo owner).baseLxrHoldings + lxr := by
  obtain ⟨t, si₁, si₂, u, ht, -, -, -, hu, hv, rfl⟩ := purchase_ok h
  /- The discount `t * bonus_rate / FEE_RATE_DENOMINATOR_VALUE` is `t` itself. -/
  have ht₀ : t = 0 := by
    obtain ⟨r, -, -, -, -, ⟨-, rfl⟩ | ⟨hb, -⟩⟩ := purchasePrice_ok ht
    · rw [hrate, Nat.mul_div_cancel _ feeRateDenominatorValue_pos, Nat.sub_self]
    · omega
  subst ht₀
  cases UserStakeInfo.recordPurchase_ok hu
  refine ⟨rfl, Nat.sub_add_cancel hv, ?_, ?_⟩ <;> simp only [Function.update_same, Nat.add_zero]

def freeTreasury : ProgramState :=
  run deployEnv (genesis deployEnv { deployConfig with bonusRate := 1000000 } 0)
    [.depositLxr .treasury 1000000000000000, .instruction (.manualPurchase 1 9 1 1000000000 0)]

def freeBought : ProgramState :=
  step deployEnv freeTreasury (.instruction (.purchase 2 deployPool 1000000000 0 1))

theorem full_bonus_purchase_is_free_deploy :
    freeTreasury.globalConfig.bonusRate = feeRateDenominatorValue ∧
    freeTreasury.stakeInfo.totalStakeCount + 1 ≤ freeTreasury.globalConfig.maxStakeCountToGetBonus ∧
    purchase deployEnv 2 deployPool 1000000000 0 1 freeTreasury = .ok freeBought ∧
    freeBought.stakePda = freeTreasury.stakePda ∧
    freeBought.luxorVault + 1000000000 = freeTreasury.luxorVault ∧
    (freeBought.userStakeInfo 2).totalStakedSol = (freeTreasury.userStakeInfo 2).totalStakedSol ∧
    (freeBought.userStakeInfo 2).baseLxrHoldings =
      (freeTreasury.userStakeInfo 2).baseLxrHoldings + 1000000000 := by
  have h : purchase deployEnv 2 deployPool 1000000000 0 1 freeTreasury = .ok freeBought := rfl
  exact ⟨rfl, by decide, h, full_bonus_purchase_is_free rfl (by decide) h⟩

end LuxorSwap
