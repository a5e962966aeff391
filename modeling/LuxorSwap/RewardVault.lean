import LuxorSwap.Machine

/-! # The reward vault's books

`stake_info` counts the LXR the settlements buy into the reward vault
(`total_luxor_rewards_accrued`) and the LXR `redeem` sends out of it, to the owner
(`total_lxr_claimed`) or to the treasury (`total_lxr_forfeited`). Two other things move the
vault: LXR sent to it from outside, and the admin's `emergency_withdraw` with `param` 0 (drain)
or 2 (the admin record's pending LXR). Without them the vault holds exactly what the counters
say: what was bought, less what was claimed and forfeited.
-/

namespace LuxorSwap

/-- The LXR in the reward vault together with what `redeem` has sent out of it. -/
def rewardVaultBooks (s : ProgramState) : Nat :=
  s.luxorRewardVault + s.stakeInfo.totalLxrClaimed + s.stakeInfo.totalLxrForfeited

def KeepsBooks (s s' : ProgramState) : Prop :=
  rewardVaultBooks s' + s.stakeInfo.totalLuxorRewardsAccrued =
    rewardVaultBooks s + s'.stakeInfo.totalLuxorRewardsAccrued

def BooksBalance (s : ProgramState) : Prop :=
  rewardVaultBooks s = s.stakeInfo.totalLuxorRewardsAccrued

def Event.movesRewardVault : Event → Bool
  | .depositLxr .reward _ => true
  | .instruction (.emergencyWithdraw _ param _ _) => param == 0 || param == 2
  | _ => false

theorem KeepsBooks.balance {s s' : ProgramState} (h : KeepsBooks s s') (hs : BooksBalance s) :
    BooksBalance s' := by
  unfold KeepsBooks at h
  unfold BooksBalance at hs ⊢
  omega

theorem genesis_booksBalance (env : Env) (config : GlobalConfig) (split : Nat) :
    BooksBalance (genesis env config split) := rfl

/-! ## Each instruction keeps the books -/

section Steps

variable {env : Env} {s s' : ProgramState}

theorem redeem_keepsBooks {owner : Pubkey} {amount : Nat} (h : redeem owner amount s = .ok s') :
    KeepsBooks s s' := by
  obtain ⟨c, p, f, v, -, -, -, -, -, hv, rfl⟩ := redeem_ok h
  unfold KeepsBooks rewardVaultBooks
  simp only
  omega

theorem settleBuyback_keepsBooks {pool : PoolView} {now : Nat}
    (h : settleBuyback env pool now s = .ok s') : KeepsBooks s s' := by
  obtain ⟨fee, r, -, -, -, -, -, -, -, -, -, -, -, rfl⟩ := settleBuyback_ok h
  unfold KeepsBooks rewardVaultBooks
  simp only
  omega

theorem buyback_keepsBooks {signer : Pubkey} {pool : PoolView} {now : Nat}
    (h : buyback env signer pool now s = .ok s') : KeepsBooks s s' := by
  rcases (buyback_ok h).2 with ⟨-, h⟩ | ⟨-, h⟩
  · exact settleBuyback_keepsBooks h
  · obtain ⟨si, -, -, -, h₁, -, -, rfl⟩ := requestBuyback_ok h
    obtain ⟨r, rfl, -⟩ := accrueSolRewards_ok h₁
    rfl

theorem Instruction.exec_keepsBooks {i : Instruction}
    (hi : (Event.instruction i).movesRewardVault = false) (h : i.exec env s = .ok s') :
    KeepsBooks s s' := by
  cases i with
  | purchase =>
    obtain ⟨t, si₁, si₂, u, -, -, h₁, h₂, -, -, rfl⟩ := purchase_ok h
    obtain ⟨r, rfl, -⟩ := accrueSolRewards_ok h₁
    cases StakeInfo.recordPurchase_ok h₂
    rfl
  | manualPurchase =>
    obtain ⟨si₁, si₂, u, -, h₁, h₂, -, rfl⟩ := manualPurchase_ok h
    cases observeSolRewards_ok h₁
    cases StakeInfo.recordManualPurchase_ok h₂
    rfl
  | redeem => exact redeem_keepsBooks h
  | blacklist =>
    obtain ⟨-, -, -, -, rfl⟩ := blacklist_ok h
    rfl
  | updateConfig =>
    obtain ⟨-, c, rfl⟩ := updateConfig_ok h
    rfl
  | buyback => exact buyback_keepsBooks h
  | emergencyWithdraw _ param =>
    simp only [Event.movesRewardVault, Bool.or_eq_false_iff, beq_eq_false_iff_ne] at hi
    obtain ⟨-, ⟨h0, -⟩ | ⟨-, rfl⟩ | ⟨h2, -⟩ | ⟨-, rfl⟩ | ⟨-, -, rfl⟩⟩ := emergencyWithdraw_ok h
    · exact absurd h0 hi.1
    · rfl
    · exact absurd h2 hi.2
    · rfl
    · rfl

theorem step_keepsBooks {e : Event} (he : e.movesRewardVault = false) :
    KeepsBooks s (step env s e) := by
  cases e with
  | instruction i =>
    exact @commit_preserves (KeepsBooks s) s _ rfl fun _ h => Instruction.exec_keepsBooks he h
  | creditStake | creditSplit => rfl
  | depositLxr v =>
    cases v
    · rfl
    · cases he

end Steps

/-- From initialisation, along any run in which no LXR is sent to the reward vault from outside
and the admin makes no LXR emergency withdrawal, the reward vault holds exactly the LXR the
settlements bought, less what `redeem` paid to owners and forfeited to the treasury. -/
theorem reward_vault_matches_counters {env : Env} {signer : Pubkey} {config : GlobalConfig}
    {split : Nat} {s₀ : ProgramState} (h₀ : initialiseConfigs env signer config 0 split = .ok s₀)
    (es : List Event) (hes : ∀ e ∈ es, e.movesRewardVault = false) :
    (run env s₀ es).luxorRewardVault + (run env s₀ es).stakeInfo.totalLxrClaimed +
      (run env s₀ es).stakeInfo.totalLxrForfeited =
    (run env s₀ es).stakeInfo.totalLuxorRewardsAccrued := by
  obtain ⟨-, rfl⟩ := initialiseConfigs_ok h₀
  exact run_preserves (fun _ _ he hs => (step_keepsBooks he).balance hs)
    (genesis_booksBalance env config split) hes

def settledAndRedeemed : List Event :=
  [.creditStake 10000000000, .instruction (.manualPurchase 1 7 1000000000 1000000000 1),
   .instruction (.buyback 1 deployPool 2), .instruction (.buyback 1 deployPool 3),
   .instruction (.redeem 7 1000000000)]

theorem reward_vault_matches_counters_redeemed :
    (∀ e ∈ settledAndRedeemed, e.movesRewardVault = false) ∧
    (run deployEnv (genesis deployEnv deployConfig 0) settledAndRedeemed).luxorRewardVault +
      (run deployEnv (genesis deployEnv deployConfig 0) settledAndRedeemed).stakeInfo.totalLxrClaimed +
      (run deployEnv (genesis deployEnv deployConfig 0) settledAndRedeemed).stakeInfo.totalLxrForfeited =
    (run deployEnv (genesis deployEnv deployConfig 0) settledAndRedeemed).stakeInfo.totalLuxorRewardsAccrued :=
  ⟨by decide, reward_vault_matches_counters deploy_initialises _ (by decide)⟩

/-! ## Every LXR unit the program moves

LXR enters the two vaults when a settlement buys it (counted in `total_luxor_rewards_accrued`) or
when anyone sends it from outside. It leaves them when `purchase` hands it to a buyer, when
`redeem` pays an owner (counted in `total_lxr_claimed`; the forfeited part only moves to the
treasury) and when the admin drains a vault. Nothing else creates or destroys any: `blacklist`,
`manual_purchase` and the admin record's payout (param 2) move none out of the two vaults. -/

/-- The LXR the two vaults hold together with what `redeem` paid to owners. -/
def lxrHeld (s : ProgramState) : Nat :=
  s.luxorVault + s.luxorRewardVault + s.stakeInfo.totalLxrClaimed

def Instruction.lxrSold : Instruction → Nat
  | .purchase _ _ lxr _ _ => lxr
  | _ => 0

def Instruction.lxrDrained (s : ProgramState) : Instruction → Nat
  | .emergencyWithdraw _ 0 _ .treasury => s.luxorVault
  | .emergencyWithdraw _ 0 _ .reward => s.luxorRewardVault
  | _ => 0

def Event.lxrSold (env : Env) (s : ProgramState) : Event → Nat
  | .instruction i => if (i.exec env s).isOk then i.lxrSold else 0
  | _ => 0

def Event.lxrDrained (env : Env) (s : ProgramState) : Event → Nat
  | .instruction i => if (i.exec env s).isOk then i.lxrDrained s else 0
  | _ => 0

def Event.lxrDeposit : Event → Nat
  | .depositLxr _ a => a
  | _ => 0

def lxrSold (env : Env) (s : ProgramState) (es : List Event) : Nat :=
  sumRun env (fun s e => e.lxrSold env s) s es

def lxrDrained (env : Env) (s : ProgramState) (es : List Event) : Nat :=
  sumRun env (fun s e => e.lxrDrained env s) s es

def lxrDeposited (env : Env) (s : ProgramState) (es : List Event) : Nat :=
  sumRun env (fun _ e => e.lxrDeposit) s es

section Flow

variable {env : Env} {s s' : ProgramState}

theorem Instruction.exec_lxrFlow {i : Instruction} (h : i.exec env s = .ok s') :
    lxrHeld s' + i.lxrSold + i.lxrDrained s + s.stakeInfo.totalLuxorRewardsAccrued =
      lxrHeld s + s'.stakeInfo.totalLuxorRewardsAccrued := by
  cases i with
  | purchase =>
    obtain ⟨t, si₁, si₂, u, -, -, h₁, h₂, -, hv, rfl⟩ := purchase_ok h
    obtain ⟨r, rfl, -⟩ := accrueSolRewards_ok h₁
    cases StakeInfo.recordPurchase_ok h₂
    simp only [lxrHeld, Instruction.lxrSold, Instruction.lxrDrained]
    omega
  | manualPurchase =>
    obtain ⟨si₁, si₂, u, -, h₁, h₂, -, rfl⟩ := manualPurchase_ok h
    cases observeSolRewards_ok h₁
    cases StakeInfo.recordManualPurchase_ok h₂
    rfl
  | redeem =>
    obtain ⟨c, p, f, v, -, -, -, -, -, hv, rfl⟩ := redeem_ok h
    simp only [lxrHeld, Instruction.lxrSold, Instruction.lxrDrained]
    omega
  | blacklist =>
    obtain ⟨-, -, -, -, rfl⟩ := blacklist_ok h
    rfl
  | updateConfig =>
    obtain ⟨-, c, rfl⟩ := updateConfig_ok h
    rfl
  | buyback =>
    rcases (buyback_ok h).2 with ⟨-, h⟩ | ⟨-, h⟩
    · obtain ⟨fee, r, -, -, -, -, -, -, -, -, -, -, -, rfl⟩ := settleBuyback_ok h
      simp only [lxrHeld, Instruction.lxrSold, Instruction.lxrDrained]
      omega
    · obtain ⟨si, -, -, -, h₁, -, -, rfl⟩ := requestBuyback_ok h
      obtain ⟨r, rfl, -⟩ := accrueSolRewards_ok h₁
      rfl
  | emergencyWithdraw signer param value v =>
    obtain ⟨-, ⟨rfl, rfl⟩ | ⟨rfl, rfl⟩ | ⟨rfl, -, s₁, h₁, rfl⟩ | ⟨rfl, rfl⟩ | ⟨rfl, -, rfl⟩⟩ :=
      emergencyWithdraw_ok h
    · cases v <;> simp only [lxrHeld, ProgramState.drain, Instruction.lxrSold,
        Instruction.lxrDrained] <;> omega
    · rfl
    · obtain ⟨hle, rfl⟩ := payFromRewardVault_ok h₁
      cases v
      · simp only [lxrHeld, ProgramState.moveFromRewardVault, Instruction.lxrSold,
          Instruction.lxrDrained]
        omega
      · rfl
    · rfl
    · rfl

theorem step_lxrFlow (e : Event) :
    lxrHeld (step env s e) + e.lxrSold env s + e.lxrDrained env s +
        s.stakeInfo.totalLuxorRewardsAccrued =
      lxrHeld s + (step env s e).stakeInfo.totalLuxorRewardsAccrued + e.lxrDeposit := by
  cases e with
  | instruction i =>
    cases hx : i.exec env s with
    | error => simp [step, commit, hx, Event.lxrSold, Event.lxrDrained, Event.lxrDeposit,
        Except.isOk, Except.toBool]
    | ok s' =>
      simpa only [step, commit, hx, Event.lxrSold, Event.lxrDrained, Event.lxrDeposit,
        Except.isOk, Except.toBool, if_true, Nat.add_zero] using Instruction.exec_lxrFlow hx
  | creditStake | creditSplit => rfl
  | depositLxr v a =>
    cases v <;> simp only [step, lxrHeld, Event.lxrSold, Event.lxrDrained, Event.lxrDeposit] <;>
      omega

end Flow

/-- LXR is never created or lost: along every run, from any state, the two vaults and the LXR
`redeem` paid to owners, together with what purchases sold and the admin drained, are what they
were at the start plus what the settlements bought and what was sent from outside. -/
theorem lxr_conserved {env : Env} (s : ProgramState) (es : List Event) :
    (run env s es).luxorVault + (run env s es).luxorRewardVault +
        (run env s es).stakeInfo.totalLxrClaimed + lxrSold env s es + lxrDrained env s es +
        s.stakeInfo.totalLuxorRewardsAccrued =
      s.luxorVault + s.luxorRewardVault + s.stakeInfo.totalLxrClaimed +
        (run env s es).stakeInfo.totalLuxorRewardsAccrued + lxrDeposited env s es := by
  /- Each event moves the settlements' total and the held LXR apart by what it sold or drained,
  less what was deposited. -/
  have h : s.stakeInfo.totalLuxorRewardsAccrued + (lxrSold env s es + lxrDrained env s es) +
      lxrHeld (run env s es) =
      (run env s es).stakeInfo.totalLuxorRewardsAccrued + lxrDeposited env s es + lxrHeld s := by
    rw [lxrSold, lxrDrained, ← sumRun_add]
    exact @sumRun_balance env _ (fun _ => True) (fun s => s.stakeInfo.totalLuxorRewardsAccrued)
      lxrHeld (fun _ e => e.lxrDeposit)
      (fun s e _ => by have := @step_lxrFlow env s e; dsimp only; omega) s es fun _ _ => trivial
  unfold lxrHeld at h
  omega

end LuxorSwap
