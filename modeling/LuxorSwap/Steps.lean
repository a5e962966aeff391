import LuxorSwap.Machine

/-! # What each instruction can change

Four of the instructions leave the stake accounts and the staking side of `stake_info` as they
were: `redeem`, `blacklist`, `update_config`, and `emergency_withdraw` except its stake
withdrawal. Invariants about staking need only look at the other four.
-/

namespace LuxorSwap

/-- The stake account, the split account and the staking side of `stake_info` are unchanged. -/
def KeepsStake (s s' : ProgramState) : Prop :=
  s'.stakePda = s.stakePda ∧ s'.stakeSplitPda = s.stakeSplitPda ∧
  s'.stakeInfo.lastTrackedSolBalance = s.stakeInfo.lastTrackedSolBalance ∧
  s'.stakeInfo.totalSolRewardsAccrued = s.stakeInfo.totalSolRewardsAccrued ∧
  s'.stakeInfo.totalSolUsedForBuyback = s.stakeInfo.totalSolUsedForBuyback ∧
  s'.stakeInfo.buybackRequested = s.stakeInfo.buybackRequested ∧
  s'.stakeInfo.totalStakedSol = s.stakeInfo.totalStakedSol ∧
  s'.stakeInfo.rewardPerTokenLxrStored = s.stakeInfo.rewardPerTokenLxrStored

theorem KeepsStake.of_stakeInfo {s s' : ProgramState} (hp : s'.stakePda = s.stakePda)
    (hsp : s'.stakeSplitPda = s.stakeSplitPda) (hi : s'.stakeInfo = s.stakeInfo) :
    KeepsStake s s' := by
  simp [KeepsStake, hp, hsp, hi]

theorem redeem_keepsStake {owner : Pubkey} {amount : Nat} {s s' : ProgramState}
    (h : redeem owner amount s = .ok s') : KeepsStake s s' := by
  obtain ⟨c, p, f, v, -, -, -, -, -, -, rfl⟩ := redeem_ok h
  exact ⟨rfl, rfl, rfl, rfl, rfl, rfl, rfl, rfl⟩

theorem blacklist_keepsStake {env : Env} {signer user : Pubkey} {s s' : ProgramState}
    (h : blacklist env signer user s = .ok s') : KeepsStake s s' := by
  obtain ⟨-, -, -, -, rfl⟩ := blacklist_ok h
  exact .of_stakeInfo rfl rfl rfl

theorem updateConfig_keepsStake {env : Env} {signer : Pubkey} {param value : Nat}
    {newAdmin : Option Pubkey} {s s' : ProgramState}
    (h : updateConfig env signer param value newAdmin s = .ok s') : KeepsStake s s' := by
  obtain ⟨-, c, rfl⟩ := updateConfig_ok h
  exact .of_stakeInfo rfl rfl rfl

theorem emergencyWithdraw_keepsStake {env : Env} {signer : Pubkey} {param value : Nat}
    {v : LxrVault} {s s' : ProgramState} (h : emergencyWithdraw env signer param value v s = .ok s')
    (hp : param ≠ 4) : KeepsStake s s' := by
  obtain ⟨-, ⟨-, rfl⟩ | ⟨-, rfl⟩ | ⟨-, -, s₁, h₁, rfl⟩ | ⟨-, rfl⟩ | ⟨rfl, -⟩⟩ :=
    emergencyWithdraw_ok h
  · cases v <;> exact .of_stakeInfo rfl rfl rfl
  · exact .of_stakeInfo rfl rfl rfl
  · obtain ⟨-, rfl⟩ := payFromRewardVault_ok h₁
    cases v <;> exact .of_stakeInfo rfl rfl rfl
  · exact .of_stakeInfo rfl rfl rfl
  · exact absurd rfl hp

def Instruction.touchesStake : Instruction → Bool
  | .purchase .. | .manualPurchase .. | .buyback .. => true
  | .emergencyWithdraw _ param _ _ => param == 4
  | _ => false

theorem Instruction.exec_keepsStake {env : Env} {i : Instruction} {s s' : ProgramState}
    (h : i.exec env s = .ok s') (hi : i.touchesStake = false) : KeepsStake s s' := by
  cases i with
  | redeem => exact redeem_keepsStake h
  | blacklist => exact blacklist_keepsStake h
  | updateConfig => exact updateConfig_keepsStake h
  | emergencyWithdraw signer param value v =>
    exact emergencyWithdraw_keepsStake h (by simpa [Instruction.touchesStake] using hi)
  | purchase | manualPurchase | buyback => cases hi

end LuxorSwap
