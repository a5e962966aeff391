import LuxorSwap.Instructions.Rewards

/-! # `initialise_configs` and `update_config`

`initialise_configs` writes the configuration and creates the stake account; `update_config`
changes one configuration field, chosen by `param`.
-/

namespace LuxorSwap

/-- The state a successful `initialise_configs` creates. -/
def genesis (env : Env) (config : GlobalConfig) (stakeSplitPda : Nat) : ProgramState where
  globalConfig := config
  stakeInfo := { lastTrackedSolBalance := env.minRent }
  userStakeInfo := fun _ => {}
  adminStakeInfo := {}
  adminStakeInfoExists := false
  stakePda := env.minRent
  stakeSplitPda := stakeSplitPda
  luxorVault := 0
  luxorRewardVault := 0
  solTreasuryVault := 0

/-- `initialise_configs`, run by the hard-coded admin. `stakePda` and `stakeSplitPda` are the
lamports already at the two addresses: the stake account is created only if its address is empty
(a system-owned address that holds lamports fails the owner check). `config` holds the
instruction's arguments. Nothing is created at `ADMIN_STAKE_INFO_SEED`. -/
def initialiseConfigs (env : Env) (signer : Pubkey) (config : GlobalConfig)
    (stakePda stakeSplitPda : Nat) : Result ProgramState := do
  require (signer = env.adminId) (.program .invalidOwner)
  require (stakePda = 0) (.program .invalidStakePdaOwner)
  require (0 < env.minRent) (.program .insufficientRent)
  pure (genesis env config stakeSplitPda)

/-- The `match param` of `update_config`. `newAdmin` is the key of `remaining_accounts[0]`,
if one was passed. -/
def GlobalConfig.update (c : GlobalConfig) (param value : Nat) (newAdmin : Option Pubkey) :
    Result GlobalConfig :=
  match param with
  | 0 => do
    let admin ← okOr newAdmin (.program .missingRemainingAccount)
    require (admin ≠ defaultPubkey) (.anchor .requireKeysNeqViolated)
    pure { c with admin := admin }
  | 1 => pure { c with minSwapAmount := value }
  | 2 => pure { c with maxSwapAmount := value }
  | 3 => pure { c with feeTreasuryRate := value }
  | 4 => pure { c with purchaseEnabled := value != 0 }
  | 5 => pure { c with redeemEnabled := value != 0 }
  | 6 => pure { c with maxStakeCountToGetBonus := value }
  | _ => .error (.program .invalidParam)

/-- `update_config`: admin only. -/
def updateConfig (env : Env) (signer : Pubkey) (param value : Nat) (newAdmin : Option Pubkey)
    (s : ProgramState) : Result ProgramState := do
  require (isAdmin env s signer) (.program .invalidOwner)
  let c ← s.globalConfig.update param value newAdmin
  pure { s with globalConfig := c }

theorem initialiseConfigs_ok {env : Env} {signer : Pubkey} {config : GlobalConfig}
    {stakePda split : Nat} {s : ProgramState}
    (h : initialiseConfigs env signer config stakePda split = .ok s) :
    0 < env.minRent ∧ s = genesis env config split := by
  simp only [initialiseConfigs, bind_eq_ok, require_eq_ok, pure_eq_ok] at h
  obtain ⟨-, -, -, -, -, hrent, rfl⟩ := h
  exact ⟨hrent, rfl⟩

theorem updateConfig_ok {env : Env} {signer : Pubkey} {param value : Nat}
    {newAdmin : Option Pubkey} {s s' : ProgramState}
    (h : updateConfig env signer param value newAdmin s = .ok s') :
    isAdmin env s signer ∧ ∃ c, s' = { s with globalConfig := c } := by
  simp only [updateConfig, bind_eq_ok, require_eq_ok, pure_eq_ok] at h
  obtain ⟨-, hadm, c, -, rfl⟩ := h
  exact ⟨hadm, c, rfl⟩

end LuxorSwap
