import LuxorSwap.Instructions.Purchase

/-! # `redeem`, `blacklist` and `emergency_withdraw`

The three instructions that turn an LXR index delta into an amount with `lxrRewardsToClaim`, and
the admin's emergency controls. `redeem` loads the owner's record without `mut`, so Anchor drops
what the handler writes to it; `blacklist` and `emergency_withdraw` load the admin record at
`ADMIN_STAKE_INFO_SEED`, which no instruction creates, before any check of their own. -/

namespace LuxorSwap

/-! ## The shared conversion -/

/-- `lxr_rewards_to_claim` of `redeem`, `blacklist` and `emergency_withdraw`:
`(staked as u128) * delta / PRECISION / PRECISION`, then `as u64`. -/
def lxrRewardsToClaim (staked delta : Nat) : Result Nat := do
  let m ← unwrap (checkedMul 128 staked delta)
  let q ← unwrap (checkedDiv m precision)
  let q ← unwrap (checkedDiv q precision)
  pure (asU64 q)

theorem lxrRewardsToClaim_ok {staked delta c : Nat} (h : lxrRewardsToClaim staked delta = .ok c) :
    staked * delta < 2 ^ 128 ∧ c = asU64 (lxrAccrued staked delta) := by
  simp only [lxrRewardsToClaim, bind_eq_ok, unwrap_eq_ok, checkedMul_eq_some,
    checkedDiv_eq_some, pure_eq_ok] at h
  obtain ⟨_, ⟨hm, rfl⟩, _, ⟨-, rfl⟩, _, ⟨-, rfl⟩, rfl⟩ := h
  exact ⟨hm, rfl⟩

@[simp] theorem lxrRewardsToClaim_zero {staked : Nat} : lxrRewardsToClaim staked 0 = .ok 0 := by
  simp [lxrRewardsToClaim, checkedMul, checkedDiv, unwrap, precision, asU64, bind, Except.bind, pure,
    Except.pure]

@[simp] theorem lxrRewardsToClaim_unstaked {delta : Nat} : lxrRewardsToClaim 0 delta = .ok 0 := by
  simp [lxrRewardsToClaim, checkedMul, checkedDiv, unwrap, precision, asU64, bind, Except.bind, pure,
    Except.pure]

theorem lxrRewardsToClaim_ne_program {staked delta : Nat} {c : ErrorCode} :
    lxrRewardsToClaim staked delta ≠ .error (.program c) := by
  simp only [lxrRewardsToClaim, ne_eq, bind_eq_error, unwrap_eq_error, pure_ne_error, reduceCtorEq,
    and_false, false_or, exists_false, or_false, not_false_eq_true]

/-! ## `redeem` -/

/-- The "Forfeiture if current holdings < base holdings" block: the claim pro-rated by
`holdings / base`, and what that cut off. -/
def forfeiture (holdings base claim : Nat) : Result (Nat × Nat) :=
  if holdings < base then do
    let m ← unwrap (checkedMul 128 holdings claim)
    let q ← unwrap (checkedDiv m base)
    let prorated := asU64 q
    let forfieted ← unwrap (checkedSub claim prorated)
    pure (prorated, forfieted)
  else pure (claim, 0)

theorem forfeiture_ne_program {holdings base claim : Nat} {c : ErrorCode} :
    forfeiture holdings base claim ≠ .error (.program c) := by
  unfold forfeiture
  split <;> simp only [ne_eq, bind_eq_error, unwrap_eq_error, pure_ne_error, reduceCtorEq,
    and_false, false_or, exists_false, or_false, not_false_eq_true]

/-- Steps 1 to 5 of `redeem` on the owner's record: the LXR paid to the owner and the LXR
forfeited. The record is loaded without `mut`, so what the handler writes to it is dropped; the
checked additions to its tallies still run. -/
def UserStakeInfo.redeemClaim (user : UserStakeInfo) (index ownerLxrAmount : Nat) :
    Result (Nat × Nat) := do
  require (user.owner ≠ defaultPubkey) (.anchor .accountNotInitialized)
  let pending ← unwrap (checkedSub index user.lxrRewardPerTokenCompleted)
  require (0 < pending) (.program .noRewardsToClaim)
  let claim ← lxrRewardsToClaim user.totalStakedSol pending
  require (0 < claim) (.program .noRewardsToClaim)
  let (claim, forfieted) ← forfeiture ownerLxrAmount user.baseLxrHoldings claim
  let claim ← unwrap (checkedAdd 64 claim user.lxrRewardsPending)
  let _userClaimed ← unwrap (checkedAdd 64 user.totalLxrClaimed claim)
  let _userForfeited ← unwrap (checkedAdd 64 user.totalLxrForfeited forfieted)
  pure (claim, forfieted)

/-- Steps 5 to 7 of `redeem` on `stake_info` and the vaults: the global tallies, then the claim
paid out of the reward vault and the forfeited LXR moved to the treasury. -/
def ProgramState.payRedeem (s : ProgramState) (claim forfieted : Nat) : Result ProgramState := do
  let totalClaimed ← unwrap (checkedAdd 64 s.stakeInfo.totalLxrClaimed claim)
  let totalForfeited ← unwrap (checkedAdd 64 s.stakeInfo.totalLxrForfeited forfieted)
  let rewardVault ← okOr (checkedSub s.luxorRewardVault claim) .cpi
  let rewardVault ← if 0 < forfieted then okOr (checkedSub rewardVault forfieted) .cpi
    else pure rewardVault
  pure { s with
    stakeInfo := { s.stakeInfo with totalLxrClaimed := totalClaimed,
                                    totalLxrForfeited := totalForfeited },
    luxorRewardVault := rewardVault,
    luxorVault := s.luxorVault + forfieted }

/-- `redeem`. `ownerLxrAmount` is the caller's LXR balance, which the program only observes.
The record must exist: its account is not created here. -/
def redeem (owner : Pubkey) (ownerLxrAmount : Nat) (s : ProgramState) : Result ProgramState := do
  let (claim, forfieted) ← (s.userStakeInfo owner).redeemClaim s.stakeInfo.rewardPerTokenLxrStored
    ownerLxrAmount
  s.payRedeem claim forfieted

theorem forfeiture_ok {holdings base claim p f : Nat}
    (h : forfeiture holdings base claim = .ok (p, f)) :
    p + f = claim ∧ (base ≤ holdings → f = 0) := by
  unfold forfeiture at h
  split at h
  next hlt =>
    simp only [bind_eq_ok, unwrap_eq_ok, checkedMul_eq_some, checkedDiv_eq_some,
      checkedSub_eq_some, pure_eq_ok, Prod.mk.injEq] at h
    obtain ⟨_, ⟨-, rfl⟩, _, ⟨-, rfl⟩, _, ⟨hle, rfl⟩, rfl, rfl⟩ := h
    exact ⟨Nat.add_sub_cancel' hle, fun h => absurd h (Nat.not_le.2 hlt)⟩
  next => cases h; exact ⟨rfl, fun _ => rfl⟩

theorem UserStakeInfo.redeemClaim_ok {u : UserStakeInfo} {index amount x f : Nat}
    (h : u.redeemClaim index amount = .ok (x, f)) :
    ∃ c p, u.owner ≠ defaultPubkey ∧ u.lxrRewardPerTokenCompleted < index ∧
      lxrRewardsToClaim u.totalStakedSol (index - u.lxrRewardPerTokenCompleted) = .ok c ∧ 0 < c ∧
      forfeiture amount u.baseLxrHoldings c = .ok (p, f) ∧ x = p + u.lxrRewardsPending := by
  simp only [UserStakeInfo.redeemClaim, bind_eq_ok, require_eq_ok, unwrap_eq_ok,
    checkedSub_eq_some] at h
  obtain ⟨-, hown, _, ⟨hle, rfl⟩, -, hpos, c, hc, -, hc0, ⟨p, f'⟩, hf, h⟩ := h
  simp only [bind_eq_ok, unwrap_eq_ok, checkedAdd_eq_some, pure_eq_ok, Prod.mk.injEq] at h
  obtain ⟨_, ⟨-, rfl⟩, _, -, _, -, rfl, rfl⟩ := h
  exact ⟨c, p, hown, by omega, hc, hc0, hf, rfl⟩

theorem ProgramState.payRedeem_ok {s s' : ProgramState} {x f : Nat}
    (h : s.payRedeem x f = .ok s') :
    ∃ v, v + x + f = s.luxorRewardVault ∧
      s' = { s with
        stakeInfo := { s.stakeInfo with totalLxrClaimed := s.stakeInfo.totalLxrClaimed + x,
                                        totalLxrForfeited := s.stakeInfo.totalLxrForfeited + f },
        luxorRewardVault := v, luxorVault := s.luxorVault + f } := by
  simp only [ProgramState.payRedeem, bind_eq_ok, unwrap_eq_ok, checkedAdd_eq_some, okOr_eq_ok,
    checkedSub_eq_some] at h
  obtain ⟨_, ⟨-, rfl⟩, _, ⟨-, rfl⟩, v, ⟨hv, rfl⟩, h⟩ := h
  split at h
  · simp only [bind_eq_ok, okOr_eq_ok, checkedSub_eq_some, pure_eq_ok] at h
    obtain ⟨_, ⟨hfv, rfl⟩, rfl⟩ := h
    exact ⟨_, by omega, rfl⟩
  · simp only [bind_eq_ok, pure_eq_ok, exists_eq_left'] at h
    exact ⟨_, by omega, h.symm⟩

theorem redeem_ok {owner : Pubkey} {amount : Nat} {s s' : ProgramState}
    (h : redeem owner amount s = .ok s') :
    ∃ c p f v, (s.userStakeInfo owner).owner ≠ defaultPubkey ∧
      (s.userStakeInfo owner).lxrRewardPerTokenCompleted < s.stakeInfo.rewardPerTokenLxrStored ∧
      lxrRewardsToClaim (s.userStakeInfo owner).totalStakedSol
        (s.stakeInfo.rewardPerTokenLxrStored - (s.userStakeInfo owner).lxrRewardPerTokenCompleted)
        = .ok c ∧ 0 < c ∧
      forfeiture amount (s.userStakeInfo owner).baseLxrHoldings c = .ok (p, f) ∧
      v + (p + (s.userStakeInfo owner).lxrRewardsPending) + f = s.luxorRewardVault ∧
      s' = { s with
        stakeInfo := { s.stakeInfo with
          totalLxrClaimed := s.stakeInfo.totalLxrClaimed + (p + (s.userStakeInfo owner).lxrRewardsPending),
          totalLxrForfeited := s.stakeInfo.totalLxrForfeited + f },
        luxorRewardVault := v, luxorVault := s.luxorVault + f } := by
  simp only [redeem, bind_eq_ok] at h
  obtain ⟨⟨x, f⟩, hx, h⟩ := h
  obtain ⟨c, p, hown, hlt, hc, hc0, hf, rfl⟩ := UserStakeInfo.redeemClaim_ok hx
  obtain ⟨v, hv, rfl⟩ := ProgramState.payRedeem_ok h
  exact ⟨c, p, f, v, hown, hlt, hc, hc0, hf, hv, rfl⟩

/-! ## `blacklist` -/

/-- The admin record `blacklist` works on: opened at the index if it was never used. -/
def blacklistAdmin (s : ProgramState) (signer : Pubkey) : UserStakeInfo :=
  if s.adminStakeInfo.owner = defaultPubkey then
    s.adminStakeInfo.open signer s.stakeInfo.rewardPerTokenLxrStored
  else s.adminStakeInfo

/-- `blacklist`: settles the user and the admin record at the index, marks the user's pending LXR
forfeited, and moves its stake and pending LXR to the admin record. Anchor loads both records
before it checks `owner`'s constraint. -/
def blacklist (env : Env) (signer user : Pubkey) (s : ProgramState) : Result ProgramState := do
  let u := s.userStakeInfo user
  require (u.owner ≠ defaultPubkey) (.anchor .accountNotInitialized)
  require (s.adminStakeInfoExists = true) (.anchor .accountNotInitialized)
  require (isAdmin env s signer) (.program .invalidOwner)
  let index := s.stakeInfo.rewardPerTokenLxrStored
  let admin := blacklistAdmin s signer
  let delta ← unwrap (checkedSub index u.lxrRewardPerTokenCompleted)
  let earned ← lxrRewardsToClaim u.totalStakedSol delta
  let pending ← unwrap (checkedAdd 64 u.lxrRewardsPending earned)
  let forfeited ← unwrap (checkedAdd 64 u.totalLxrForfeited pending)
  let blacklistedSol ← unwrap (checkedAdd 64 u.blacklistedSol u.totalStakedSol)
  let adminDelta ← unwrap (checkedSub index admin.lxrRewardPerTokenCompleted)
  let adminEarned ← lxrRewardsToClaim admin.totalStakedSol adminDelta
  let adminPending ← unwrap (checkedAdd 64 admin.lxrRewardsPending adminEarned)
  let adminStaked ← unwrap (checkedAdd 64 admin.totalStakedSol u.totalStakedSol)
  let adminPending ← unwrap (checkedAdd 64 adminPending pending)
  pure { s with
    userStakeInfo := Function.update s.userStakeInfo user
      { u with lxrRewardsPending := 0, totalLxrForfeited := forfeited,
               blacklistedSol := blacklistedSol, lxrRewardPerTokenCompleted := index,
               totalStakedSol := 0, baseLxrHoldings := 0 },
    adminStakeInfo := { admin with lxrRewardsPending := adminPending,
                                   lxrRewardPerTokenCompleted := index,
                                   totalStakedSol := adminStaked } }

theorem blacklist_ok {env : Env} {signer user : Pubkey} {s s' : ProgramState}
    (h : blacklist env signer user s = .ok s') :
    let u := s.userStakeInfo user
    let a := blacklistAdmin s signer
    let index := s.stakeInfo.rewardPerTokenLxrStored
    let pending := u.lxrRewardsPending +
      asU64 (lxrAccrued u.totalStakedSol (index - u.lxrRewardPerTokenCompleted))
    isAdmin env s signer ∧ u.owner ≠ defaultPubkey ∧ u.lxrRewardPerTokenCompleted ≤ index ∧
      a.lxrRewardPerTokenCompleted ≤ index ∧
      s' = { s with
        userStakeInfo := Function.update s.userStakeInfo user
          { u with lxrRewardsPending := 0, totalLxrForfeited := u.totalLxrForfeited + pending,
                   blacklistedSol := u.blacklistedSol + u.totalStakedSol,
                   lxrRewardPerTokenCompleted := index, totalStakedSol := 0, baseLxrHoldings := 0 },
        adminStakeInfo := { a with
          lxrRewardsPending := a.lxrRewardsPending +
            asU64 (lxrAccrued a.totalStakedSol (index - a.lxrRewardPerTokenCompleted)) + pending,
          lxrRewardPerTokenCompleted := index,
          totalStakedSol := a.totalStakedSol + u.totalStakedSol } } := by
  simp only [blacklist, bind_eq_ok, require_eq_ok, unwrap_eq_ok, checkedSub_eq_some,
    checkedAdd_eq_some, pure_eq_ok, and_assoc, exists_and_left, exists_eq_left',
    exists_const] at h
  obtain ⟨hown, -, hadm, hle, _, he, -, -, -, hlea, _, hea, -, -, -, rfl⟩ := h
  rw [(lxrRewardsToClaim_ok he).2, (lxrRewardsToClaim_ok hea).2]
  exact ⟨hadm, hown, hle, hlea, rfl⟩

theorem blacklist_eq_error {env : Env} {signer user : Pubkey} {s : ProgramState}
    (h : s.adminStakeInfoExists = false) :
    blacklist env signer user s = .error (.anchor .accountNotInitialized) := by
  by_cases hu : (s.userStakeInfo user).owner = defaultPubkey <;>
    simp [blacklist, require, hu, h, bind, Except.bind]

/-! ## `emergency_withdraw` -/

/-- `luxor_vault_any`: its constraint admits the treasury or the reward vault. -/
inductive LxrVault where
  | treasury
  | reward
  deriving DecidableEq, Repr

def ProgramState.drain (s : ProgramState) : LxrVault → ProgramState
  | .treasury => { s with luxorVault := 0 }
  | .reward => { s with luxorRewardVault := 0 }

def ProgramState.moveFromRewardVault (s : ProgramState) (dest : LxrVault) (amount : Nat) :
    ProgramState :=
  match dest with
  | .treasury => { s with luxorRewardVault := s.luxorRewardVault - amount,
                          luxorVault := s.luxorVault + amount }
  | .reward => s

/-- The token transfer out of the reward vault: refused beyond the vault's amount. -/
def ProgramState.payFromRewardVault (s : ProgramState) (dest : LxrVault) (amount : Nat) :
    Result ProgramState := do
  require (amount ≤ s.luxorRewardVault) .cpi
  pure (s.moveFromRewardVault dest amount)

/-- `emergency_withdraw`. Param 2 settles the admin record and pays its pending LXR out of the
reward vault; params 3 and 4 are the stake program's deactivation and withdrawal. Anchor loads
`admin_stake_info` before it checks `owner`'s constraint. -/
def emergencyWithdraw (env : Env) (signer : Pubkey) (param value : Nat) (vaultAny : LxrVault)
    (s : ProgramState) : Result ProgramState := do
  require (s.adminStakeInfoExists = true) (.anchor .accountNotInitialized)
  require (isAdmin env s signer) (.program .invalidOwner)
  match param with
  | 0 => pure (s.drain vaultAny)
  | 1 => pure { s with solTreasuryVault := 0 }
  | 2 => do
    let admin := s.adminStakeInfo
    let index := s.stakeInfo.rewardPerTokenLxrStored
    let delta ← unwrap (checkedSub index admin.lxrRewardPerTokenCompleted)
    let earned ← lxrRewardsToClaim admin.totalStakedSol delta
    let pending ← unwrap (checkedAdd 64 admin.lxrRewardsPending earned)
    let s ← s.payFromRewardVault vaultAny pending
    pure { s with adminStakeInfo := { admin with lxrRewardPerTokenCompleted := index,
                                                 lxrRewardsPending := 0 } }
  | 3 => pure s
  | 4 => do
    let lamports ← okOr (checkedSub s.stakePda value) .cpi
    pure { s with stakePda := lamports }
  | _ => .error (.program .invalidParam)

theorem payFromRewardVault_ok {s s' : ProgramState} {dest : LxrVault} {amount : Nat}
    (h : s.payFromRewardVault dest amount = .ok s') :
    amount ≤ s.luxorRewardVault ∧ s' = s.moveFromRewardVault dest amount := by
  simp only [ProgramState.payFromRewardVault, bind_eq_ok, require_eq_ok, pure_eq_ok] at h
  obtain ⟨-, hle, rfl⟩ := h
  exact ⟨hle, rfl⟩

theorem emergencyWithdraw_ok {env : Env} {signer : Pubkey} {param value : Nat} {v : LxrVault}
    {s s' : ProgramState} (h : emergencyWithdraw env signer param value v s = .ok s') :
    isAdmin env s signer ∧
    ((param = 0 ∧ s' = s.drain v) ∨
     (param = 1 ∧ s' = { s with solTreasuryVault := 0 }) ∨
     (param = 2 ∧ s.adminStakeInfo.lxrRewardPerTokenCompleted ≤ s.stakeInfo.rewardPerTokenLxrStored ∧
       ∃ s₁, s.payFromRewardVault v (s.adminStakeInfo.lxrRewardsPending +
           asU64 (lxrAccrued s.adminStakeInfo.totalStakedSol
             (s.stakeInfo.rewardPerTokenLxrStored - s.adminStakeInfo.lxrRewardPerTokenCompleted)))
           = .ok s₁ ∧
         s' = { s₁ with adminStakeInfo := { s.adminStakeInfo with
           lxrRewardPerTokenCompleted := s.stakeInfo.rewardPerTokenLxrStored,
           lxrRewardsPending := 0 } }) ∨
     (param = 3 ∧ s' = s) ∨
     (param = 4 ∧ value ≤ s.stakePda ∧ s' = { s with stakePda := s.stakePda - value })) := by
  simp only [emergencyWithdraw, bind_eq_ok, require_eq_ok] at h
  obtain ⟨-, -, -, hadm, h⟩ := h
  refine ⟨hadm, ?_⟩
  match param, h with
  | 0, h => exact .inl ⟨rfl, (pure_eq_ok.1 h).symm⟩
  | 1, h => exact .inr (.inl ⟨rfl, (pure_eq_ok.1 h).symm⟩)
  | 2, h =>
    simp only [bind_eq_ok, unwrap_eq_ok, checkedSub_eq_some, checkedAdd_eq_some,
      pure_eq_ok] at h
    obtain ⟨_, ⟨hle, rfl⟩, _, he, _, ⟨-, rfl⟩, s₁, h₁, rfl⟩ := h
    rw [(lxrRewardsToClaim_ok he).2] at h₁
    exact .inr (.inr (.inl ⟨rfl, hle, s₁, h₁, rfl⟩))
  | 3, h => exact .inr (.inr (.inr (.inl ⟨rfl, (pure_eq_ok.1 h).symm⟩)))
  | 4, h =>
    simp only [bind_eq_ok, okOr_eq_ok, checkedSub_eq_some, pure_eq_ok] at h
    obtain ⟨_, ⟨hle, rfl⟩, rfl⟩ := h
    simp [hle]
  | n + 5, h => cases h

theorem emergencyWithdraw_eq_error {env : Env} {signer : Pubkey} {param value : Nat}
    {v : LxrVault} {s : ProgramState} (h : s.adminStakeInfoExists = false) :
    emergencyWithdraw env signer param value v s = .error (.anchor .accountNotInitialized) := by
  simp [emergencyWithdraw, require, h, bind, Except.bind]

end LuxorSwap
