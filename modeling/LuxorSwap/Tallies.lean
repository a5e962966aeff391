import LuxorSwap.Guards

/-! # What the missing admin record locks

`blacklist` and `emergency_withdraw` load the account at `ADMIN_STAKE_INFO_SEED`, which no
instruction creates, so both always fail. `blacklist` is the only instruction that would move a
record's stake to the admin record, add to `blacklisted_sol` or to a record's
`total_lxr_forfeited`, and `redeem` writes the owner's tallies to a record it loads without `mut`:
those fields keep the values `initialise_configs` and the purchases give them. `emergency_withdraw`
is the only way out for the SOL treasury's WSOL and for the stake account's lamports other than a
buyback, so the program's SOL is locked.
-/

namespace LuxorSwap

/-! ## Tallies over a list of records -/

section Sums
variable {f : UserStakeInfo → Nat} {r : Pubkey → UserStakeInfo} {o : Pubkey} {u : UserStakeInfo}
  {keys : List Pubkey} {d : Nat}

end Sums

/-! ## The audit trail of `blacklist` -/

section Ledger
variable {f : UserStakeInfo → Nat} {g : ProgramState → Nat} {s s' : ProgramState}

end Ledger

section Blacklist
variable {env : Env} {s s' : ProgramState}

end Blacklist

/-- No account exists at `ADMIN_STAKE_INFO_SEED`, the admin record is as `initialise_configs` left
it, and no record has LXR tallies or blacklisted SOL. -/
def TalliesUnwritten (s : ProgramState) : Prop :=
  s.adminStakeInfoExists = false ∧ s.adminStakeInfo = {} ∧
    ∀ k, (s.userStakeInfo k).totalLxrClaimed = 0 ∧ (s.userStakeInfo k).totalLxrForfeited = 0 ∧
      (s.userStakeInfo k).blacklistedSol = 0

section Unwritten
variable {env : Env} {s s' : ProgramState}

theorem TalliesUnwritten.keep (h : TalliesUnwritten s)
    (hx : s'.adminStakeInfoExists = s.adminStakeInfoExists)
    (ha : s'.adminStakeInfo = s.adminStakeInfo) (hr : s'.userStakeInfo = s.userStakeInfo) :
    TalliesUnwritten s' :=
  ⟨hx.trans h.1, ha.trans h.2.1, by rw [hr]; exact h.2.2⟩

theorem TalliesUnwritten.update {o : Pubkey} {u : UserStakeInfo} (h : TalliesUnwritten s)
    (hx : s'.adminStakeInfoExists = s.adminStakeInfoExists)
    (ha : s'.adminStakeInfo = s.adminStakeInfo)
    (hr : s'.userStakeInfo = Function.update s.userStakeInfo o u)
    (hu : u.totalLxrClaimed = (s.userStakeInfo o).totalLxrClaimed ∧
      u.totalLxrForfeited = (s.userStakeInfo o).totalLxrForfeited ∧
      u.blacklistedSol = (s.userStakeInfo o).blacklistedSol) :
    TalliesUnwritten s' := by
  refine ⟨hx.trans h.1, ha.trans h.2.1, fun k => ?_⟩
  rw [hr]
  by_cases hk : k = o
  · subst hk
    rw [Function.update_same, hu.1, hu.2.1, hu.2.2]
    exact h.2.2 k
  · rw [Function.update_noteq hk]
    exact h.2.2 k

theorem Instruction.exec_talliesUnwritten {i : Instruction} (h : i.exec env s = .ok s')
    (hs : TalliesUnwritten s) : TalliesUnwritten s' := by
  cases i with
  | purchase =>
    obtain ⟨t, si₁, si₂, u, -, -, -, -, hu, -, rfl⟩ := purchase_ok h
    cases UserStakeInfo.recordPurchase_ok hu
    exact hs.update rfl rfl rfl (by split <;> exact ⟨rfl, rfl, rfl⟩)
  | manualPurchase =>
    obtain ⟨si₁, si₂, u, -, -, -, hu, rfl⟩ := manualPurchase_ok h
    rcases UserStakeInfo.recordManualPurchase_ok hu with ⟨-, rfl⟩ | ⟨-, -, rfl⟩ <;>
    exact hs.update rfl rfl rfl ⟨rfl, rfl, rfl⟩
  | redeem =>
    obtain ⟨c, p, f, v, -, -, -, -, -, -, rfl⟩ := redeem_ok h
    exact hs.keep rfl rfl rfl
  | blacklist =>
    rw [Instruction.exec, blacklist_eq_error hs.1] at h
    cases h
  | updateConfig =>
    obtain ⟨-, c, rfl⟩ := updateConfig_ok h
    exact hs.keep rfl rfl rfl
  | buyback =>
    rcases (buyback_ok h).2 with ⟨-, h⟩ | ⟨-, h⟩
    · obtain ⟨fee, r, -, -, -, -, -, -, -, -, -, -, -, rfl⟩ := settleBuyback_ok h
      exact hs.keep rfl rfl rfl
    · obtain ⟨si, -, -, -, -, -, -, rfl⟩ := requestBuyback_ok h
      exact hs.keep rfl rfl rfl
  | emergencyWithdraw =>
    rw [Instruction.exec, emergencyWithdraw_eq_error hs.1] at h
    cases h

theorem step_talliesUnwritten (e : Event) (hs : TalliesUnwritten s) :
    TalliesUnwritten (step env s e) := by
  cases e with
  | instruction i => exact commit_preserves hs fun _ h => Instruction.exec_talliesUnwritten h hs
  | creditStake | creditSplit => exact hs
  | depositLxr v => cases v <;> exact hs

theorem Reachable.talliesUnwritten (h : Reachable env s) : TalliesUnwritten s :=
  Reachable.induction (fun _ _ _ _ h₀ => by
    obtain ⟨-, rfl⟩ := initialiseConfigs_ok h₀
    exact ⟨rfl, rfl, fun _ => ⟨rfl, rfl, rfl⟩⟩)
    (fun _ e _ hs => step_talliesUnwritten e hs) h

end Unwritten

/-- In every reachable state every record's `total_lxr_claimed`, `total_lxr_forfeited` and
`blacklisted_sol` are zero and the admin record is as `initialise_configs` left it, whatever
`redeem` has paid and `stake_info` counts. -/
theorem record_tallies_never_persisted {env : Env} {s : ProgramState} (h : Reachable env s)
    (k : Pubkey) :
    (s.userStakeInfo k).totalLxrClaimed = 0 ∧ (s.userStakeInfo k).totalLxrForfeited = 0 ∧
    (s.userStakeInfo k).blacklistedSol = 0 ∧ s.adminStakeInfo = {} :=
  let ⟨_, ha, hk⟩ := h.talliesUnwritten
  ⟨(hk k).1, (hk k).2.1, (hk k).2.2, ha⟩

theorem record_tallies_never_persisted_half :
    Reachable deployEnv halfHeldRedeem ∧ halfHeldRedeem.stakeInfo.totalLxrClaimed = 4 ∧
    halfHeldRedeem.stakeInfo.totalLxrForfeited = 5 ∧
    (halfHeldRedeem.userStakeInfo 7).totalLxrClaimed = 0 ∧
    (halfHeldRedeem.userStakeInfo 7).totalLxrForfeited = 0 ∧
    (halfHeldRedeem.userStakeInfo 7).blacklistedSol = 0 ∧ halfHeldRedeem.adminStakeInfo = {} :=
  ⟨firstSettlement_reachable.step _, by decide, by decide,
    record_tallies_never_persisted (firstSettlement_reachable.step _) 7⟩

/-! ## The SOL the program holds is locked

`emergency_withdraw` is the only instruction that takes WSOL out of the SOL treasury or
deactivates and withdraws the stake account, and it is always refused. The treasury keeps every
fee a settlement pays it, and the stake account gives lamports only to the split accounts of
buyback requests. -/

section Locked
variable {env : Env} {s s' : ProgramState}

theorem Instruction.exec_locksSol {i : Instruction} (h : i.exec env s = .ok s')
    (hs : s.adminStakeInfoExists = false) :
    s.solTreasuryVault ≤ s'.solTreasuryVault ∧
      ((Event.instruction i).callsBuyback = false → s.stakePda ≤ s'.stakePda) := by
  cases i with
  | purchase =>
    obtain ⟨t, si₁, si₂, u, -, -, -, -, -, -, rfl⟩ := purchase_ok h
    exact ⟨le_rfl, fun _ => Nat.le_add_right _ _⟩
  | manualPurchase =>
    obtain ⟨si₁, si₂, u, -, -, -, -, rfl⟩ := manualPurchase_ok h
    exact ⟨le_rfl, fun _ => Nat.le_add_right _ _⟩
  | redeem =>
    obtain ⟨c, p, f, v, -, -, -, -, -, -, rfl⟩ := redeem_ok h
    exact ⟨le_rfl, fun _ => le_rfl⟩
  | blacklist =>
    rw [Instruction.exec, blacklist_eq_error hs] at h
    cases h
  | updateConfig =>
    obtain ⟨-, c, rfl⟩ := updateConfig_ok h
    exact ⟨le_rfl, fun _ => le_rfl⟩
  | buyback =>
    refine ⟨?_, nofun⟩
    rcases (buyback_ok h).2 with ⟨-, h⟩ | ⟨-, h⟩
    · obtain ⟨fee, r, -, -, -, -, -, -, -, -, -, -, -, rfl⟩ := settleBuyback_ok h
      exact Nat.le_add_right _ _
    · obtain ⟨si, -, -, -, -, -, -, rfl⟩ := requestBuyback_ok h
      exact le_rfl
  | emergencyWithdraw =>
    rw [Instruction.exec, emergencyWithdraw_eq_error hs] at h
    cases h

theorem step_locksSol (e : Event) (hs : s.adminStakeInfoExists = false) :
    s.solTreasuryVault ≤ (step env s e).solTreasuryVault ∧
      (e.callsBuyback = false → s.stakePda ≤ (step env s e).stakePda) := by
  cases e with
  | instruction i =>
    exact @commit_preserves (fun s' => s.solTreasuryVault ≤ s'.solTreasuryVault ∧
      ((Event.instruction i).callsBuyback = false → s.stakePda ≤ s'.stakePda)) s _
      ⟨le_rfl, fun _ => le_rfl⟩ fun _ hx => Instruction.exec_locksSol hx hs
  | creditStake => exact ⟨le_rfl, fun _ => Nat.le_add_right _ _⟩
  | creditSplit => exact ⟨le_rfl, fun _ => le_rfl⟩
  | depositLxr v => cases v <;> exact ⟨le_rfl, fun _ => le_rfl⟩

end Locked

/-- From every reachable state, no run lowers the SOL treasury: the fees the settlements pay
into it can never be taken out. -/
theorem sol_treasury_never_decreases {env : Env} {s : ProgramState} (h : Reachable env s)
    (es : List Event) : s.solTreasuryVault ≤ (run env s es).solTreasuryVault :=
  (@run_preserves env (fun t => TalliesUnwritten t ∧ s.solTreasuryVault ≤ t.solTreasuryVault)
    (fun _ => True) (fun _ e _ ht => ⟨step_talliesUnwritten e ht.1,
      Nat.le_trans ht.2 (step_locksSol e ht.1.1).1⟩) s es ⟨h.talliesUnwritten, le_rfl⟩
    fun _ _ => trivial).2

theorem sol_treasury_never_decreases_admin :
    Reachable deployEnv firstSettlement ∧ firstSettlement.solTreasuryVault = 500000000 ∧
    firstSettlement.solTreasuryVault ≤
      (run deployEnv firstSettlement [.instruction (.emergencyWithdraw 1 1 0 .treasury)]).solTreasuryVault :=
  ⟨firstSettlement_reachable, rfl, sol_treasury_never_decreases firstSettlement_reachable _⟩

/-- From every reachable state, a run without a `buyback` call never lowers the stake account:
the staked SOL leaves it only in the split accounts of buyback requests, and no staker, nor the
admin, can withdraw it. -/
theorem stake_leaves_only_by_buyback {env : Env} {s : ProgramState} (h : Reachable env s)
    (es : List Event) (hes : ∀ e ∈ es, e.callsBuyback = false) :
    s.stakePda ≤ (run env s es).stakePda :=
  (@run_preserves env (fun t => TalliesUnwritten t ∧ s.stakePda ≤ t.stakePda)
    (fun e => e.callsBuyback = false) (fun _ e he ht => ⟨step_talliesUnwritten e ht.1,
      Nat.le_trans ht.2 ((step_locksSol e ht.1.1).2 he)⟩) s es ⟨h.talliesUnwritten, le_rfl⟩
    hes).2

def stakeWithdrawal : List Event :=
  [.instruction (.emergencyWithdraw 1 3 0 .treasury),
    .instruction (.emergencyWithdraw 1 4 1000000000 .treasury)]

theorem stake_leaves_only_by_buyback_admin :
    Reachable deployEnv firstSettlement ∧ (∀ e ∈ stakeWithdrawal, e.callsBuyback = false) ∧
    firstSettlement.stakePda ≤ (run deployEnv firstSettlement stakeWithdrawal).stakePda :=
  ⟨firstSettlement_reachable, by decide,
    stake_leaves_only_by_buyback firstSettlement_reachable _ (by decide)⟩

end LuxorSwap
