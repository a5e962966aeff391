import LuxorSwap.Steps

/-! # Observing the stake account's SOL rewards

`purchase`, `manual_purchase` and a buyback request count the lamports the stake account gained
since `last_tracked_sol_balance` as rewards, then move lamports in or out and set the checkpoint
to the new balance. Every other instruction leaves the three numbers alone, except
`emergency_withdraw` with `param` 4, which takes lamports out without looking.
-/

namespace LuxorSwap

/-! ## What one instruction does to the observation -/

def ObservesSol (s s' : ProgramState) : Prop :=
  s'.stakeInfo.lastTrackedSolBalance = s'.stakePda ∧
  s'.stakeInfo.totalSolRewardsAccrued =
    s.stakeInfo.totalSolRewardsAccrued + (s.stakePda - s.stakeInfo.lastTrackedSolBalance)

def KeepsSol (s s' : ProgramState) : Prop :=
  s'.stakePda = s.stakePda ∧
  s'.stakeInfo.lastTrackedSolBalance = s.stakeInfo.lastTrackedSolBalance ∧
  s'.stakeInfo.totalSolRewardsAccrued = s.stakeInfo.totalSolRewardsAccrued

theorem purchase_observes_sol {env : Env} {owner : Pubkey} {pool : PoolView} {lxr maxSol now : Nat}
    {s s' : ProgramState} (h : purchase env owner pool lxr maxSol now s = .ok s') :
    ObservesSol s s' := by
  obtain ⟨t, si₁, si₂, u, -, -, h₁, h₂, -, -, rfl⟩ := purchase_ok h
  obtain ⟨r, rfl, -⟩ := accrueSolRewards_ok h₁
  cases StakeInfo.recordPurchase_ok h₂
  exact ⟨rfl, rfl⟩

theorem manualPurchase_observes_sol {env : Env} {signer user : Pubkey} {lxr sol now : Nat}
    {s s' : ProgramState} (h : manualPurchase env signer user lxr sol now s = .ok s') :
    ObservesSol s s' := by
  obtain ⟨si₁, si₂, u, -, h₁, h₂, -, rfl⟩ := manualPurchase_ok h
  cases observeSolRewards_ok h₁
  cases StakeInfo.recordManualPurchase_ok h₂
  exact ⟨rfl, rfl⟩

theorem requestBuyback_observes_sol {env : Env} {now : Nat} {s s' : ProgramState}
    (h : requestBuyback env now s = .ok s') : ObservesSol s s' := by
  obtain ⟨si, -, -, -, h₁, -, -, rfl⟩ := requestBuyback_ok h
  obtain ⟨r, rfl, -⟩ := accrueSolRewards_ok h₁
  exact ⟨rfl, rfl⟩

theorem settleBuyback_keeps_sol {env : Env} {pool : PoolView} {now : Nat} {s s' : ProgramState}
    (h : settleBuyback env pool now s = .ok s') : KeepsSol s s' := by
  obtain ⟨fee, r, -, -, -, -, -, -, -, -, -, -, -, rfl⟩ := settleBuyback_ok h
  exact ⟨rfl, rfl, rfl⟩

theorem KeepsStake.keepsSol {s s' : ProgramState} (h : KeepsStake s s') : KeepsSol s s' :=
  ⟨h.1, h.2.2.1, h.2.2.2.1⟩

def Instruction.withdrawsStake : Instruction → Bool
  | .emergencyWithdraw _ 4 _ _ => true
  | _ => false

theorem Instruction.exec_sol {env : Env} {i : Instruction} {s s' : ProgramState}
    (h : i.exec env s = .ok s') (hi : i.withdrawsStake = false) :
    ObservesSol s s' ∨ KeepsSol s s' := by
  cases i with
  | purchase => exact .inl (purchase_observes_sol h)
  | manualPurchase => exact .inl (manualPurchase_observes_sol h)
  | buyback signer pool now =>
    rcases (buyback_ok h).2 with ⟨-, hs⟩ | ⟨-, hr⟩
    · exact .inr (settleBuyback_keeps_sol hs)
    · exact .inl (requestBuyback_observes_sol hr)
  | emergencyWithdraw signer param value v =>
    refine .inr (emergencyWithdraw_keepsStake h ?_).keepsSol
    rintro rfl
    simp [Instruction.withdrawsStake] at hi
  | redeem | blacklist | updateConfig => exact .inr (Instruction.exec_keepsStake h rfl).keepsSol

/-! ## Over a run -/

def Event.stakeCredit : Event → Nat
  | .creditStake c => c
  | _ => 0

def Event.stakeCredits : List Event → Nat
  | [] => 0
  | e :: es => e.stakeCredit + Event.stakeCredits es

def Event.withdrawsStake : Event → Bool
  | .instruction i => i.withdrawsStake
  | _ => false

/-- The checkpoint is at most the balance, and what was realised plus what is not yet observed
is exactly `credited`. -/
def SolObserved (s : ProgramState) (credited : Nat) : Prop :=
  s.stakeInfo.lastTrackedSolBalance ≤ s.stakePda ∧
  s.stakeInfo.totalSolRewardsAccrued + (s.stakePda - s.stakeInfo.lastTrackedSolBalance) = credited

theorem genesis_solObserved (env : Env) (config : GlobalConfig) (split : Nat) :
    SolObserved (genesis env config split) 0 := by
  simp [SolObserved, genesis]

theorem solObserved_step {env : Env} {s : ProgramState} {c : Nat} {e : Event}
    (h : SolObserved s c) (he : e.withdrawsStake = false) :
    SolObserved (step env s e) (c + e.stakeCredit) := by
  obtain ⟨hle, hsum⟩ := h
  cases e with
  | instruction i =>
    simp only [step, Event.stakeCredit, Nat.add_zero]
    cases hx : i.exec env s with
    | error => exact ⟨hle, hsum⟩
    | ok s' =>
      rcases Instruction.exec_sol hx he with ⟨hl, ha⟩ | ⟨hp, hl, ha⟩
      · exact ⟨Nat.le_of_eq hl, by simp only [commit, hl, ha, Nat.sub_self]; omega⟩
      · exact ⟨by simp only [commit, hp, hl]; exact hle, by simp only [commit, hp, hl, ha]; omega⟩
  | creditStake l => exact ⟨by simp only [step]; omega, by simp only [step, Event.stakeCredit]; omega⟩
  | creditSplit l => exact ⟨hle, hsum⟩
  | depositLxr v a => cases v <;> exact ⟨hle, hsum⟩

theorem solObserved_run {env : Env} {s : ProgramState} {c : Nat} {es : List Event}
    (h : SolObserved s c) (hes : ∀ e ∈ es, e.withdrawsStake = false) :
    SolObserved (run env s es) (c + Event.stakeCredits es) := by
  induction es generalizing s c with
  | nil => exact h
  | cons e es ih =>
    have h' := ih (@solObserved_step env s c e h (hes e (.head _))) fun e he => hes e (.tail _ he)
    rwa [Event.stakeCredits, ← Nat.add_assoc]

/-- SOL reward observation counts every external credit exactly once and never a deposit: after
any run from `initialise_configs` without an emergency stake withdrawal, the checkpoint is at
most the stake account's balance, and the realised rewards plus the unobserved lamports are the
sum of the lamports credited from outside. -/
theorem sol_rewards_count_external_credits {env : Env} {signer : Pubkey} {config : GlobalConfig}
    {split : Nat} {s₀ : ProgramState} (h₀ : initialiseConfigs env signer config 0 split = .ok s₀)
    (es : List Event) (hes : ∀ e ∈ es, e.withdrawsStake = false) :
    (run env s₀ es).stakeInfo.lastTrackedSolBalance ≤ (run env s₀ es).stakePda ∧
    (run env s₀ es).stakeInfo.totalSolRewardsAccrued +
      ((run env s₀ es).stakePda - (run env s₀ es).stakeInfo.lastTrackedSolBalance) =
      Event.stakeCredits es := by
  obtain ⟨-, rfl⟩ := initialiseConfigs_ok h₀
  have h := @solObserved_run env _ _ _ (genesis_solObserved env config split) hes
  rwa [Nat.zero_add] at h

theorem sol_rewards_count_external_credits_deploy :
    let es := [.creditStake 5000000000, .instruction (.manualPurchase 1 7 1000000000 1000000000 1),
      .instruction (.buyback 1 deployPool 2), .creditStake 3]
    (∀ e ∈ es, e.withdrawsStake = false) ∧
    (run deployEnv (genesis deployEnv deployConfig 0) es).stakeInfo.totalSolRewardsAccrued +
      ((run deployEnv (genesis deployEnv deployConfig 0) es).stakePda -
        (run deployEnv (genesis deployEnv deployConfig 0) es).stakeInfo.lastTrackedSolBalance) =
      5000000003 :=
  ⟨by decide, (sol_rewards_count_external_credits deploy_initialises _ (by decide)).2⟩

/-! ## With emergency stake withdrawals

`emergency_withdraw` with `param` 4 takes lamports out of the stake account and leaves
`last_tracked_sol_balance` where it was, so the rewards that later refill the gap are never
observed. The observation still never counts a deposit: the realised rewards plus the unobserved
lamports never exceed what was credited from outside, and they fall short of it by at most what
the admin withdrew. In the program every `emergency_withdraw` is refused, on the admin record no
instruction creates, so nothing is withdrawn and the two bounds meet. -/

def Event.stakeWithdrawal (env : Env) (s : ProgramState) : Event → Nat
  | .instruction (.emergencyWithdraw signer 4 value v) =>
    if (emergencyWithdraw env signer 4 value v s).isOk then value else 0
  | _ => 0

def stakeWithdrawals (env : Env) (s : ProgramState) (es : List Event) : Nat :=
  sumRun env (fun s e => e.stakeWithdrawal env s) s es

section
variable {env : Env} {s s' : ProgramState}

theorem sumRun_stakeCredit {es : List Event} :
    sumRun env (fun _ e => e.stakeCredit) s es = Event.stakeCredits es := by
  induction es generalizing s with
  | nil => rfl
  | cons e es ih => simp only [sumRun, Event.stakeCredits, ih]

theorem Instruction.exec_withdrawsStake {i : Instruction} (h : i.exec env s = .ok s')
    (hi : i.withdrawsStake = true) :
    ∃ signer value v, i = .emergencyWithdraw signer 4 value v ∧ value ≤ s.stakePda ∧
      s' = { s with stakePda := s.stakePda - value } := by
  cases i with
  | emergencyWithdraw signer param value v =>
    obtain ⟨-, ⟨rfl, -⟩ | ⟨rfl, -⟩ | ⟨rfl, -⟩ | ⟨rfl, -⟩ | ⟨rfl, hle, rfl⟩⟩ :=
      emergencyWithdraw_ok h
    iterate 4 cases hi
    exact ⟨signer, value, v, rfl, hle, rfl⟩
  | _ => cases hi

theorem step_solBounds (e : Event) :
    (step env s e).stakeInfo.totalSolRewardsAccrued +
        ((step env s e).stakePda - (step env s e).stakeInfo.lastTrackedSolBalance) ≤
      s.stakeInfo.totalSolRewardsAccrued + (s.stakePda - s.stakeInfo.lastTrackedSolBalance) +
        e.stakeCredit ∧
    s.stakeInfo.totalSolRewardsAccrued + s.stakePda + e.stakeCredit +
        (step env s e).stakeInfo.lastTrackedSolBalance ≤
      (step env s e).stakeInfo.totalSolRewardsAccrued + (step env s e).stakePda +
        e.stakeWithdrawal env s + s.stakeInfo.lastTrackedSolBalance := by
  cases e with
  | instruction i =>
    cases hx : i.exec env s with
    | error => simp only [step, hx, commit, Event.stakeCredit]; omega
    | ok s' =>
      simp only [step, hx, commit, Event.stakeCredit]
      cases hw : i.withdrawsStake
      · rcases Instruction.exec_sol hx hw with ⟨hl, ha⟩ | ⟨hp, hl, ha⟩ <;> omega
      · obtain ⟨signer, value, v, rfl, hle, rfl⟩ := Instruction.exec_withdrawsStake hx hw
        simp only [Event.stakeWithdrawal, show emergencyWithdraw env signer 4 value v s = _ from hx,
          Except.isOk, Except.toBool, if_true]
        omega
  | creditStake | creditSplit => simp only [step, Event.stakeCredit]; omega
  | depositLxr v => cases v <;> simp only [step, Event.stakeCredit] <;> omega

end

/-- From initialisation, along every run, emergency stake withdrawals included, the realised SOL
rewards plus the lamports not yet observed never exceed the lamports credited to the stake account
from outside (no deposit is ever counted as a reward), and the credited lamports exceed them by at
most what the admin withdrew from the stake account: a withdrawal hides at most its own amount of
later rewards. -/
theorem sol_rewards_within_credits {env : Env} {signer : Pubkey} {config : GlobalConfig}
    {split : Nat} {s₀ : ProgramState} (h₀ : initialiseConfigs env signer config 0 split = .ok s₀)
    (es : List Event) :
    (run env s₀ es).stakeInfo.totalSolRewardsAccrued +
        ((run env s₀ es).stakePda - (run env s₀ es).stakeInfo.lastTrackedSolBalance) ≤
      Event.stakeCredits es ∧
    Event.stakeCredits es + (run env s₀ es).stakeInfo.lastTrackedSolBalance ≤
      (run env s₀ es).stakeInfo.totalSolRewardsAccrued + (run env s₀ es).stakePda +
        stakeWithdrawals env s₀ es := by
  obtain ⟨-, rfl⟩ := initialiseConfigs_ok h₀
  have h₁ := @sumRun_drift env (fun _ _ => 0) (fun _ => True) (fun _ => 0)
    (fun s => s.stakeInfo.totalSolRewardsAccrued + (s.stakePda - s.stakeInfo.lastTrackedSolBalance))
    (fun _ e => e.stakeCredit) (fun s e _ => by have := (@step_solBounds env s e).1; dsimp only; omega)
    (genesis env config split) es fun _ _ => trivial
  have h₂ := @sumRun_drift env (fun _ e => e.stakeCredit) (fun _ => True)
    (fun s => s.stakeInfo.totalSolRewardsAccrued + s.stakePda)
    (fun s => s.stakeInfo.lastTrackedSolBalance) (fun s e => e.stakeWithdrawal env s)
    (fun s e _ => (step_solBounds e).2) (genesis env config split) es fun _ _ => trivial
  simp only [sumRun_zero, sumRun_stakeCredit] at h₁ h₂
  /- Initialisation has realised nothing, and its checkpoint is the stake account's balance. -/
  have ha : (genesis env config split).stakeInfo.totalSolRewardsAccrued = 0 := rfl
  have hl : (genesis env config split).stakeInfo.lastTrackedSolBalance =
      (genesis env config split).stakePda := rfl
  unfold stakeWithdrawals
  omega

def withdrawalThenRewarded : List Event :=
  [.instruction (.manualPurchase 1 7 1000000000 1000000000 1),
   .instruction (.emergencyWithdraw 1 4 500000000 .treasury), .creditStake 300000000,
   .instruction (.manualPurchase 1 8 1000000000 1000000000 2)]

theorem sol_rewards_within_credits_rewarded :
    initialiseConfigs deployEnv 1 deployConfig 0 0 = .ok (genesis deployEnv deployConfig 0) ∧
    stakeWithdrawals deployEnv (genesis deployEnv deployConfig 0) withdrawalThenRewarded = 0 ∧
    Event.stakeCredits withdrawalThenRewarded = 300000000 ∧
    (run deployEnv (genesis deployEnv deployConfig 0) withdrawalThenRewarded).stakeInfo.totalSolRewardsAccrued +
        ((run deployEnv (genesis deployEnv deployConfig 0) withdrawalThenRewarded).stakePda -
          (run deployEnv (genesis deployEnv deployConfig 0) withdrawalThenRewarded).stakeInfo.lastTrackedSolBalance) ≤
      Event.stakeCredits withdrawalThenRewarded ∧
    Event.stakeCredits withdrawalThenRewarded +
        (run deployEnv (genesis deployEnv deployConfig 0) withdrawalThenRewarded).stakeInfo.lastTrackedSolBalance ≤
      (run deployEnv (genesis deployEnv deployConfig 0) withdrawalThenRewarded).stakeInfo.totalSolRewardsAccrued +
        (run deployEnv (genesis deployEnv deployConfig 0) withdrawalThenRewarded).stakePda +
        stakeWithdrawals deployEnv (genesis deployEnv deployConfig 0) withdrawalThenRewarded :=
  ⟨deploy_initialises, by decide, rfl,
    sol_rewards_within_credits deploy_initialises withdrawalThenRewarded⟩

/-! ## Lamports that arrive before any stake

The observation divides the new rewards by `total_staked_sol` with no guard. Anyone can send
lamports to the stake account before the first stake, and from then on `purchase` and a buyback
request panic until `manual_purchase`, which observes without dividing, stakes something. -/

def creditedBeforeStake : ProgramState :=
  step deployEnv (genesis deployEnv deployConfig 0) (.creditStake 1)

/-- The lamport reaches a state where the observation runs with no stake: `purchase` prices the
trade, then panics in the `checked_div(total_staked_sol)` of the observation. -/
theorem stake_credit_before_first_stake :
    Reachable deployEnv creditedBeforeStake ∧
    creditedBeforeStake.stakeInfo.lastTrackedSolBalance < creditedBeforeStake.stakePda ∧
    creditedBeforeStake.stakeInfo.totalStakedSol = 0 ∧
    purchasePrice deployEnv.fees deployPool deployConfig 0 0 1000000000 = .ok 1003008775 ∧
    accrueSolRewards creditedBeforeStake.stakeInfo creditedBeforeStake.stakePda = .error .panic ∧
    purchase deployEnv 7 deployPool 1000000000 1000000000000 1 creditedBeforeStake = .error .panic :=
  ⟨.step _ (.init deploy_initialises), by decide, rfl, rfl, rfl, rfl⟩

end LuxorSwap
