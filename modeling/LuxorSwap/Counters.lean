import LuxorSwap.Machine
import LuxorSwap.CurveBounds

/-! # The running totals of `stake_info`

`stake_info` keeps running totals: the SOL staked and the stakes counted, the SOL rewards observed
and spent on buybacks, the LXR bought, claimed and forfeited, the two reward indices and
`buyback_count`. No instruction lowers any of them. In particular none hands staked SOL back:
there is no unstaking path, and `blacklist`, were it ever to run, moves a record's stake to the
admin record without touching `total_staked_sol`.

`buyback` runs on `buyback_requested`: a successful call requests while the flag is down and
settles while it is up, and only a settlement adds to `buyback_count`. So along every run the
successful calls alternate, request first, and `buyback_count` counts the settlements. The same
branch makes the two phase checks of the handler vacuous: `BuybackAlreadyRequested` and
`NoBuybackRequested` are never raised, and a call while a request is pending settles it.
-/

namespace LuxorSwap

structure StakeInfo.CountersLe (a b : StakeInfo) : Prop where
  totalStakedSol : a.totalStakedSol ≤ b.totalStakedSol
  totalStakeCount : a.totalStakeCount ≤ b.totalStakeCount
  totalSolRewardsAccrued : a.totalSolRewardsAccrued ≤ b.totalSolRewardsAccrued
  rewardPerTokenSolStored : a.rewardPerTokenSolStored ≤ b.rewardPerTokenSolStored
  totalLuxorRewardsAccrued : a.totalLuxorRewardsAccrued ≤ b.totalLuxorRewardsAccrued
  totalSolUsedForBuyback : a.totalSolUsedForBuyback ≤ b.totalSolUsedForBuyback
  rewardPerTokenLxrStored : a.rewardPerTokenLxrStored ≤ b.rewardPerTokenLxrStored
  totalLxrClaimed : a.totalLxrClaimed ≤ b.totalLxrClaimed
  totalLxrForfeited : a.totalLxrForfeited ≤ b.totalLxrForfeited
  buybackCount : a.buybackCount ≤ b.buybackCount

namespace StakeInfo.CountersLe

@[refl] theorem refl (a : StakeInfo) : CountersLe a a := by
  constructor <;> exact le_rfl

@[trans] theorem trans {a b c : StakeInfo} (h₁ : CountersLe a b) (h₂ : CountersLe b c) :
    CountersLe a c := by
  cases h₁; cases h₂; constructor <;> omega

end StakeInfo.CountersLe

def Instruction.isBuyback : Instruction → Bool
  | .buyback .. => true
  | _ => false

/-! ## What one instruction does to the totals -/

section
variable {si si' : StakeInfo} {lamports : Nat}

theorem accrueSolRewards_countersLe (h : accrueSolRewards si lamports = .ok si') :
    StakeInfo.CountersLe si si' := by
  unfold accrueSolRewards at h
  split at h
  · simp only [bind_eq_ok, unwrap_eq_ok, checkedSub_eq_some, checkedAdd_eq_some,
      checkedMul_eq_some, checkedDiv_eq_some, pure_eq_ok] at h
    obtain ⟨_, -, _, ⟨-, rfl⟩, _, -, _, -, _, ⟨-, rfl⟩, rfl⟩ := h
    constructor <;> simp
  · cases pure_eq_ok.1 h
    rfl

theorem observeSolRewards_countersLe (h : observeSolRewards si lamports = .ok si') :
    StakeInfo.CountersLe si si' := by
  cases observeSolRewards_ok h
  constructor <;> simp

end

section
variable {env : Env} {s s' : ProgramState}

theorem Instruction.exec_counters {i : Instruction} (h : i.exec env s = .ok s') :
    StakeInfo.CountersLe s.stakeInfo s'.stakeInfo ∧
    s'.stakeInfo.buybackCount = s.stakeInfo.buybackCount +
      (if i.isBuyback && s.stakeInfo.buybackRequested then 1 else 0) ∧
    s'.stakeInfo.buybackRequested =
      (if i.isBuyback then !s.stakeInfo.buybackRequested else s.stakeInfo.buybackRequested) := by
  cases i with
  | purchase =>
    obtain ⟨t, si₁, si₂, u, -, -, h₁, h₂, -, -, rfl⟩ := purchase_ok h
    have h₀ := accrueSolRewards_countersLe h₁
    obtain ⟨r, rfl, -⟩ := accrueSolRewards_ok h₁
    cases StakeInfo.recordPurchase_ok h₂
    exact ⟨h₀.trans (by constructor <;> simp), rfl, rfl⟩
  | manualPurchase =>
    obtain ⟨si₁, si₂, u, -, h₁, h₂, -, rfl⟩ := manualPurchase_ok h
    have h₀ := observeSolRewards_countersLe h₁
    cases observeSolRewards_ok h₁
    cases StakeInfo.recordManualPurchase_ok h₂
    exact ⟨h₀.trans (by constructor <;> simp), rfl, rfl⟩
  | redeem =>
    obtain ⟨c, p, f, v, -, -, -, -, -, -, rfl⟩ := redeem_ok h
    exact ⟨by constructor <;> simp, rfl, rfl⟩
  | blacklist =>
    obtain ⟨-, -, -, -, rfl⟩ := blacklist_ok h
    exact ⟨.refl _, rfl, rfl⟩
  | updateConfig =>
    obtain ⟨-, c, rfl⟩ := updateConfig_ok h
    exact ⟨.refl _, rfl, rfl⟩
  | buyback =>
    rcases (buyback_ok h).2 with ⟨hr, h⟩ | ⟨hr, h⟩
    · obtain ⟨fee, r, -, -, -, -, -, -, -, -, -, -, -, rfl⟩ := settleBuyback_ok h
      refine ⟨by constructor <;> simp, ?_, ?_⟩ <;> simp [Instruction.isBuyback, hr]
    · obtain ⟨si, -, -, -, h₁, -, -, rfl⟩ := requestBuyback_ok h
      have h₀ := accrueSolRewards_countersLe h₁
      obtain ⟨r, rfl, -⟩ := accrueSolRewards_ok h₁
      refine ⟨h₀.trans (by constructor <;> simp), ?_, ?_⟩ <;> simp [Instruction.isBuyback, hr]
  | emergencyWithdraw _ _ _ v =>
    obtain ⟨-, ⟨-, rfl⟩ | ⟨-, rfl⟩ | ⟨-, -, s₁, h₁, rfl⟩ | ⟨-, rfl⟩ | ⟨-, -, rfl⟩⟩ :=
      emergencyWithdraw_ok h
    · cases v <;> exact ⟨.refl _, rfl, rfl⟩
    · exact ⟨.refl _, rfl, rfl⟩
    · obtain ⟨-, rfl⟩ := payFromRewardVault_ok h₁
      cases v <;> exact ⟨.refl _, rfl, rfl⟩
    · exact ⟨.refl _, rfl, rfl⟩
    · exact ⟨.refl _, rfl, rfl⟩

theorem step_countersLe (e : Event) : StakeInfo.CountersLe s.stakeInfo (step env s e).stakeInfo := by
  cases e with
  | instruction i =>
    exact @commit_preserves (fun s' => StakeInfo.CountersLe s.stakeInfo s'.stakeInfo) s _
      (.refl _) fun _ hx => (Instruction.exec_counters hx).1
  | creditStake | creditSplit => rfl
  | depositLxr v => cases v <;> rfl

end

/-- Along every run, from any state, none of the running totals of `stake_info` goes down: not the
SOL staked, not the stake count, not the SOL rewards observed or spent on buybacks, not the LXR
bought, claimed or forfeited, not either reward index, not `buyback_count`. -/
theorem stake_totals_never_decrease {env : Env} (s : ProgramState) (es : List Event) :
    StakeInfo.CountersLe s.stakeInfo (run env s es).stakeInfo :=
  @run_preserves env (fun s' => StakeInfo.CountersLe s.stakeInfo s'.stakeInfo) (fun _ => True)
    (fun _ e _ h => h.trans (step_countersLe e)) s es (.refl _) fun _ _ => trivial

/-! ## The two phases of `buyback` -/

def Event.buybackSucceeds (env : Env) (s : ProgramState) : Event → Bool
  | .instruction i => i.isBuyback && (i.exec env s).isOk
  | _ => false

def Event.settlesBuyback (env : Env) (s : ProgramState) (e : Event) : Bool :=
  e.buybackSucceeds env s && s.stakeInfo.buybackRequested

def Event.requestsBuyback (env : Env) (s : ProgramState) (e : Event) : Bool :=
  e.buybackSucceeds env s && !s.stakeInfo.buybackRequested

def buybackSettlements (env : Env) (s : ProgramState) (es : List Event) : Nat :=
  sumRun env (fun s e => if e.settlesBuyback env s then 1 else 0) s es

def buybackRequests (env : Env) (s : ProgramState) (es : List Event) : Nat :=
  sumRun env (fun s e => if e.requestsBuyback env s then 1 else 0) s es

section
variable {env : Env} {s : ProgramState}

theorem step_buybackCycle (e : Event) :
    (step env s e).stakeInfo.buybackCount =
      s.stakeInfo.buybackCount + (if e.settlesBuyback env s then 1 else 0) ∧
    (step env s e).stakeInfo.buybackRequested =
      (if e.buybackSucceeds env s then !s.stakeInfo.buybackRequested
       else s.stakeInfo.buybackRequested) := by
  cases e with
  | instruction i =>
    cases hx : i.exec env s with
    | error => simp [step, hx, commit, Event.settlesBuyback, Event.buybackSucceeds, Except.isOk,
        Except.toBool]
    | ok s' =>
      simpa only [step, hx, commit, Event.settlesBuyback, Event.buybackSucceeds, Except.isOk,
        Except.toBool, Bool.and_true] using (Instruction.exec_counters hx).2
  | creditStake | creditSplit => exact ⟨rfl, rfl⟩
  | depositLxr v => cases v <;> exact ⟨rfl, rfl⟩

end

/-- Along every run, from any state, the successful `buyback` calls alternate between the two
phases: `buyback_count` grows by the settlements, and the requests made exceed the settlements by
how far `buyback_requested` went up (from initialisation: the requests are the settlements, plus
one while a request is pending). -/
theorem buyback_phases_alternate {env : Env} (s : ProgramState) (es : List Event) :
    s.stakeInfo.buybackCount + buybackSettlements env s es = (run env s es).stakeInfo.buybackCount ∧
    s.stakeInfo.buybackCount + (if s.stakeInfo.buybackRequested then 1 else 0) +
        buybackRequests env s es =
      (run env s es).stakeInfo.buybackCount +
        (if (run env s es).stakeInfo.buybackRequested then 1 else 0) := by
  constructor
  · exact (@sumRun_potential env _ (fun s => s.stakeInfo.buybackCount) (fun _ => True)
      (fun s e _ => (step_buybackCycle e).1) s es fun _ _ => trivial).symm
  · refine (@sumRun_potential env _
      (fun s => s.stakeInfo.buybackCount + if s.stakeInfo.buybackRequested then 1 else 0)
      (fun _ => True) (fun s e _ => ?_) s es fun _ _ => trivial).symm
    obtain ⟨hc, hr⟩ := @step_buybackCycle env s e
    simp only [hc, hr, Event.settlesBuyback, Event.requestsBuyback]
    rcases Bool.eq_false_or_eq_true (e.buybackSucceeds env s) with hb | hb <;>
    rcases Bool.eq_false_or_eq_true s.stakeInfo.buybackRequested with hq | hq <;> simp [hb, hq]

/-! ## The phase checks -/

section
variable {env : Env} {pool : PoolView} {now : Nat} {s : ProgramState}

theorem settleBuyback_raises_no_phase (hr : s.stakeInfo.buybackRequested = true) :
    RaisesOnly (fun e => e ≠ .program .buybackAlreadyRequested ∧
      e ≠ .program .noBuybackRequested) (settleBuyback env pool now s) := by
  unfold settleBuyback
  refine .bind (.require (.inl hr)) fun _ _ => ?_
  repeat (first | exact .pure | exact .unwrap (by decide) | exact .require (.inr (by decide)) |
    exact .okOr (by decide) | exact swapBaseInput_raises.mono fun e he => by rw [he]; decide |
    refine .bind ?_ fun _ _ => ?_)

theorem requestBuyback_raises_no_phase (hr : s.stakeInfo.buybackRequested = false) :
    RaisesOnly (fun e => e ≠ .program .buybackAlreadyRequested ∧
      e ≠ .program .noBuybackRequested) (requestBuyback env now s) := by
  unfold requestBuyback accrueSolRewards
  refine .bind (.require (.inl hr)) fun _ _ => ?_
  repeat (first | exact .pure | exact .unwrap (by decide) | exact .require (.inr (by decide)) |
    refine .bind ?_ fun _ _ => ?_ | split)

end

/-- `buyback` never raises `BuybackAlreadyRequested` or `NoBuybackRequested`, for any state,
signer, pool and time: it settles exactly when `buyback_requested` holds and requests exactly when
it does not, so each phase's own check always passes. A second call while a request is pending
does not fail as a repeated request; it attempts the settlement. -/
theorem buyback_phase_errors_unreachable {env : Env} {signer : Pubkey} {pool : PoolView}
    {now : Nat} {s : ProgramState} :
    buyback env signer pool now s ≠ .error (.program .buybackAlreadyRequested) ∧
    buyback env signer pool now s ≠ .error (.program .noBuybackRequested) := by
  have h : RaisesOnly (fun e => e ≠ .program .buybackAlreadyRequested ∧
      e ≠ .program .noBuybackRequested) (buyback env signer pool now s) := by
    unfold buyback
    refine .bind (.require (.inr (by decide))) fun _ _ => ?_
    split
    · exact settleBuyback_raises_no_phase ‹_›
    · exact requestBuyback_raises_no_phase (Bool.eq_false_iff.2 ‹_›)
  exact ⟨fun he => (h _ he).1 rfl, fun he => (h _ he).2 rfl⟩

end LuxorSwap
