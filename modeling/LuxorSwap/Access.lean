import LuxorSwap.Machine

/-! # Who can change what

Five instructions are the admin's: each fails unless the signer is the configured admin or the
hard-coded one (`blacklist` and `emergency_withdraw` fail anyway, on the admin record no
instruction creates). The two left to anyone, `purchase` and `redeem`, never touch the
configuration, so a run without the admin's signature leaves it as it was.
-/

namespace LuxorSwap

def Instruction.adminSigner : Instruction → Option Pubkey
  | .manualPurchase signer .. | .blacklist signer _ | .updateConfig signer .. | .buyback signer ..
  | .emergencyWithdraw signer .. => some signer
  | .purchase .. | .redeem .. => none

def Event.adminSigner : Event → Option Pubkey
  | .instruction i => i.adminSigner
  | _ => none

section
variable {env : Env} {i : Instruction} {e : Event} {s s' : ProgramState} {signer : Pubkey}

theorem Instruction.exec_of_not_admin (hi : i.adminSigner = some signer)
    (hna : ¬ isAdmin env s signer) (s' : ProgramState) : i.exec env s ≠ .ok s' := by
  intro h
  cases i with
  | purchase | redeem => cases hi
  | manualPurchase =>
    cases hi
    obtain ⟨-, -, -, hadm, -⟩ := manualPurchase_ok h
    exact hna hadm
  | blacklist => cases hi; exact hna (blacklist_ok h).1
  | updateConfig => cases hi; exact hna (updateConfig_ok h).1
  | buyback => cases hi; exact hna (buyback_ok h).1
  | emergencyWithdraw => cases hi; exact hna (emergencyWithdraw_ok h).1

theorem Instruction.exec_globalConfig (h : i.exec env s = .ok s') (hi : i.adminSigner = none) :
    s'.globalConfig = s.globalConfig := by
  cases i with
  | purchase =>
    obtain ⟨t, si₁, si₂, u, -, -, -, -, -, -, rfl⟩ := purchase_ok h
    rfl
  | redeem =>
    obtain ⟨c, p, f, v, -, -, -, -, -, -, rfl⟩ := redeem_ok h
    rfl
  | manualPurchase | blacklist | updateConfig | buyback | emergencyWithdraw => cases hi

theorem Event.step_of_not_admin (hsig : e.adminSigner = some signer)
    (hna : ¬ isAdmin env s signer) : step env s e = s := by
  cases e with
  | instruction i =>
    cases hx : i.exec env s with
    | ok s' => exact absurd hx (Instruction.exec_of_not_admin hsig hna s')
    | error => simp only [step, hx, commit]
  | _ => cases hsig

theorem Event.step_globalConfig (hsig : e.adminSigner = none) :
    (step env s e).globalConfig = s.globalConfig := by
  cases e with
  | instruction i =>
    exact @commit_preserves (fun s' => s'.globalConfig = s.globalConfig) s _ rfl
      fun _ hx => Instruction.exec_globalConfig hx hsig
  | creditStake | creditSplit => rfl
  | depositLxr v => cases v <;> rfl

theorem run_without_admin {P : ProgramState → Prop} {es : List Event}
    (hes : ∀ e ∈ es, ∀ signer, e.adminSigner = some signer → ¬ isAdmin env s signer)
    (hP : ∀ s' e, e.adminSigner = none → P s' → P (step env s' e)) (h : P s) :
    (run env s es).globalConfig = s.globalConfig ∧ P (run env s es) := by
  refine @run_preserves env (fun s' => s'.globalConfig = s.globalConfig ∧ P s')
    (fun e => ∀ signer, e.adminSigner = some signer → ¬ isAdmin env s signer) ?_ s es ⟨rfl, h⟩ hes
  rintro s' e he ⟨hcfg, hs'⟩
  cases hsig : e.adminSigner with
  | some signer =>
    have hna : ¬ isAdmin env s' signer := by
      simpa only [isAdmin, hcfg] using he signer hsig
    rw [Event.step_of_not_admin hsig hna]
    exact ⟨hcfg, hs'⟩
  | none => exact ⟨(Event.step_globalConfig hsig).trans hcfg, hP s' e hsig hs'⟩

end

/-- No run whose admin-only instructions are all signed by keys other than the admins of its first
state changes the configuration: those instructions fail, and the others leave it alone. -/
theorem config_fixed_without_admin {env : Env} {s : ProgramState} {es : List Event}
    (hes : ∀ e ∈ es, ∀ signer, e.adminSigner = some signer → ¬ isAdmin env s signer) :
    (run env s es).globalConfig = s.globalConfig :=
  (@run_without_admin env s (fun _ => True) es hes (fun _ _ _ _ => trivial) trivial).1

def intruderRun : List Event :=
  [.instruction (.updateConfig 2 4 0 none), .instruction (.emergencyWithdraw 2 0 0 .reward),
    .instruction (.blacklist 2 7)]

theorem config_fixed_without_admin_intruder :
    (∀ e ∈ intruderRun, ∀ signer, e.adminSigner = some signer →
      ¬ isAdmin deployEnv firstSettlement signer) ∧
    (run deployEnv firstSettlement intruderRun).globalConfig = firstSettlement.globalConfig := by
  have hes : ∀ e ∈ intruderRun, ∀ signer, e.adminSigner = some signer →
      ¬ isAdmin deployEnv firstSettlement signer := by
    intro e he signer hs
    simp only [intruderRun, List.mem_cons, List.mem_singleton, List.not_mem_nil, or_false] at he
    rcases he with rfl | rfl | rfl <;> cases hs <;> decide
  exact ⟨hes, config_fixed_without_admin hes⟩

/-! ## What leaves without the admin

An admin-only instruction signed by another key changes nothing, so a run whose admin-only
instructions are all so signed keeps whatever the other events keep. None of those moves a
lamport out: `purchase` pays into the stake account and `redeem` pays LXR only. -/

/-- The lamports the program holds: the stake account, the pending split account and the SOL
treasury. -/
def programSol (s : ProgramState) : Nat := s.stakePda + s.stakeSplitPda + s.solTreasuryVault

section
variable {env : Env} {e : Event} {s s' : ProgramState}

theorem Instruction.exec_programSol {i : Instruction} (h : i.exec env s = .ok s')
    (hi : i.adminSigner = none) : programSol s ≤ programSol s' := by
  cases i with
  | purchase =>
    obtain ⟨t, si₁, si₂, u, -, -, -, -, -, -, rfl⟩ := purchase_ok h
    simp only [programSol]
    omega
  | redeem =>
    obtain ⟨c, p, f, v, -, -, -, -, -, -, rfl⟩ := redeem_ok h
    exact le_rfl
  | manualPurchase | blacklist | updateConfig | buyback | emergencyWithdraw => cases hi

theorem step_programSol (he : e.adminSigner = none) : programSol s ≤ programSol (step env s e) := by
  cases e with
  | instruction i =>
    exact @commit_preserves (fun s' => programSol s ≤ programSol s') s _ le_rfl
      fun _ hx => Instruction.exec_programSol hx he
  | creditStake | creditSplit => simp only [step, programSol]; omega
  | depositLxr v => cases v <;> exact le_rfl

end

/-- No lamport leaves the program without the admin's signature: along every run whose
admin-only instructions are all signed by keys other than the admins of its first state, the
stake account, the pending split account and the SOL treasury together never hold less. -/
theorem sol_never_leaves_without_admin {env : Env} {s : ProgramState} {es : List Event}
    (hes : ∀ e ∈ es, ∀ signer, e.adminSigner = some signer → ¬ isAdmin env s signer) :
    s.stakePda + s.stakeSplitPda + s.solTreasuryVault ≤
      (run env s es).stakePda + (run env s es).stakeSplitPda + (run env s es).solTreasuryVault :=
  (@run_without_admin env s (fun s' => programSol s ≤ programSol s') es hes
    (fun _ _ he h => Nat.le_trans h (step_programSol he)) (Nat.le_refl _)).2

def thiefRun : List Event :=
  [.instruction (.emergencyWithdraw 2 4 1000000000 .treasury),
    .instruction (.emergencyWithdraw 2 1 0 .treasury), .instruction (.redeem 7 1000000000)]

theorem sol_never_leaves_without_admin_thief :
    (∀ e ∈ thiefRun, ∀ signer, e.adminSigner = some signer →
      ¬ isAdmin deployEnv firstSettlement signer) ∧
    firstSettlement.stakePda + firstSettlement.stakeSplitPda + firstSettlement.solTreasuryVault ≤
      (run deployEnv firstSettlement thiefRun).stakePda +
        (run deployEnv firstSettlement thiefRun).stakeSplitPda +
        (run deployEnv firstSettlement thiefRun).solTreasuryVault := by
  have hes : ∀ e ∈ thiefRun, ∀ signer, e.adminSigner = some signer →
      ¬ isAdmin deployEnv firstSettlement signer := by
    intro e he signer hs
    simp only [thiefRun, List.mem_cons, List.mem_singleton, List.not_mem_nil, or_false] at he
    rcases he with rfl | rfl | rfl <;> cases hs <;> decide
  exact ⟨hes, sol_never_leaves_without_admin hes⟩

end LuxorSwap
