import Mathlib.Data.List.Nodup
import LuxorSwap.Machine

/-! # The stake records

Every `user_stake_info` account and the admin record hold a share of the stake that
`stake_info.total_staked_sol` counts, and a checkpoint of the LXR index. Each instruction writes
at most one user record and the admin record: it adds stake to a record and to the total, moves
a record's stake to the admin record, or moves no stake; and every checkpoint it writes is the
index. So, over any run, the records' stake adds up to the total and no checkpoint passes the
index.
-/

namespace LuxorSwap

/-! ## Stake over a list of records

The records form a map over every key; a run writes finitely many of them. A sum over all of
them is a sum over a duplicate-free list of keys that covers every record holding stake. -/

def stakeOf (records : Pubkey → UserStakeInfo) : List Pubkey → Nat
  | [] => 0
  | k :: keys => (records k).totalStakedSol + stakeOf records keys

def Covers (records : Pubkey → UserStakeInfo) (keys : List Pubkey) : Prop :=
  ∀ k, k ∉ keys → (records k).totalStakedSol = 0

section Sums
variable {f : Pubkey → UserStakeInfo} {o : Pubkey} {u : UserStakeInfo} {keys : List Pubkey}

theorem stakeOf_congr {g : Pubkey → UserStakeInfo}
    (h : ∀ k ∈ keys, (f k).totalStakedSol = (g k).totalStakedSol) : stakeOf f keys = stakeOf g keys := by
  induction keys with
  | nil => rfl
  | cons k keys ih => simp only [stakeOf, h k (.head _), ih fun j hj => h j (.tail _ hj)]

theorem stakeOf_update_of_not_mem (ho : o ∉ keys) :
    stakeOf (Function.update f o u) keys = stakeOf f keys :=
  stakeOf_congr fun k hk => by rw [Function.update_noteq fun (h : k = o) => ho (h ▸ hk)]

theorem stakeOf_update_of_mem (hnd : keys.Nodup) (ho : o ∈ keys) :
    stakeOf (Function.update f o u) keys + (f o).totalStakedSol = stakeOf f keys + u.totalStakedSol := by
  induction keys with
  | nil => cases ho
  | cons k keys ih =>
    obtain ⟨hk, hnd⟩ := List.nodup_cons.1 hnd
    rcases List.mem_cons.1 ho with rfl | ho
    · simp only [stakeOf, Function.update_same, stakeOf_update_of_not_mem hk]
      omega
    · have := ih hnd ho
      simp only [stakeOf, Function.update_noteq fun (h : k = o) => hk (h ▸ ho)]
      omega

theorem stakeOf_default : stakeOf (fun _ => {}) keys = 0 := by
  induction keys with
  | nil => rfl
  | cons k keys ih => simpa [stakeOf] using ih

theorem Covers.of_update (h : Covers (Function.update f o u) keys) (ho : o ∈ keys) :
    Covers f keys := by
  intro k hk
  have hko : k ≠ o := fun h => hk (h ▸ ho)
  simpa only [Function.update_noteq hko] using h k hk

theorem Covers.cons_of_update (h : Covers (Function.update f o u) keys) : Covers f (o :: keys) := by
  intro k hk
  have hko : k ≠ o := fun h => hk (h ▸ .head _)
  simpa only [Function.update_noteq hko] using h k fun hm => hk (.tail _ hm)

theorem stakeOf_update_of_covers (hnd : keys.Nodup) (hcov : Covers (Function.update f o u) keys) :
    ∃ keys₀ : List Pubkey, keys₀.Nodup ∧ Covers f keys₀ ∧
      stakeOf (Function.update f o u) keys + (f o).totalStakedSol = stakeOf f keys₀ + u.totalStakedSol := by
  by_cases ho : o ∈ keys
  · exact ⟨keys, hnd, hcov.of_update ho, stakeOf_update_of_mem hnd ho⟩
  · have hu : u.totalStakedSol = 0 := by simpa only [Function.update_same] using hcov o ho
    refine ⟨o :: keys, List.nodup_cons.2 ⟨ho, hnd⟩, hcov.cons_of_update, ?_⟩
    rw [stakeOf_update_of_not_mem ho, stakeOf, hu]
    omega

end Sums

/-! ## What one instruction writes -/

/-- What a successful instruction does to the stake: one record and the total gain `d`, or one
record's stake moves to the admin record, or no stake moves. -/
inductive StakeMove (s s' : ProgramState) : Prop
  | stake (o : Pubkey) (u : UserStakeInfo) (d : Nat) :
      s'.userStakeInfo = Function.update s.userStakeInfo o u →
      u.totalStakedSol = (s.userStakeInfo o).totalStakedSol + d →
      s'.adminStakeInfo.totalStakedSol = s.adminStakeInfo.totalStakedSol →
      s'.stakeInfo.totalStakedSol = s.stakeInfo.totalStakedSol + d → StakeMove s s'
  | reassign (o : Pubkey) (u : UserStakeInfo) :
      s'.userStakeInfo = Function.update s.userStakeInfo o u → u.totalStakedSol = 0 →
      s'.adminStakeInfo.totalStakedSol =
        s.adminStakeInfo.totalStakedSol + (s.userStakeInfo o).totalStakedSol →
      s'.stakeInfo.totalStakedSol = s.stakeInfo.totalStakedSol → StakeMove s s'
  | keep : s'.userStakeInfo = s.userStakeInfo →
      s'.adminStakeInfo.totalStakedSol = s.adminStakeInfo.totalStakedSol →
      s'.stakeInfo.totalStakedSol = s.stakeInfo.totalStakedSol → StakeMove s s'

def CheckpointMoves (c c' index' : Nat) : Prop := c' = c ∨ c' = index'

/-- What a successful instruction does to the stake records: a `StakeMove`, an index that does
not go down, and checkpoints that stay or move to the new index. -/
structure RecordStep (s s' : ProgramState) : Prop where
  stake : StakeMove s s'
  index_le : s.stakeInfo.rewardPerTokenLxrStored ≤ s'.stakeInfo.rewardPerTokenLxrStored
  checkpoint : ∀ k, CheckpointMoves (s.userStakeInfo k).lxrRewardPerTokenCompleted
    (s'.userStakeInfo k).lxrRewardPerTokenCompleted s'.stakeInfo.rewardPerTokenLxrStored
  adminCheckpoint : CheckpointMoves s.adminStakeInfo.lxrRewardPerTokenCompleted
    s'.adminStakeInfo.lxrRewardPerTokenCompleted s'.stakeInfo.rewardPerTokenLxrStored

section Steps
variable {env : Env} {s s' : ProgramState}

theorem RecordStep.of_keep (hr : s'.userStakeInfo = s.userStakeInfo)
    (ha : s'.adminStakeInfo = s.adminStakeInfo) (ht : s'.stakeInfo.totalStakedSol = s.stakeInfo.totalStakedSol)
    (hi : s.stakeInfo.rewardPerTokenLxrStored ≤ s'.stakeInfo.rewardPerTokenLxrStored) :
    RecordStep s s' :=
  ⟨.keep hr (by rw [ha]) ht, hi, fun k => .inl (by rw [hr]), .inl (by rw [ha])⟩

theorem RecordStep.refl : RecordStep s s := .of_keep rfl rfl rfl le_rfl

theorem RecordStep.of_update {o : Pubkey} {u : UserStakeInfo} {d : Nat}
    (hr : s'.userStakeInfo = Function.update s.userStakeInfo o u)
    (hu : u.totalStakedSol = (s.userStakeInfo o).totalStakedSol + d)
    (ht : s'.stakeInfo.totalStakedSol = s.stakeInfo.totalStakedSol + d)
    (hi : s'.stakeInfo.rewardPerTokenLxrStored = s.stakeInfo.rewardPerTokenLxrStored)
    (hc : CheckpointMoves (s.userStakeInfo o).lxrRewardPerTokenCompleted u.lxrRewardPerTokenCompleted
      s.stakeInfo.rewardPerTokenLxrStored)
    (ha : s'.adminStakeInfo = s.adminStakeInfo) : RecordStep s s' := by
  refine ⟨.stake o u d hr hu (by rw [ha]) ht, Nat.le_of_eq hi.symm, fun k => ?_, .inl (by rw [ha])⟩
  rw [hr, hi]
  by_cases hko : k = o
  · subst hko
    rwa [Function.update_same]
  · exact .inl (by rw [Function.update_noteq hko])

theorem purchase_recordStep {owner : Pubkey} {pool : PoolView} {lxr maxSol now : Nat}
    (h : purchase env owner pool lxr maxSol now s = .ok s') : RecordStep s s' := by
  obtain ⟨t, si₁, si₂, u, -, -, h₁, h₂, hu, -, rfl⟩ := purchase_ok h
  obtain ⟨r, rfl, -⟩ := accrueSolRewards_ok h₁
  cases StakeInfo.recordPurchase_ok h₂
  cases UserStakeInfo.recordPurchase_ok hu
  refine .of_update rfl rfl rfl rfl ?_ rfl
  split
  · exact .inr rfl
  · exact .inl rfl

theorem manualPurchase_recordStep {signer user : Pubkey} {lxr sol now : Nat}
    (h : manualPurchase env signer user lxr sol now s = .ok s') : RecordStep s s' := by
  obtain ⟨si₁, si₂, u, -, h₁, h₂, hu, rfl⟩ := manualPurchase_ok h
  cases observeSolRewards_ok h₁
  cases StakeInfo.recordManualPurchase_ok h₂
  rcases UserStakeInfo.recordManualPurchase_ok hu with ⟨-, rfl⟩ | ⟨-, -, rfl⟩ <;>
  exact .of_update rfl rfl rfl rfl (.inr rfl) rfl

theorem redeem_recordStep {owner : Pubkey} {amount : Nat} (h : redeem owner amount s = .ok s') :
    RecordStep s s' := by
  obtain ⟨c, p, f, v, -, -, -, -, -, -, rfl⟩ := redeem_ok h
  exact .of_keep rfl rfl rfl le_rfl

theorem blacklistAdmin_totalStakedSol (s : ProgramState) (signer : Pubkey) :
    (blacklistAdmin s signer).totalStakedSol = s.adminStakeInfo.totalStakedSol := by
  unfold blacklistAdmin
  split <;> rfl

theorem blacklist_recordStep {signer user : Pubkey} (h : blacklist env signer user s = .ok s') :
    RecordStep s s' := by
  obtain ⟨-, -, -, -, rfl⟩ := blacklist_ok h
  refine ⟨.reassign user _ rfl rfl ?_ rfl, le_rfl, fun k => ?_, .inr rfl⟩
  · simp only [blacklistAdmin_totalStakedSol]
  · by_cases hku : k = user
    · subst hku
      exact .inr (by simp only [Function.update_same])
    · exact .inl (by simp only [Function.update_noteq hku])

theorem emergencyWithdraw_recordStep {signer : Pubkey} {param value : Nat} {v : LxrVault}
    (h : emergencyWithdraw env signer param value v s = .ok s') : RecordStep s s' := by
  obtain ⟨-, ⟨-, rfl⟩ | ⟨-, rfl⟩ | ⟨-, -, s₁, h₁, rfl⟩ | ⟨-, rfl⟩ | ⟨-, -, rfl⟩⟩ :=
    emergencyWithdraw_ok h
  · cases v <;> exact .of_keep rfl rfl rfl le_rfl
  · exact .of_keep rfl rfl rfl le_rfl
  · obtain ⟨-, rfl⟩ := payFromRewardVault_ok h₁
    cases v <;>
    exact ⟨.keep rfl rfl rfl, le_rfl, fun _ => .inl rfl, .inr rfl⟩
  · exact .refl
  · exact .of_keep rfl rfl rfl le_rfl

theorem buyback_recordStep {signer : Pubkey} {pool : PoolView} {now : Nat}
    (h : buyback env signer pool now s = .ok s') : RecordStep s s' := by
  rcases (buyback_ok h).2 with ⟨-, h⟩ | ⟨-, h⟩
  · obtain ⟨fee, r, -, -, -, -, -, -, -, -, -, -, -, rfl⟩ := settleBuyback_ok h
    exact .of_keep rfl rfl rfl (Nat.le_add_right _ _)
  · obtain ⟨si, -, -, -, h₁, -, -, rfl⟩ := requestBuyback_ok h
    obtain ⟨r, rfl, -⟩ := accrueSolRewards_ok h₁
    exact .of_keep rfl rfl rfl le_rfl

theorem Instruction.exec_recordStep {i : Instruction} (h : i.exec env s = .ok s') :
    RecordStep s s' := by
  cases i with
  | purchase => exact purchase_recordStep h
  | manualPurchase => exact manualPurchase_recordStep h
  | redeem => exact redeem_recordStep h
  | blacklist => exact blacklist_recordStep h
  | updateConfig =>
    obtain ⟨-, c, rfl⟩ := updateConfig_ok h
    exact .of_keep rfl rfl rfl le_rfl
  | buyback => exact buyback_recordStep h
  | emergencyWithdraw => exact emergencyWithdraw_recordStep h

theorem step_recordStep (e : Event) : RecordStep s (step env s e) := by
  cases e with
  | instruction i =>
    exact @commit_preserves (RecordStep s) s _ .refl fun _ h => Instruction.exec_recordStep h
  | creditStake | creditSplit => exact .of_keep rfl rfl rfl le_rfl
  | depositLxr v => cases v <;> exact .of_keep rfl rfl rfl le_rfl

end Steps

/-! ## Stake conservation -/

def FiniteStake (s : ProgramState) : Prop :=
  ∃ keys : List Pubkey, keys.Nodup ∧ Covers s.userStakeInfo keys

/-- Over every duplicate-free list covering the records with stake, the records' stake and the
admin record's add up to `total_staked_sol`. -/
def StakeConserved (s : ProgramState) : Prop :=
  ∀ keys : List Pubkey, keys.Nodup → Covers s.userStakeInfo keys →
    stakeOf s.userStakeInfo keys + s.adminStakeInfo.totalStakedSol = s.stakeInfo.totalStakedSol

section Conservation
variable {s s' : ProgramState}

theorem StakeMove.finiteStake (hm : StakeMove s s') (h : FiniteStake s) : FiniteStake s' := by
  obtain ⟨keys, hnd, hcov⟩ := h
  cases hm with
  | stake o u _ hr | reassign o u hr =>
    /- The written key joins the list. -/
    refine ⟨keys.insert o, hnd.insert, fun k hk => ?_⟩
    rw [List.mem_insert_iff, not_or] at hk
    rw [hr, Function.update_noteq hk.1]
    exact hcov k hk.2
  | keep hr => exact ⟨keys, hnd, by rwa [hr]⟩

theorem StakeMove.stakeConserved (hm : StakeMove s s') (h : StakeConserved s) :
    StakeConserved s' := by
  intro keys hnd hcov
  cases hm with
  | stake o u _ hr hu ha ht | reassign o u hr hu ha ht =>
    rw [hr] at hcov ⊢
    obtain ⟨keys₀, hnd₀, hcov₀, hsum⟩ := stakeOf_update_of_covers hnd hcov
    have := h keys₀ hnd₀ hcov₀
    omega
  | keep hr ha ht =>
    rw [hr] at hcov ⊢
    rw [ha, ht]
    exact h keys hnd hcov

theorem genesis_stakeConserved (env : Env) (config : GlobalConfig) (split : Nat) :
    StakeConserved (genesis env config split) :=
  fun _ _ _ => stakeOf_default

end Conservation

/-! ## Checkpoints -/

/-- No checkpoint, the admin record's included, is past the LXR index. -/
def CheckpointsBelow (s : ProgramState) : Prop :=
  (∀ k, (s.userStakeInfo k).lxrRewardPerTokenCompleted ≤ s.stakeInfo.rewardPerTokenLxrStored) ∧
  s.adminStakeInfo.lxrRewardPerTokenCompleted ≤ s.stakeInfo.rewardPerTokenLxrStored

theorem CheckpointMoves.le {c c' index index' : Nat} (hm : CheckpointMoves c c' index')
    (hc : c ≤ index) (hi : index ≤ index') : c' ≤ index' := by
  rcases hm with rfl | rfl <;> omega

theorem RecordStep.checkpointsBelow {s s' : ProgramState} (hm : RecordStep s s')
    (h : CheckpointsBelow s) : CheckpointsBelow s' :=
  ⟨fun k => (hm.checkpoint k).le (h.1 k) hm.index_le, hm.adminCheckpoint.le h.2 hm.index_le⟩

theorem index_le_run (env : Env) (s : ProgramState) (es : List Event) :
    s.stakeInfo.rewardPerTokenLxrStored ≤ (run env s es).stakeInfo.rewardPerTokenLxrStored :=
  @run_preserves env (fun s' => s.stakeInfo.rewardPerTokenLxrStored ≤ s'.stakeInfo.rewardPerTokenLxrStored)
    (fun _ => True) (fun _ e _ h => Nat.le_trans h (step_recordStep e).index_le) s es
    (Nat.le_refl _) fun _ _ => trivial

/-! ## Over every run -/

section Reachable
variable {env : Env} {s : ProgramState}

theorem Reachable.finiteStake (h : Reachable env s) : FiniteStake s :=
  Reachable.induction
    (fun _ _ _ _ hi => by rw [(initialiseConfigs_ok hi).2]; exact ⟨[], List.nodup_nil, fun _ _ => rfl⟩)
    (fun _ e _ hs => (step_recordStep e).stake.finiteStake hs) h

theorem Reachable.stakeConserved (h : Reachable env s) : StakeConserved s :=
  Reachable.induction
    (fun _ _ _ _ hi => by rw [(initialiseConfigs_ok hi).2]; exact genesis_stakeConserved _ _ _)
    (fun _ e _ hs => (step_recordStep e).stake.stakeConserved hs) h

theorem Reachable.checkpointsBelow (h : Reachable env s) : CheckpointsBelow s :=
  Reachable.induction
    (fun _ _ _ _ hi => by rw [(initialiseConfigs_ok hi).2]; exact ⟨fun _ => Nat.le_refl 0, Nat.le_refl 0⟩)
    (fun _ e _ hs => (step_recordStep e).checkpointsBelow hs) h

/-- Stake accounting is conserved: in every reachable state finitely many records hold stake,
and over any duplicate-free list of keys that covers them, the user records' stake plus the
admin record's is `total_staked_sol`. -/
theorem stake_records_sum_to_total (h : Reachable env s) :
    (∃ keys : List Pubkey, keys.Nodup ∧ Covers s.userStakeInfo keys) ∧
    ∀ keys : List Pubkey, keys.Nodup → Covers s.userStakeInfo keys →
      stakeOf s.userStakeInfo keys + s.adminStakeInfo.totalStakedSol = s.stakeInfo.totalStakedSol :=
  ⟨h.finiteStake, h.stakeConserved⟩

def secondBuyer : ProgramState :=
  run deployEnv firstSettlement
    [.depositLxr .treasury 1000000000000000,
      .instruction (.purchase 2 deployPool 1000000000 1000000000000 4)]

theorem secondBuyer_reachable : Reachable deployEnv secondBuyer := firstSettlement_reachable.run _

theorem stake_records_sum_to_total_secondBuyer :
    Reachable deployEnv secondBuyer ∧
    (∃ keys : List Pubkey, keys.Nodup ∧ Covers secondBuyer.userStakeInfo keys) ∧
    ∀ keys : List Pubkey, keys.Nodup → Covers secondBuyer.userStakeInfo keys →
      stakeOf secondBuyer.userStakeInfo keys + secondBuyer.adminStakeInfo.totalStakedSol =
        secondBuyer.stakeInfo.totalStakedSol :=
  ⟨secondBuyer_reachable, stake_records_sum_to_total secondBuyer_reachable⟩

/-- In every reachable state no checkpoint, the admin record's included, is past the LXR index,
and no run from it lowers the index. -/
theorem checkpoints_never_pass_index (h : Reachable env s) :
    (∀ es : List Event,
      s.stakeInfo.rewardPerTokenLxrStored ≤ (run env s es).stakeInfo.rewardPerTokenLxrStored) ∧
    (∀ k, (s.userStakeInfo k).lxrRewardPerTokenCompleted ≤ s.stakeInfo.rewardPerTokenLxrStored) ∧
    s.adminStakeInfo.lxrRewardPerTokenCompleted ≤ s.stakeInfo.rewardPerTokenLxrStored :=
  ⟨index_le_run env s, h.checkpointsBelow⟩

theorem checkpoints_never_pass_index_secondBuyer :
    Reachable deployEnv secondBuyer ∧
    (∀ es : List Event, secondBuyer.stakeInfo.rewardPerTokenLxrStored ≤
      (run deployEnv secondBuyer es).stakeInfo.rewardPerTokenLxrStored) ∧
    (∀ k, (secondBuyer.userStakeInfo k).lxrRewardPerTokenCompleted ≤
      secondBuyer.stakeInfo.rewardPerTokenLxrStored) ∧
    secondBuyer.adminStakeInfo.lxrRewardPerTokenCompleted ≤
      secondBuyer.stakeInfo.rewardPerTokenLxrStored :=
  ⟨secondBuyer_reachable, checkpoints_never_pass_index secondBuyer_reachable⟩

end Reachable

end LuxorSwap
