import LuxorSwap.Instructions.Buyback
import LuxorSwap.Instructions.Admin

/-! # Runs of the program

A run starts from a successful `initialise_configs` and applies events one after another. An
event is an instruction, which fails as a whole (the runtime rolls its accounts back) or takes
effect, or a credit made from outside the program: lamports sent to the stake account or to the
pending split account (by anyone, or as epoch rewards), or LXR sent to one of the vaults.
-/

namespace LuxorSwap

inductive Instruction where
  | purchase (owner : Pubkey) (pool : PoolView) (lxrToPurchase maxSolAmount now : Nat)
  | manualPurchase (signer user : Pubkey) (lxrPurchased solSpent now : Nat)
  | redeem (owner : Pubkey) (ownerLxrAmount : Nat)
  | blacklist (signer user : Pubkey)
  | updateConfig (signer : Pubkey) (param value : Nat) (newAdmin : Option Pubkey)
  | buyback (signer : Pubkey) (pool : PoolView) (now : Nat)
  | emergencyWithdraw (signer : Pubkey) (param value : Nat) (vaultAny : LxrVault)

def Instruction.exec (env : Env) : Instruction → ProgramState → Result ProgramState
  | .purchase owner pool lxr maxSol now => LuxorSwap.purchase env owner pool lxr maxSol now
  | .manualPurchase signer user lxr sol now => LuxorSwap.manualPurchase env signer user lxr sol now
  | .redeem owner amount => LuxorSwap.redeem owner amount
  | .blacklist signer user => LuxorSwap.blacklist env signer user
  | .updateConfig signer param value newAdmin => LuxorSwap.updateConfig env signer param value newAdmin
  | .buyback signer pool now => LuxorSwap.buyback env signer pool now
  | .emergencyWithdraw signer param value vaultAny =>
    LuxorSwap.emergencyWithdraw env signer param value vaultAny

inductive Event where
  | instruction (i : Instruction)
  | creditStake (lamports : Nat)
  | creditSplit (lamports : Nat)
  | depositLxr (vault : LxrVault) (amount : Nat)

/-- A transaction either commits the instruction's accounts or leaves every account as it was. -/
def commit (s : ProgramState) : Result ProgramState → ProgramState
  | .ok s' => s'
  | .error _ => s

def step (env : Env) (s : ProgramState) : Event → ProgramState
  | .instruction i => commit s (i.exec env s)
  | .creditStake c => { s with stakePda := s.stakePda + c }
  | .creditSplit c => { s with stakeSplitPda := s.stakeSplitPda + c }
  | .depositLxr .treasury a => { s with luxorVault := s.luxorVault + a }
  | .depositLxr .reward a => { s with luxorRewardVault := s.luxorRewardVault + a }

def run (env : Env) (s : ProgramState) (events : List Event) : ProgramState :=
  events.foldl (step env) s

@[simp] theorem run_nil {env : Env} {s : ProgramState} : run env s [] = s := rfl

@[simp] theorem run_cons {env : Env} {s : ProgramState} {e : Event} {es : List Event} :
    run env s (e :: es) = run env (step env s e) es := rfl

/-- The states a run from `initialise_configs` reaches. -/
inductive Reachable (env : Env) : ProgramState → Prop
  | init {signer : Pubkey} {config : GlobalConfig} {split : Nat} {s : ProgramState} :
      initialiseConfigs env signer config 0 split = .ok s → Reachable env s
  | step {s : ProgramState} (e : Event) : Reachable env s → Reachable env (step env s e)

theorem commit_preserves {P : ProgramState → Prop} {s : ProgramState} {r : Result ProgramState}
    (h : P s) (hr : ∀ s', r = .ok s' → P s') : P (commit s r) := by
  cases r with
  | error => exact h
  | ok s' => exact hr s' rfl

theorem run_preserves {env : Env} {P : ProgramState → Prop} {allowed : Event → Prop}
    (hstep : ∀ s e, allowed e → P s → P (step env s e)) {s : ProgramState} {es : List Event}
    (h : P s) (hes : ∀ e ∈ es, allowed e) : P (run env s es) := by
  induction es generalizing s with
  | nil => exact h
  | cons e es ih => exact ih (hstep s e (hes e (.head _)) h) fun e he => hes e (.tail _ he)

theorem Reachable.run {env : Env} {s : ProgramState} (h : Reachable env s) (es : List Event) :
    Reachable env (LuxorSwap.run env s es) :=
  @run_preserves env (Reachable env) (fun _ => True) (fun _ e _ hs => hs.step e) s es h
    fun _ _ => trivial

theorem Reachable.induction {env : Env} {P : ProgramState → Prop}
    (init : ∀ signer config split s, initialiseConfigs env signer config 0 split = .ok s → P s)
    (step : ∀ s e, Reachable env s → P s → P (LuxorSwap.step env s e))
    {s : ProgramState} (h : Reachable env s) : P s := by
  induction h with
  | init h => exact init _ _ _ _ h
  | step e hs ih => exact step _ e hs ih

/-! ## What a run does

An observer `f s e` says what the event `e` does in the state `s` it meets, and `sumRun` adds it up
over a run. A quantity of the state that each event moves by exactly `f s e` ends the run moved by
the sum; one that each event lowers by at least `f s e` bounds the sum. -/

def sumRun (env : Env) (f : ProgramState → Event → Nat) : ProgramState → List Event → Nat
  | _, [] => 0
  | s, e :: es => f s e + sumRun env f (step env s e) es

section
variable {env : Env} {f : ProgramState → Event → Nat} {V : ProgramState → Nat}
  {allowed : Event → Prop}

theorem sumRun_potential (hstep : ∀ s e, allowed e → V (step env s e) = V s + f s e)
    {s : ProgramState} {es : List Event} (hes : ∀ e ∈ es, allowed e) :
    V (run env s es) = V s + sumRun env f s es := by
  induction es generalizing s with
  | nil => rfl
  | cons e es ih =>
    have := @ih (step env s e) fun e' he' => hes e' (.tail _ he')
    have := hstep s e (hes e (.head _))
    simp only [run_cons, sumRun]
    omega

theorem sumRun_drift {U W : ProgramState → Nat} {g : ProgramState → Event → Nat}
    (hstep : ∀ s e, allowed e → U s + f s e + W (step env s e) ≤ U (step env s e) + g s e + W s)
    {s : ProgramState} {es : List Event} (hes : ∀ e ∈ es, allowed e) :
    U s + sumRun env f s es + W (run env s es) ≤ U (run env s es) + sumRun env g s es + W s := by
  induction es generalizing s with
  | nil => exact Nat.le_refl _
  | cons e es ih =>
    have := @ih (step env s e) fun e' he' => hes e' (.tail _ he')
    have := hstep s e (hes e (.head _))
    simp only [run_cons, sumRun]
    omega

@[simp] theorem sumRun_zero {s : ProgramState} {es : List Event} :
    sumRun env (fun _ _ => 0) s es = 0 := by
  induction es generalizing s with
  | nil => rfl
  | cons e es ih => simp only [sumRun, ih]

theorem sumRun_balance {U W : ProgramState → Nat} {g : ProgramState → Event → Nat}
    (hstep : ∀ s e, allowed e → U s + f s e + W (step env s e) = U (step env s e) + g s e + W s)
    {s : ProgramState} {es : List Event} (hes : ∀ e ∈ es, allowed e) :
    U s + sumRun env f s es + W (run env s es) = U (run env s es) + sumRun env g s es + W s := by
  induction es generalizing s with
  | nil => rfl
  | cons e es ih =>
    have := @ih (step env s e) fun e' he' => hes e' (.tail _ he')
    have := hstep s e (hes e (.head _))
    simp only [run_cons, sumRun]
    omega

theorem sumRun_add {g : ProgramState → Event → Nat} {s : ProgramState} {es : List Event} :
    sumRun env (fun s e => f s e + g s e) s es = sumRun env f s es + sumRun env g s es := by
  induction es generalizing s with
  | nil => rfl
  | cons e es ih =>
    simp only [sumRun, ih]
    omega

theorem sumRun_le_potential (hstep : ∀ s e, allowed e → V (step env s e) + f s e ≤ V s)
    {s : ProgramState} {es : List Event} (hes : ∀ e ∈ es, allowed e) :
    sumRun env f s es + V (run env s es) ≤ V s := by
  induction es generalizing s with
  | nil => exact Nat.le_of_eq (Nat.zero_add _)
  | cons e es ih =>
    have := @ih (step env s e) fun e' he' => hes e' (.tail _ he')
    have := hstep s e (hes e (.head _))
    simp only [run_cons, sumRun]
    omega

end

/-! ## A concrete deployment

Mainnet's rent-exempt minimum for a stake account, the fee functions modelled from the spec,
admin key 1, a 5% treasury fee and a pool of a million SOL against a million LXR. In `rewarded`
ten SOL of rewards reach the stake account and the admin stakes one SOL for user 7;
`firstRequest` splits the rewards off, and `firstSettlement` sells them for 9471422121 LXR units,
all credited to user 7's stake. The concrete runs of later modules start here. -/

def deployEnv : Env := ⟨1, 2282880, specFees⟩

def deployConfig : GlobalConfig where
  admin := 1
  bonusRate := 0
  maxStakeCountToGetBonus := 1000
  minSwapAmount := 1
  maxSwapAmount := 1000000000000000
  feeTreasuryRate := 50000
  purchaseEnabled := true
  redeemEnabled := true
  initialLxrAllocationVault := 1000000000000000

def deployPool : PoolView := ⟨1000000000000000, 1000000000000000, false, 500⟩

theorem deploy_initialises :
    initialiseConfigs deployEnv 1 deployConfig 0 0 = .ok (genesis deployEnv deployConfig 0) := rfl

def rewarded : ProgramState :=
  run deployEnv (genesis deployEnv deployConfig 0)
    [.creditStake 10000000000, .instruction (.manualPurchase 1 7 1000000000 1000000000 1)]

def firstRequest : ProgramState := step deployEnv rewarded (.instruction (.buyback 1 deployPool 2))

def firstSettlement : ProgramState :=
  step deployEnv firstRequest (.instruction (.buyback 1 deployPool 3))

theorem firstRequest_reachable : Reachable deployEnv firstRequest :=
  ((Reachable.init deploy_initialises).run _).step _

theorem firstSettlement_reachable : Reachable deployEnv firstSettlement :=
  firstRequest_reachable.step _

end LuxorSwap
