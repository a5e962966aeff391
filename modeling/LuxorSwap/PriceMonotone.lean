import LuxorSwap.CurveBounds
import LuxorSwap.PurchasePrice

/-! # A larger purchase never costs less

Every stage of `purchase`'s pricing is monotone in the LXR asked for: the creator's pre-fee
output, the exact-output quote (a ceiling over a shrinking reserve), the trade's pre-fee input,
the bonus discount and the inventory scaling. The pre-fee amounts are `curve::fees`, which is not
in the repository, so they are assumed monotone (`specFees` is), and the inventory scaling is
monotone only while its `as u64` does not wrap, that is while the treasury holds at most its
initial allocation.
-/

namespace LuxorSwap

/-- Recovering a pre-fee amount never gives less for a larger amount after fees. -/
def Fees.PreFeeMonotone (fees : Fees) : Prop :=
  ∀ rate a b p q, a ≤ b → fees.calculatePreFeeAmount a rate = some p →
    fees.calculatePreFeeAmount b rate = some q → p ≤ q

theorem preFeeAmount_mono {a b rate p q : Nat} (hab : a ≤ b) (hp : preFeeAmount a rate = some p)
    (hq : preFeeAmount b rate = some q) : p ≤ q := by
  unfold preFeeAmount at hp hq
  split at hp
  · rw [if_pos ‹_›] at hq
    cases hp
    cases hq
    exact hab
  · rw [if_neg ‹_›] at hq
    simp only [Option.bind_eq_bind, Option.bind_eq_some, checkedMul_eq_some, checkedSub_eq_some,
      checkedCeilDiv_eq_some] at hp hq
    obtain ⟨_, ⟨-, rfl⟩, _, ⟨-, rfl⟩, -, rfl⟩ := hp
    obtain ⟨_, ⟨-, rfl⟩, _, ⟨-, rfl⟩, -, rfl⟩ := hq
    have := Nat.mul_le_mul_right feeRateDenominatorValue hab
    exact Nat.div_le_div_right (by omega)

theorem specFees_preFeeMonotone : specFees.PreFeeMonotone :=
  fun _ _ _ _ _ hab hp hq => preFeeAmount_mono hab hp hq

/-! ## The quote -/

section Quote
variable {fees : Fees} {x y tradeFeeRate creatorFeeRate protocolFeeRate fundFeeRate : Nat}
  {isCreatorFeeOnInput : Bool}

theorem swapBaseOutputWithoutFees_mono {a b i j : Nat} (hab : a ≤ b)
    (hi : swapBaseOutputWithoutFees a x y = .ok i) (hj : swapBaseOutputWithoutFees b x y = .ok j) :
    i ≤ j := by
  obtain ⟨-, ha, rfl⟩ := swapBaseOutputWithoutFees_eq_ok.1 hi
  obtain ⟨-, hb, rfl⟩ := swapBaseOutputWithoutFees_eq_ok.1 hj
  have := Nat.mul_le_mul_left x hab
  calc (x * a + (y - a) - 1) / (y - a)
      ≤ (x * b + (y - a) - 1) / (y - a) := Nat.div_le_div_right (by omega)
    _ ≤ (x * b + (y - b) - 1) / (y - b) := ceilDiv_le_ceilDiv (by omega) (by omega)

theorem swapBaseOutput_inputAmount {amount : Nat} {r : SwapResult}
    (h : swapBaseOutput fees amount x y tradeFeeRate creatorFeeRate protocolFeeRate fundFeeRate
      isCreatorFeeOnInput = .ok (some r)) :
    ∃ a i, (if isCreatorFeeOnInput then a = amount
        else fees.calculatePreFeeAmount amount creatorFeeRate = some a) ∧
      swapBaseOutputWithoutFees a x y = .ok i ∧
      fees.calculatePreFeeAmount i
        (if isCreatorFeeOnInput then tradeFeeRate + creatorFeeRate else tradeFeeRate) =
        some r.inputAmount := by
  unfold swapBaseOutput at h
  simp only [bind_eq_ok] at h
  obtain ⟨o, ho, h⟩ := h
  split at h <;> try cases h
  rename_i _ a
  simp only [bind_eq_ok] at h
  obtain ⟨i, hi, o', ho', h⟩ := h
  /- The fee splits and the vault updates after the quote. -/
  iterate 5 split at h <;> try cases h
  cases isCreatorFeeOnInput with
  | false =>
    simp only [Bool.false_eq_true, if_false, bind_eq_ok, unwrap_eq_ok, subOrPanic_eq_ok,
      pure_eq_ok, Option.some.injEq, Prod.mk.injEq] at ho ho' ⊢
    split at ho
    · cases ho
    · rename_i w hw
      simp only [bind_eq_ok, subOrPanic_eq_ok, pure_eq_ok, Option.some.injEq,
        Prod.mk.injEq] at ho
      obtain ⟨_, -, -, rfl⟩ := ho
      obtain ⟨_, hwf, _, -, -, -, rfl⟩ := ho'
      exact ⟨_, i, hw, hi, hwf⟩
  | true =>
    simp only [if_true, bind_eq_ok, unwrap_eq_ok, addOrPanic_eq_ok, subOrPanic_eq_ok,
      pure_eq_ok, Option.some.injEq, Prod.mk.injEq] at ho ho' ⊢
    obtain ⟨-, rfl⟩ := ho
    obtain ⟨_, ⟨-, rfl⟩, _, hwf, _, -, h⟩ := ho'
    split at h
    · cases h
    · simp only [bind_eq_ok, subOrPanic_eq_ok, pure_eq_ok, Option.some.injEq,
        Prod.mk.injEq] at h
      obtain ⟨_, -, -, -, rfl⟩ := h
      exact ⟨_, i, rfl, hi, hwf⟩

theorem swapBaseOutput_inputAmount_mono (hf : fees.PreFeeMonotone) {a b : Nat} {r r' : SwapResult}
    (hab : a ≤ b)
    (ha : swapBaseOutput fees a x y tradeFeeRate creatorFeeRate protocolFeeRate fundFeeRate
      isCreatorFeeOnInput = .ok (some r))
    (hb : swapBaseOutput fees b x y tradeFeeRate creatorFeeRate protocolFeeRate fundFeeRate
      isCreatorFeeOnInput = .ok (some r')) :
    r.inputAmount ≤ r'.inputAmount := by
  obtain ⟨a₁, i, ha₁, hi, hr⟩ := swapBaseOutput_inputAmount ha
  obtain ⟨b₁, j, hb₁, hj, hr'⟩ := swapBaseOutput_inputAmount hb
  /- The output taken out of the pool grows with the output asked for. -/
  have hab₁ : a₁ ≤ b₁ := by
    cases isCreatorFeeOnInput
    · exact hf _ _ _ _ _ hab ha₁ hb₁
    · simp only [if_true] at ha₁ hb₁
      omega
  exact hf _ _ _ _ _ (swapBaseOutputWithoutFees_mono hab₁ hi hj) hr hr'

end Quote

/-! ## The tiers -/

theorem bonusPrice_mono {t t' b : Nat} (h : t ≤ t') :
    t - t * b / feeRateDenominatorValue ≤ t' - t' * b / feeRateDenominatorValue := by
  obtain ⟨k, rfl⟩ := Nat.exists_eq_add_of_le h
  by_cases hb : b ≤ feeRateDenominatorValue
  · have hle : (t + k) * b / feeRateDenominatorValue ≤ t * b / feeRateDenominatorValue + k :=
      calc (t + k) * b / feeRateDenominatorValue
          ≤ (t * b + k * feeRateDenominatorValue) / feeRateDenominatorValue := by
            rw [Nat.add_mul]
            exact Nat.div_le_div_right (Nat.add_le_add_left (Nat.mul_le_mul_left k hb) _)
        _ = t * b / feeRateDenominatorValue + k :=
            Nat.add_mul_div_right _ _ feeRateDenominatorValue_pos
    omega
  · /- Above a 100% rate the discount is the whole price. -/
    have hge : ∀ n, n ≤ n * b / feeRateDenominatorValue := fun n =>
      (Nat.le_div_iff_mul_le feeRateDenominatorValue_pos).2
        (Nat.mul_le_mul_left n (Nat.le_of_lt (Nat.lt_of_not_le hb)))
    have := hge t
    omega

theorem inventoryPrice_le {t v i : Nat} (hv : v ≤ i) : t * v / i ≤ t :=
  Nat.div_le_of_le_mul (by rw [Nat.mul_comm i]; exact Nat.mul_le_mul_left t hv)

theorem purchasePrice_mono {fees : Fees} {pool : PoolView} {config : GlobalConfig}
    {count vault n m p q : Nat} (hf : fees.PreFeeMonotone)
    (hv : vault ≤ config.initialLxrAllocationVault) (hnm : n ≤ m)
    (hp : purchasePrice fees pool config count vault n = .ok p)
    (hq : purchasePrice fees pool config count vault m = .ok q) : p ≤ q := by
  obtain ⟨r, hr, -, ht, -, hpr⟩ := purchasePrice_ok hp
  obtain ⟨r', hr', -, ht', -, hqr⟩ := purchasePrice_ok hq
  have hrr := swapBaseOutput_inputAmount_mono hf hnm hr hr'
  rcases hpr with ⟨hb, rfl⟩ | ⟨hb, -, rfl⟩ <;> rcases hqr with ⟨hb', rfl⟩ | ⟨hb', -, rfl⟩
  · exact bonusPrice_mono hrr
  · omega
  · omega
  · rw [asU64_of_lt (Nat.lt_of_le_of_lt (inventoryPrice_le hv) ht),
      asU64_of_lt (Nat.lt_of_le_of_lt (inventoryPrice_le hv) ht')]
    exact Nat.div_le_div_right (Nat.mul_le_mul_right _ hrr)

/-- From the same state, a `purchase` of more LXR never takes fewer lamports into the stake
account, whoever buys, provided the fee functions' pre-fee amounts are monotone and the treasury
holds at most `initial_lxr_allocation_vault`. -/
theorem larger_purchase_never_costs_less {env : Env} {s s₁ s₂ : ProgramState}
    {owner owner' : Pubkey} {pool : PoolView} {n m maxSol maxSol' now now' : Nat}
    (hf : env.fees.PreFeeMonotone) (hv : s.luxorVault ≤ s.globalConfig.initialLxrAllocationVault)
    (hnm : n ≤ m) (h₁ : purchase env owner pool n maxSol now s = .ok s₁)
    (h₂ : purchase env owner' pool m maxSol' now' s = .ok s₂) :
    s₁.stakePda - s.stakePda ≤ s₂.stakePda - s.stakePda := by
  obtain ⟨t, -, -, -, ht, -, -, -, -, -, rfl⟩ := purchase_ok h₁
  obtain ⟨t', -, -, -, ht', -, -, -, -, -, rfl⟩ := purchase_ok h₂
  simp only [Nat.add_sub_cancel_left]
  exact purchasePrice_mono hf hv hnm ht ht'

theorem larger_purchase_never_costs_less_deploy :
    deployEnv.fees.PreFeeMonotone ∧
    treasuryFunded.luxorVault ≤ treasuryFunded.globalConfig.initialLxrAllocationVault ∧
    purchase deployEnv 2 deployPool 100000000000000 1000000000000000 1 treasuryFunded =
      .ok halfBought ∧
    purchase deployEnv 2 deployPool 200000000000000 1000000000000000 1 treasuryFunded =
      .ok wholeBought ∧
    halfBought.stakePda - treasuryFunded.stakePda ≤ wholeBought.stakePda - treasuryFunded.stakePda := by
  have h₁ : purchase deployEnv 2 deployPool 100000000000000 1000000000000000 1 treasuryFunded =
      .ok halfBought := rfl
  have h₂ : purchase deployEnv 2 deployPool 200000000000000 1000000000000000 1 treasuryFunded =
      .ok wholeBought := rfl
  exact ⟨specFees_preFeeMonotone, by decide, h₁, h₂,
    larger_purchase_never_costs_less specFees_preFeeMonotone (by decide) (by decide) h₁ h₂⟩

end LuxorSwap
