import LuxorSwap.Instructions.Buyback

/-! # What the curve's rounding guarantees

The exact-input quote rounds down and the exact-output quote rounds up, so every swap the
calculator returns keeps `x * y` from going down, whatever the fee functions take, and neither
direction of a round trip favours the trader. The exact-output quote is superadditive up to one
unit: pricing a trade in two parts on the same reserves can cost less than pricing it whole.
-/

namespace LuxorSwap

/-! ## Rounding up -/

section Ceil
variable {n d k : Nat}

theorem le_mul_ceilDiv (hd : 0 < d) : n ≤ d * ((n + d - 1) / d) := by
  have := Nat.div_add_mod (n + d - 1) d
  have := Nat.mod_lt (n + d - 1) hd
  omega

theorem ceilDiv_le (hd : 0 < d) (h : n ≤ d * k) : (n + d - 1) / d ≤ k := by
  rw [Nat.div_le_iff_le_mul_add_pred hd]
  omega

theorem ceilDiv_le_ceilDiv {d' : Nat} (hd : 0 < d) (hdd : d ≤ d') :
    (n + d' - 1) / d' ≤ (n + d - 1) / d :=
  ceilDiv_le (Nat.lt_of_lt_of_le hd hdd)
    (Nat.le_trans (le_mul_ceilDiv hd) (Nat.mul_le_mul_right _ hdd))

theorem ceilDiv_add_ceilDiv_le {m : Nat} (hd : 0 < d) :
    (n + d - 1) / d + (m + d - 1) / d ≤ (n + m + d - 1) / d + 1 := by
  have hn := Nat.div_add_mod (n + d - 1) d
  have hm := Nat.div_add_mod (m + d - 1) d
  have hnm := Nat.div_add_mod (n + m + d - 1) d
  have := Nat.mod_lt (n + m + d - 1) hd
  have key : d * ((n + d - 1) / d + (m + d - 1) / d) < d * ((n + m + d - 1) / d + 2) := by
    rw [Nat.mul_add, Nat.mul_add]
    omega
  have := Nat.lt_of_mul_lt_mul_left key
  omega

end Ceil

theorem mul_lt_two_pow_128 {a b : Nat} (ha : a < 2 ^ 64) (hb : b < 2 ^ 64) : a * b < 2 ^ 128 := by
  have h := Nat.mul_lt_mul'' ha hb
  rwa [← Nat.pow_add] at h

/-! ## The two quotes -/

section Quotes
variable {x y : Nat}

theorem swapBaseInputWithoutFees_eq_ok {dx q : Nat} :
    swapBaseInputWithoutFees dx x y = .ok q ↔
      dx * y < 2 ^ 128 ∧ x + dx < 2 ^ 128 ∧ 0 < x + dx ∧ dx * y / (x + dx) = q := by
  simp only [swapBaseInputWithoutFees, bind_eq_ok, unwrap_eq_ok, checkedMul_eq_some,
    checkedAdd_eq_some, checkedDiv_eq_some, and_assoc, exists_and_left, exists_eq_left']

theorem swapBaseOutputWithoutFees_eq_ok {dy q : Nat} :
    swapBaseOutputWithoutFees dy x y = .ok q ↔
      x * dy < 2 ^ 128 ∧ dy < y ∧ (x * dy + (y - dy) - 1) / (y - dy) = q := by
  simp only [swapBaseOutputWithoutFees, bind_eq_ok, unwrap_eq_ok, checkedMul_eq_some,
    checkedSub_eq_some, checkedCeilDiv_eq_some, and_assoc, exists_and_left, exists_eq_left',
    Nat.sub_pos_iff_lt]
  constructor
  · rintro ⟨h₁, -, h₂, h₃⟩
    exact ⟨h₁, h₂, h₃⟩
  · rintro ⟨h₁, h₂, h₃⟩
    exact ⟨h₁, Nat.le_of_lt h₂, h₂, h₃⟩

theorem constantProduct_le_after_input {dx : Nat} :
    x * y ≤ (x + dx) * (y - dx * y / (x + dx)) := by
  have hq : (x + dx) * (dx * y / (x + dx)) ≤ dx * y := Nat.mul_div_le _ _
  calc x * y = (x + dx) * y - dx * y := by rw [Nat.add_mul, Nat.add_sub_cancel]
    _ ≤ (x + dx) * y - (x + dx) * (dx * y / (x + dx)) := Nat.sub_le_sub_left hq _
    _ = (x + dx) * (y - dx * y / (x + dx)) := (Nat.mul_sub _ _ _).symm

theorem constantProduct_le_after_output {dy : Nat} (hdy : dy < y) :
    x * y ≤ (x + (x * dy + (y - dy) - 1) / (y - dy)) * (y - dy) := by
  have hq : x * dy ≤ (y - dy) * ((x * dy + (y - dy) - 1) / (y - dy)) :=
    le_mul_ceilDiv (Nat.sub_pos_of_lt hdy)
  calc x * y = x * (y - dy) + x * dy := by rw [← Nat.mul_add, Nat.sub_add_cancel (Nat.le_of_lt hdy)]
    _ ≤ x * (y - dy) + (y - dy) * ((x * dy + (y - dy) - 1) / (y - dy)) := Nat.add_le_add_left hq _
    _ = (x + (x * dy + (y - dy) - 1) / (y - dy)) * (y - dy) := by
      rw [Nat.add_mul, Nat.mul_comm (y - dy)]

end Quotes

/-! ## The calculator's swaps -/

section Swaps
variable {fees : Fees} {amount x y tradeFeeRate creatorFeeRate protocolFeeRate fundFeeRate : Nat}
  {isCreatorFeeOnInput : Bool} {r : SwapResult}

theorem swapBaseInput_vaults (h : swapBaseInput fees amount x y tradeFeeRate creatorFeeRate
    protocolFeeRate fundFeeRate isCreatorFeeOnInput = .ok (some r)) :
    ∃ l q, swapBaseInputWithoutFees l x y = .ok q ∧ r.newInputVaultAmount = x + l ∧
      r.newOutputVaultAmount = y - q := by
  unfold swapBaseInput at h
  split at h <;> try cases h
  split at h <;> try cases h
  rename_i l _
  split at h <;> try cases h
  split at h <;> try cases h
  simp only [bind_eq_ok] at h
  obtain ⟨q, hq, h⟩ := h
  split at h <;> try cases h
  split at h <;> try cases h
  rename_i n₁ hn₁
  split at h <;> try cases h
  rename_i n₂ hn₂
  exact ⟨l, q, hq, (checkedAdd_eq_some.1 hn₁).2.symm, (checkedSub_eq_some.1 hn₂).2.symm⟩

theorem swapBaseOutput_vaults (h : swapBaseOutput fees amount x y tradeFeeRate creatorFeeRate
    protocolFeeRate fundFeeRate isCreatorFeeOnInput = .ok (some r)) :
    ∃ a i, swapBaseOutputWithoutFees a x y = .ok i ∧ r.newInputVaultAmount = x + i ∧
      r.newOutputVaultAmount = y - a := by
  unfold swapBaseOutput at h
  simp only [bind_eq_ok] at h
  obtain ⟨o, -, h⟩ := h
  split at h <;> try cases h
  rename_i _ a
  simp only [bind_eq_ok] at h
  obtain ⟨i, hi, o', -, h⟩ := h
  split at h <;> try cases h
  split at h <;> try cases h
  split at h <;> try cases h
  split at h <;> try cases h
  rename_i n₁ hn₁
  split at h <;> try cases h
  rename_i n₂ hn₂
  exact ⟨a, i, hi, (checkedAdd_eq_some.1 hn₁).2.symm, (checkedSub_eq_some.1 hn₂).2.symm⟩

theorem swapBaseInput_constantProduct (h : swapBaseInput fees amount x y tradeFeeRate
    creatorFeeRate protocolFeeRate fundFeeRate isCreatorFeeOnInput = .ok (some r)) :
    x * y ≤ r.newInputVaultAmount * r.newOutputVaultAmount := by
  obtain ⟨l, q, hq, hin, hout⟩ := swapBaseInput_vaults h
  obtain ⟨-, -, -, rfl⟩ := swapBaseInputWithoutFees_eq_ok.1 hq
  rw [hin, hout]
  exact constantProduct_le_after_input

theorem swapBaseOutput_constantProduct (h : swapBaseOutput fees amount x y tradeFeeRate
    creatorFeeRate protocolFeeRate fundFeeRate isCreatorFeeOnInput = .ok (some r)) :
    x * y ≤ r.newInputVaultAmount * r.newOutputVaultAmount := by
  obtain ⟨a, i, hi, hin, hout⟩ := swapBaseOutput_vaults h
  obtain ⟨-, ha, rfl⟩ := swapBaseOutputWithoutFees_eq_ok.1 hi
  rw [hin, hout]
  exact constantProduct_le_after_output ha

theorem swapBaseInput_raises : RaisesOnly (· = .panic) (swapBaseInput fees amount x y
    tradeFeeRate creatorFeeRate protocolFeeRate fundFeeRate isCreatorFeeOnInput) := by
  unfold swapBaseInput swapBaseInputWithoutFees
  repeat (first | exact .pure | exact .unwrap rfl | refine .bind ?_ fun _ _ => ?_ | split)

theorem swapBaseOutput_raises : RaisesOnly (· = .panic) (swapBaseOutput fees amount x y
    tradeFeeRate creatorFeeRate protocolFeeRate fundFeeRate isCreatorFeeOnInput) := by
  unfold swapBaseOutput swapBaseOutputWithoutFees subOrPanic addOrPanic
  repeat (first | exact .pure | exact .unwrap rfl | refine .bind ?_ fun _ _ => ?_ | split)

end Swaps

/-- For all reserves, amounts, fee rates, creator-fee sides and fee functions, a swap either
calculator returns leaves `new_input_vault_amount * new_output_vault_amount` at least
`input_vault_amount * output_vault_amount`. -/
theorem swap_never_lowers_constant_product (fees : Fees) (amount x y tradeFeeRate creatorFeeRate
    protocolFeeRate fundFeeRate : Nat) (isCreatorFeeOnInput : Bool) (r : SwapResult) :
    (swapBaseInput fees amount x y tradeFeeRate creatorFeeRate protocolFeeRate fundFeeRate
        isCreatorFeeOnInput = .ok (some r) →
      x * y ≤ r.newInputVaultAmount * r.newOutputVaultAmount) ∧
    (swapBaseOutput fees amount x y tradeFeeRate creatorFeeRate protocolFeeRate fundFeeRate
        isCreatorFeeOnInput = .ok (some r) →
      x * y ≤ r.newInputVaultAmount * r.newOutputVaultAmount) :=
  ⟨swapBaseInput_constantProduct, swapBaseOutput_constantProduct⟩

theorem swap_never_lowers_constant_product_deploy :
    ∃ r₁ r₂, swapBaseInput specFees 1000000000 1000000000000000 1000000000000000 2500 500 120000
        40000 false = .ok (some r₁) ∧
      1000000000000000 * 1000000000000000 ≤ r₁.newInputVaultAmount * r₁.newOutputVaultAmount ∧
      swapBaseOutput specFees 1000000000 1000000000000000 1000000000000000 2500 500 120000 40000
        false = .ok (some r₂) ∧
      1000000000000000 * 1000000000000000 ≤ r₂.newInputVaultAmount * r₂.newOutputVaultAmount :=
  ⟨_, _, rfl, (swap_never_lowers_constant_product specFees 1000000000 1000000000000000
      1000000000000000 2500 500 120000 40000 false _).1 rfl, rfl,
    (swap_never_lowers_constant_product specFees 1000000000 1000000000000000 1000000000000000 2500
      500 120000 40000 false _).2 rfl⟩

/-! ## Round trips -/

section RoundTrips
variable {x y : Nat}

theorem input_then_output_le {dx : Nat} (hx : 0 < x) (hy : 0 < y) (hx64 : x < 2 ^ 64)
    (hy64 : y < 2 ^ 64) (hdx : dx < 2 ^ 64) :
    ∃ dy q, swapBaseInputWithoutFees dx x y = .ok dy ∧ swapBaseOutputWithoutFees dy x y = .ok q ∧
      q ≤ dx := by
  have hfloor : (x + dx) * (dx * y / (x + dx)) ≤ dx * y := Nat.mul_div_le _ _
  have hlt : dx * y / (x + dx) < y := by
    apply Nat.div_lt_of_lt_mul
    rw [Nat.add_mul]
    have := Nat.mul_pos hx hy
    omega
  generalize hdy : dx * y / (x + dx) = dy at hfloor hlt
  refine ⟨dy, _, swapBaseInputWithoutFees_eq_ok.2 ⟨mul_lt_two_pow_128 hdx hy64, by omega, by omega,
    hdy⟩, swapBaseOutputWithoutFees_eq_ok.2 ⟨mul_lt_two_pow_128 hx64 (by omega), hlt, rfl⟩, ?_⟩
  /- The floor leaves `x * dy + dx * dy ≤ dx * y`, so `dx` covers the ceiling. -/
  apply ceilDiv_le (Nat.sub_pos_of_lt hlt)
  rw [Nat.add_mul] at hfloor
  rw [Nat.sub_mul, Nat.mul_comm y dx, Nat.mul_comm dy dx]
  have : dx * dy ≤ dx * y := Nat.mul_le_mul_left _ (Nat.le_of_lt hlt)
  omega

theorem output_then_input_ge {dy : Nat} (hx : 0 < x) (hx64 : x < 2 ^ 64) (hdy : dy < y)
    (hy64 : y < 2 ^ 64) :
    ∃ q, swapBaseOutputWithoutFees dy x y = .ok q ∧
      (q < 2 ^ 64 → ∃ dy', swapBaseInputWithoutFees q x y = .ok dy' ∧ dy ≤ dy') := by
  have hceil : x * dy ≤ (y - dy) * ((x * dy + (y - dy) - 1) / (y - dy)) :=
    le_mul_ceilDiv (Nat.sub_pos_of_lt hdy)
  generalize hq : (x * dy + (y - dy) - 1) / (y - dy) = q at hceil
  refine ⟨q, swapBaseOutputWithoutFees_eq_ok.2 ⟨mul_lt_two_pow_128 hx64 (by omega), hdy, hq⟩,
    fun hq64 => ⟨_, swapBaseInputWithoutFees_eq_ok.2 ⟨mul_lt_two_pow_128 hq64 hy64, by omega,
      by omega, rfl⟩, ?_⟩⟩
  /- The ceiling leaves `x * dy ≤ (y - dy) * q`, so `q` buys `dy`. -/
  rw [Nat.le_div_iff_mul_le (by omega), Nat.mul_add, Nat.mul_comm dy x, Nat.mul_comm q y]
  rw [Nat.sub_mul] at hceil
  have : dy * q ≤ y * q := Nat.mul_le_mul_right _ (Nat.le_of_lt hdy)
  omega

end RoundTrips

/-- Round trips through the two quotes never favour the trader: with `u64` reserves and amounts,
buying back what `dx` bought costs at most `dx`, and paying the exact-output quote for `dy`
(when it fits in a `u64`) buys at least `dy`. -/
theorem round_trips_never_favour_trader :
    (∀ x y dx : Nat, 0 < x → 0 < y → x < 2 ^ 64 → y < 2 ^ 64 → dx < 2 ^ 64 →
      ∃ dy q, swapBaseInputWithoutFees dx x y = .ok dy ∧
        swapBaseOutputWithoutFees dy x y = .ok q ∧ q ≤ dx) ∧
    (∀ x y dy : Nat, 0 < x → x < 2 ^ 64 → dy < y → y < 2 ^ 64 →
      ∃ q, swapBaseOutputWithoutFees dy x y = .ok q ∧
        (q < 2 ^ 64 → ∃ dy', swapBaseInputWithoutFees q x y = .ok dy' ∧ dy ≤ dy')) :=
  ⟨fun _ _ _ hx hy hx64 hy64 hdx => input_then_output_le hx hy hx64 hy64 hdx,
    fun _ _ _ hx hx64 hdy hy64 => output_then_input_ge hx hx64 hdy hy64⟩

theorem round_trips_never_favour_trader_small :
    (∃ dy q, swapBaseInputWithoutFees 10 1000 1000 = .ok dy ∧
      swapBaseOutputWithoutFees dy 1000 1000 = .ok q ∧ q ≤ 10) ∧
    ∃ q, swapBaseOutputWithoutFees 10 1000 1000 = .ok q ∧
      (q < 2 ^ 64 → ∃ dy', swapBaseInputWithoutFees q 1000 1000 = .ok dy' ∧ 10 ≤ dy') :=
  ⟨round_trips_never_favour_trader.1 1000 1000 10 (by decide) (by decide) (by decide) (by decide)
      (by decide),
    round_trips_never_favour_trader.2 1000 1000 10 (by decide) (by decide) (by decide) (by decide)⟩

/-! ## Splitting an exact-output trade -/

/-- On one pair of reserves, the exact-output quotes for `a` and for `b` add up to at most the
quote for `a + b` plus one: the curve's convexity against one rounding unit. -/
theorem exact_output_quotes_superadditive {x y a b ca cb cab : Nat}
    (ha : swapBaseOutputWithoutFees a x y = .ok ca) (hb : swapBaseOutputWithoutFees b x y = .ok cb)
    (hab : swapBaseOutputWithoutFees (a + b) x y = .ok cab) : ca + cb ≤ cab + 1 := by
  obtain ⟨-, -, rfl⟩ := swapBaseOutputWithoutFees_eq_ok.1 ha
  obtain ⟨-, -, rfl⟩ := swapBaseOutputWithoutFees_eq_ok.1 hb
  obtain ⟨-, hlt, rfl⟩ := swapBaseOutputWithoutFees_eq_ok.1 hab
  have hd : 0 < y - (a + b) := Nat.sub_pos_of_lt hlt
  calc (x * a + (y - a) - 1) / (y - a) + (x * b + (y - b) - 1) / (y - b)
      ≤ (x * a + (y - (a + b)) - 1) / (y - (a + b)) + (x * b + (y - (a + b)) - 1) / (y - (a + b)) :=
        Nat.add_le_add (ceilDiv_le_ceilDiv hd (by omega)) (ceilDiv_le_ceilDiv hd (by omega))
    _ ≤ (x * (a + b) + (y - (a + b)) - 1) / (y - (a + b)) + 1 := by
        rw [Nat.mul_add]
        exact ceilDiv_add_ceilDiv_le hd

theorem exact_output_quotes_superadditive_unit :
    swapBaseOutputWithoutFees 1 1000 1000 = .ok 2 ∧ swapBaseOutputWithoutFees 2 1000 1000 = .ok 3 ∧
    2 + 2 ≤ 3 + 1 :=
  ⟨rfl, rfl, @exact_output_quotes_superadditive 1000 1000 1 1 2 2 3 rfl rfl rfl⟩

example : swapBaseOutputWithoutFees 100 1000 1000 = .ok 112 ∧
    swapBaseOutputWithoutFees 200 1000 1000 = .ok 250 := ⟨rfl, rfl⟩

/-! ## The constant-product checks of `purchase` and `buyback`

Both instructions multiply the reserves before and after the calculator's swap in `u128` and
`require_gte!` the second against the first. By the bound above the check itself never fails:
only the multiplications can, by panicking. -/

theorem purchasePrice_raises {fees : Fees} {pool : PoolView} {config : GlobalConfig}
    {count vault lxr : Nat} : RaisesOnly (· ≠ .anchor .requireGteViolated) (purchasePrice fees pool config count vault lxr) := by
  unfold purchasePrice
  refine .bind (.unwrap (by decide)) fun cb hcb => ?_
  refine .bind (swapBaseOutput_raises.mono fun e he => by rw [he]; decide) fun o ho => ?_
  refine .bind (.okOr (by decide)) fun r hr => ?_
  refine .bind (.unwrap (by decide)) fun ca hca => ?_
  refine .bind (.unwrap (by decide)) fun _ _ => ?_
  refine .bind (.require (.inr (by decide))) fun _ _ => ?_
  refine .bind (.require (.inl ?_)) fun _ _ => ?_
  · /- The check: the products are the ones the bound is about. -/
    rw [unwrap_eq_ok, checkedMul_eq_some] at hcb hca
    rw [okOr_eq_ok] at hr
    subst hr
    rw [← hcb.2, ← hca.2]
    exact swapBaseOutput_constantProduct ho
  · repeat (first | exact .pure | exact .unwrap (by decide) | refine .bind ?_ fun _ _ => ?_ | split)

theorem settleBuyback_raises {env : Env} {pool : PoolView} {now : Nat} {s : ProgramState} :
    RaisesOnly (· ≠ .anchor .requireGteViolated) (settleBuyback env pool now s) := by
  unfold settleBuyback
  /- The guards and the fee arithmetic before the trade raise other errors. -/
  iterate 8
    refine .bind (by first | exact .require (.inr (by decide)) | exact .unwrap (by decide)) fun _ _ => ?_
  refine .bind (.unwrap (by decide)) fun cb hcb => ?_
  refine .bind (swapBaseInput_raises.mono fun e he => by rw [he]; decide) fun o ho => ?_
  refine .bind (.okOr (by decide)) fun r hr => ?_
  refine .bind (.unwrap (by decide)) fun ca hca => ?_
  refine .bind (.unwrap (by decide)) fun _ _ => ?_
  refine .bind (.require (.inr (by decide))) fun _ _ => ?_
  refine .bind (.require (.inl ?_)) fun _ _ => ?_
  · rw [unwrap_eq_ok, checkedMul_eq_some] at hcb hca
    rw [okOr_eq_ok] at hr
    subst hr
    rw [← hcb.2, ← hca.2]
    exact swapBaseInput_constantProduct ho
  · repeat (first | exact .pure | exact .unwrap (by decide) | refine .bind ?_ fun _ _ => ?_)

theorem buyback_raises {env : Env} {signer : Pubkey} {pool : PoolView} {now : Nat}
    {s : ProgramState} : RaisesOnly (· ≠ .anchor .requireGteViolated) (buyback env signer pool now s) := by
  unfold buyback
  refine .bind (.require (.inr (by decide))) fun _ _ => ?_
  split
  · exact settleBuyback_raises
  · unfold requestBuyback accrueSolRewards
    repeat (first | exact .pure | exact .unwrap (by decide) | exact .require (.inr (by decide)) |
      refine .bind ?_ fun _ _ => ?_ | split)

/-- The constant-product checks never fail: for every state, pool and input, the pricing of
`purchase` never raises the `require_gte!` of its constant-product check, and `buyback` never
raises `requireGteViolated` at all. -/
theorem constant_product_checks_never_fail (fees : Fees) (pool : PoolView) (config : GlobalConfig)
    (count vault lxr : Nat) (env : Env) (signer : Pubkey) (now : Nat) (s : ProgramState) :
    purchasePrice fees pool config count vault lxr ≠ .error (.anchor .requireGteViolated) ∧
    buyback env signer pool now s ≠ .error (.anchor .requireGteViolated) :=
  ⟨fun h => purchasePrice_raises _ h rfl, fun h => buyback_raises _ h rfl⟩

end LuxorSwap
