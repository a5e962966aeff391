import LuxorSwap.Basic
import LuxorSwap.Curve
import LuxorSwap.State
import LuxorSwap.Instructions.Purchase
import LuxorSwap.Instructions.Rewards
import LuxorSwap.Instructions.Buyback
import LuxorSwap.Instructions.Admin
import LuxorSwap.Machine
import LuxorSwap.Steps
import LuxorSwap.SolRewards
import LuxorSwap.BuybackBudget
import LuxorSwap.LxrRewards
import LuxorSwap.PurchasePrice
import LuxorSwap.CurveBounds
import LuxorSwap.StakeLedger
import LuxorSwap.Guards
import LuxorSwap.Access
import LuxorSwap.RewardVault
import LuxorSwap.Tallies
import LuxorSwap.PriceMonotone
import LuxorSwap.Config
import LuxorSwap.Counters
