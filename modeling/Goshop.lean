import Goshop.Inventory.Model
import Goshop.Lib.GoText
import Goshop.Lib.Process
import Goshop.Lib.Run
import Goshop.Lib.Sql
import Goshop.Lib.Transaction
import Goshop.Inventory.Steps
import Goshop.Inventory.Ledger
import Goshop.Order.Model
import Goshop.Order.Data
import Goshop.Order.Service
import Goshop.Order.Payment
import Goshop.System
import Goshop.Order.Steps
import Goshop.Order.StatusPath
import Goshop.Order.CreateRace
import Goshop.Order.PaymentSteps
import Goshop.Order.Refunds
import Goshop.Inventory.Compensation
import Goshop.Gateway
import Goshop.Saga
import Goshop.Callback.TradeNo
import Goshop.Callback.Amount
import Goshop.Inventory.SellStatus
import Goshop.Callback.Redelivery
import Goshop.Settlement
import Goshop.Authz.Principal
import Goshop.User.Session
import Goshop.Authz.Roles
import Goshop.User.BreakGlass
import Goshop.Authz.Scope
import Goshop.User.Accounts
import Goshop.Admin.Access
import Goshop.Admin.RoleReplacement
import Goshop.Admin.Escalation
import Goshop.Admin.ScopeClaims
import Goshop.Admin.Operations
import Goshop.Admin.StoreIsolation
import Goshop.Goods.Model
import Goshop.Goods.Convergence
import Goshop.Review.Model
import Goshop.Review.Service
import Goshop.Review.Ratings
import Goshop.Callback.Handler
import Goshop.Callback.Replay
import Goshop.Refund.Worker
import Goshop.Lib.Lease
import Goshop.Refund.Exclusive
import Goshop.Money.Fen
import Goshop.Money.Text
import Goshop.Order.Pricing
import Goshop.Order.History
import Goshop.Order.Resubmission
import Goshop.Order.CartRestore
import Goshop.Inventory.Confluence
import Goshop.Inventory.StockRecords
import Goshop.User.DeviceBlacklist
import Goshop.Order.Reconciliation
import Goshop.Order.Selection
import Goshop.Inventory.Normalization
import Goshop.Inventory.OrderKey
import Goshop.Inventory.Sufficiency
import Goshop.Inventory.Settleability
import Goshop.Order.UpdateFrame
import Goshop.Order.CartAddition
import Goshop.Refund.Attempts
import Goshop.Lib.Throttle
import Goshop.Lib.Expiring
import Goshop.User.LoginLockout
import Goshop.User.SmsLogin
import Goshop.Admin.UserActions
import Goshop.Lib.Parents
import Goshop.Goods.Categories
import Goshop.Lib.Paging
import Goshop.Goods.Reindex
import Goshop.Review.Moderation
import Goshop.Lib.Batches
import Goshop.Order.AutoClose
import Goshop.Lib.OpenRows
import Goshop.Order.AccountDeletion
import Goshop.Discovery.Watch
import Goshop.Discovery.Resolver
import Goshop.Discovery.Heartbeat
import Goshop.Money.Accepted
import Goshop.Lib.Patterns
import Goshop.User.Registration
import Goshop.Lib.RoundRobin
import Goshop.Selector.WeightedRoundRobin
import Goshop.Lib.Json
import Goshop.Lib.JsonHeap
import Goshop.Lib.JsonText
import Goshop.App.Redaction
import Goshop.Lib.Outbox
import Goshop.Lib.Ensures
import Goshop.Lib.SharedTree
import Goshop.Lib.Strconv
import Goshop.Lib.Discipline
import Goshop.User.DeletionOutbox
import Goshop.User.DeletionDelivery
import Goshop.User.DeletionDrain
import Goshop.ErrorContract.Catalog
import Goshop.ErrorContract.Tree
import Goshop.ErrorContract.Wire
import Goshop.ErrorContract.Delivery
import Goshop.Review.Purchases
