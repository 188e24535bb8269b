import ChmabaPay.Foundation.Calendar
import ChmabaPay.Foundation.Execution
import ChmabaPay.Foundation.Fallible
import ChmabaPay.Foundation.Forest
import ChmabaPay.Foundation.Table
import ChmabaPay.Foundation.UnitOfWork
import ChmabaPay.Foundation.Walk
import ChmabaPay.Foundation.Roster
import ChmabaPay.Foundation.Interleaving
import ChmabaPay.Foundation.Appending
import ChmabaPay.Foundation.Agenda
import ChmabaPay.Foundation.Redis
import ChmabaPay.Foundation.DelayQueue
import ChmabaPay.Foundation.LeadsTo
import ChmabaPay.Foundation.Staging
import ChmabaPay.Foundation.Decimal
import ChmabaPay.Foundation.Months
import ChmabaPay.Foundation.Digits
import ChmabaPay.Foundation.Framing
import ChmabaPay.Foundation.Trimming
import ChmabaPay.Foundation.Numerals
import ChmabaPay.Foundation.Patterns
import ChmabaPay.Foundation.Paging
import ChmabaPay.Foundation.Escapes
import ChmabaPay.Foundation.ShiftRegister
import ChmabaPay.Foundation.ExpiringCache
import ChmabaPay.Foundation.FixedWindow
import ChmabaPay.Models
import ChmabaPay.Database
import ChmabaPay.Services.Webhooks
import ChmabaPay.Services.Stores
import ChmabaPay.Services.Billing
import ChmabaPay.Services.Payments
import ChmabaPay.Services.Steps
import ChmabaPay.Services.Allowance
import ChmabaPay.Services.Notices
import ChmabaPay.Services.Slots
import ChmabaPay.Services.Links
import ChmabaPay.Services.Provisioning
import ChmabaPay.Routers.Auth
import ChmabaPay.Routers.Billing
import ChmabaPay.Routers.Admin
import ChmabaPay.Routers.Keys
import ChmabaPay.Auth
import ChmabaPay.Services.Support
import ChmabaPay.Routers.Accounts
import ChmabaPay.Routers.Support
import ChmabaPay.Routers.Payments
import ChmabaPay.Routers.Khqr
import ChmabaPay.Operations
import ChmabaPay.Routers.Plans
import ChmabaPay.Sessions
import ChmabaPay.Minting
import ChmabaPay.Specimen
import ChmabaPay.Billing.Book
import ChmabaPay.Billing.Invariants
import ChmabaPay.Billing.Settlement
import ChmabaPay.Payments.Transitions
import ChmabaPay.Billing.Sweeps
import ChmabaPay.Billing.Purchases
import ChmabaPay.Billing.Refinement
import ChmabaPay.Billing.Runs
import ChmabaPay.Billing.Catalogue
import ChmabaPay.Routers.Tokens
import ChmabaPay.Accounts.Cookies
import ChmabaPay.Routers.SignIn
import ChmabaPay.Routers.Account
import ChmabaPay.Billing.InForce
import ChmabaPay.Payments.Evolution
import ChmabaPay.Billing.Sales
import ChmabaPay.Payments.Codes
import ChmabaPay.Payments.Commits
import ChmabaPay.Payments.Handouts
import ChmabaPay.Billing.Schedule
import ChmabaPay.Billing.Windows
import ChmabaPay.Payments.Lineage
import ChmabaPay.Billing.Dunning
import ChmabaPay.Billing.Grace
import ChmabaPay.Billing.Coverage
import ChmabaPay.Billing.Deferral
import ChmabaPay.Billing.Downgrades
import ChmabaPay.Billing.Overdue
import ChmabaPay.Billing.GraceLine
import ChmabaPay.Billing.Notices
import ChmabaPay.Payments.Ledger
import ChmabaPay.Payments.Outbox
import ChmabaPay.Payments.Payloads
import ChmabaPay.Payments.DoubleCharges
import ChmabaPay.Payments.Reports
import ChmabaPay.Payments.AllOrNothing
import ChmabaPay.Stores.Places
import ChmabaPay.Stores.Effects
import ChmabaPay.Stores.Swaps
import ChmabaPay.Stores.RoundTrips
import ChmabaPay.Stores.Enabling
import ChmabaPay.Stores.Collection
import ChmabaPay.Stores.Allowances
import ChmabaPay.Concurrency.Histories
import ChmabaPay.Concurrency.Parts
import ChmabaPay.Concurrency.Settled
import ChmabaPay.Concurrency.Progress
import ChmabaPay.Concurrency.PlanChanges
import ChmabaPay.Concurrency.Once
import ChmabaPay.Concurrency.Tills
import ChmabaPay.Concurrency.Reissues
import ChmabaPay.Concurrency.Creates
import ChmabaPay.Workers.Job
import ChmabaPay.Workers.RedisTransport
import ChmabaPay.Workers.Processes
import ChmabaPay.Workers.InProcess
import ChmabaPay.Workers.Drain
import ChmabaPay.Workers.Detection
import ChmabaPay.Workers.WebhookSender
import ChmabaPay.Workers.OrphanScan
import ChmabaPay.Workers.DetectionJobs
import ChmabaPay.Webhooks.Moves
import ChmabaPay.Webhooks.Overlap
import ChmabaPay.Webhooks.Budget
import ChmabaPay.Queues.Moves
import ChmabaPay.Queues.Failures
import ChmabaPay.Queues.NoLoss
import ChmabaPay.Queues.Attempts
import ChmabaPay.Queues.Lifecycle
import ChmabaPay.Queues.Delivery
import ChmabaPay.Queues.Retries
import ChmabaPay.Queues.Transports
import ChmabaPay.Queues.Backlog
import ChmabaPay.Accounts.Keys
import ChmabaPay.Accounts.Standing
import ChmabaPay.Accounts.Admins
import ChmabaPay.Detection.Scans
import ChmabaPay.Detection.Promotion
import ChmabaPay.Detection.Closing
import ChmabaPay.Stores.Links
import ChmabaPay.Stores.Destinations
import ChmabaPay.Payments.Rails
import ChmabaPay.Foundation.Url
import ChmabaPay.Stores.Addresses
import ChmabaPay.Services.Retention
import ChmabaPay.Services.Bakong
import ChmabaPay.Services.StatusReconciler
import ChmabaPay.Payments.Successors
import ChmabaPay.Payments.Amounts
import ChmabaPay.Payments.Replays
import ChmabaPay.Payments.Postings
import ChmabaPay.Payments.TestMode
import ChmabaPay.Payments.Bursts
import ChmabaPay.RateLimit
import ChmabaPay.RateLimits.Windows
import ChmabaPay.RateLimits.Waiting
import ChmabaPay.RateLimits.Lockouts
import ChmabaPay.Foundation.Edges
import ChmabaPay.Services.AlertWatcher
import ChmabaPay.Alerts.Verdicts
import ChmabaPay.Foundation.Splitting
import ChmabaPay.Payments.Elements
import ChmabaPay.Payments.Decoding
import ChmabaPay.Payments.Currencies
import ChmabaPay.Payments.Copies
import ChmabaPay.Payments.Limits
import ChmabaPay.Payments.Mirrors
import ChmabaPay.Payments.Renderings
import ChmabaPay.Payments.Promises
import ChmabaPay.Services.Probes
import ChmabaPay.Payments.Probes
import ChmabaPay.Routers.Reports
import ChmabaPay.Payments.Pages
import ChmabaPay.Services.PaywayParser
import ChmabaPay.Payments.Literals
import ChmabaPay.Payments.Arguments
import ChmabaPay.Support.Threads
import ChmabaPay.Support.Responses
import ChmabaPay.Support.Standing
import ChmabaPay.Support.Queue
import ChmabaPay.Security
import ChmabaPay.Accounts.Grants
import ChmabaPay.Accounts.Erasure
import ChmabaPay.Webhooks.Signatures
