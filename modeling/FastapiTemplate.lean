import FastapiTemplate.Billing.Coherence
import FastapiTemplate.Billing.Bound
import FastapiTemplate.Billing.Concurrency
import FastapiTemplate.Billing.Phantoms
import FastapiTemplate.Billing.Recovery
import FastapiTemplate.Billing.Deliveries
import FastapiTemplate.Billing.Sync
import FastapiTemplate.Billing.Exclusive
import FastapiTemplate.Billing.Periods
import FastapiTemplate.Billing.Quota
import FastapiTemplate.Database.Bills
import FastapiTemplate.Billing.Settlement
import FastapiTemplate.Billing.Calendar
import FastapiTemplate.Billing.Metering
import FastapiTemplate.Billing.Admission
import FastapiTemplate.Billing.Refusals
import FastapiTemplate.Core.Faults
import FastapiTemplate.Billing.InvoiceRuns
import FastapiTemplate.Billing.Isolation
import FastapiTemplate.Billing.Leftovers
import FastapiTemplate.Python.Text
import FastapiTemplate.Billing.Webhook
import FastapiTemplate.Billing.Provenance
import FastapiTemplate.Identity.Models
import FastapiTemplate.Store.Expiring
import FastapiTemplate.Identity.Runtime
import FastapiTemplate.Identity.Tokens
import FastapiTemplate.Identity.Sessions
import FastapiTemplate.Identity.Login
import FastapiTemplate.Identity.Endpoints
import FastapiTemplate.Identity.Exec
import FastapiTemplate.Identity.Purposes
import FastapiTemplate.Effects.Calls
import FastapiTemplate.Identity.Attempts
import FastapiTemplate.Identity.Lockout
import FastapiTemplate.Effects.Triples
import FastapiTemplate.Identity.Blacklist
import FastapiTemplate.Identity.Listing
import FastapiTemplate.Identity.Requests
import FastapiTemplate.Identity.EntryPoints
import FastapiTemplate.Identity.RevokeAll
import FastapiTemplate.Effects.Possible
import FastapiTemplate.Identity.Rotation
import FastapiTemplate.Identity.SecondFactor
import FastapiTemplate.Identity.SocialAccounts
import FastapiTemplate.Identity.OauthStates
import FastapiTemplate.Identity.Passkeys
import FastapiTemplate.Effects.Trace
import FastapiTemplate.Identity.BackupCodes
import FastapiTemplate.Store.Crud
import FastapiTemplate.Identity.ApiKeys
import FastapiTemplate.Notifications.Models
import FastapiTemplate.Notifications.Restores
import FastapiTemplate.Identity.Issuing
import FastapiTemplate.Identity.Deletion
import FastapiTemplate.Notifications.Delivery
import FastapiTemplate.Notifications.Retries
import FastapiTemplate.Notifications.Redelivery
import FastapiTemplate.Notifications.Dispatch
import FastapiTemplate.Notifications.Tenants
import FastapiTemplate.Notifications.Silence
import FastapiTemplate.Store.Cursor
import FastapiTemplate.Python.Base64
import FastapiTemplate.Utils.Pagination
import FastapiTemplate.Identity.UserPages
import FastapiTemplate.Notifications.Inbox
import FastapiTemplate.Notifications.Trash
import FastapiTemplate.Events.Base
import FastapiTemplate.Events.RedisStreams
import FastapiTemplate.Core.RateLimiter
import FastapiTemplate.Core.TenantFilter
import FastapiTemplate.Python.IpAddress
import FastapiTemplate.Middleware.Stack
import FastapiTemplate.Middleware.TenantIPAccess
import FastapiTemplate.Middleware.Application
import FastapiTemplate.Storage.LocalStorage
import FastapiTemplate.Storage.Files
import FastapiTemplate.Python.Path
import FastapiTemplate.Storage.Confinement
import FastapiTemplate.Middleware.Caching
import FastapiTemplate.Websocket.Manager
import FastapiTemplate.Operator.Builders
import FastapiTemplate.Operator.Handlers
import FastapiTemplate.Cms.Pages
import FastapiTemplate.Billing.Tallies
import FastapiTemplate.Billing.Plans
import FastapiTemplate.Billing.Totals
import FastapiTemplate.Billing.Columns
import FastapiTemplate.Billing.Proration
import FastapiTemplate.Billing.Spans
import FastapiTemplate.Billing.Signatures
import FastapiTemplate.Billing.Upgrades
import FastapiTemplate.Core.RateLimitReset
import FastapiTemplate.Events.Kafka
import FastapiTemplate.Middleware.RateLimits
import FastapiTemplate.Middleware.IpRules
import FastapiTemplate.Python.Base32
import FastapiTemplate.Identity.Enrolment
import FastapiTemplate.Middleware.Compression
import FastapiTemplate.Python.Csv
import FastapiTemplate.Identity.CsvImport
import FastapiTemplate.Store.Offsets
import FastapiTemplate.Cms.Posts
import FastapiTemplate.Middleware.CompressedBodies
import FastapiTemplate.Python.Unquote
import FastapiTemplate.Python.Urls
import FastapiTemplate.Tasks.DatabaseUrl
import FastapiTemplate.Store.ObjectStore
import FastapiTemplate.Python.Timestamps
import FastapiTemplate.Tasks.Backups
import FastapiTemplate.Python.Encodings
import FastapiTemplate.Python.Json
import FastapiTemplate.Api.Cursors
