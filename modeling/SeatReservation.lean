import SeatReservation.TransitionSystem
import SeatReservation.Outbox
import SeatReservation.OutboxReplicas
import SeatReservation.OutboxLeases
import SeatReservation.RetryAccounting
import SeatReservation.BrokerTopology
import SeatReservation.Holds
import SeatReservation.SeatService
import SeatReservation.SeatInvariants
import SeatReservation.SeatSafety
import SeatReservation.Payments
import SeatReservation.PaymentService
import SeatReservation.PaymentInvariants
import SeatReservation.PaymentSafety
import SeatReservation.WebhookDurability
import SeatReservation.System
import SeatReservation.Cascade
import SeatReservation.SystemInvariants
import SeatReservation.Compensation
import SeatReservation.Conformance
import SeatReservation.HoldLifecycle
import SeatReservation.SeatProjection
import SeatReservation.PaymentLifecycle
import SeatReservation.CheckoutAnswers
import SeatReservation.CheckoutIdempotency
import SeatReservation.Redelivery
import SeatReservation.AuthService
import SeatReservation.SessionInvariants
import SeatReservation.RotationChains
import SeatReservation.SessionOwnership
import SeatReservation.SessionExpiry
import SeatReservation.Revocation
import SeatReservation.RefreshConversation
import SeatReservation.TransactionScripts
import SeatReservation.TransactionDiscipline
import SeatReservation.CircuitBreaker
import SeatReservation.ExpiringSets
import SeatReservation.JsStrings
import SeatReservation.RateLimit
import SeatReservation.BatchQueue
import SeatReservation.HoldRefusal
import SeatReservation.ReprocessorProgress
import SeatReservation.SeatRuntime
import SeatReservation.LiveUpdates
import SeatReservation.Cancellations
import SeatReservation.Sweeps
import SeatReservation.HoldRace
import SeatReservation.Json
import SeatReservation.JsonParsing
import SeatReservation.JsonQuotes
import SeatReservation.WebhookSignature
import SeatReservation.ForwardedFor
import SeatReservation.RabbitConnection
import SeatReservation.Migrations
import SeatReservation.AccessTokens
import SeatReservation.Platform
import SeatReservation.EventStream
import SeatReservation.LivePage
import SeatReservation.SignedPayments
import SeatReservation.SeatLedger
import SeatReservation.PaymentConsumer
import SeatReservation.Storefront
