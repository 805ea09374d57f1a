import CardPayments.Card
import CardPayments.Checkout
import CardPayments.CommandLine
import CardPayments.Config.Shown
import CardPayments.HostedPage
import CardPayments.Json.Reader
import CardPayments.Json.Writer
import CardPayments.Main
import CardPayments.Processor.Http
import CardPayments.Proofs.Card.Spacing
import CardPayments.Proofs.Card.Validation
import CardPayments.Proofs.Checkout.Completion
import CardPayments.Proofs.Checkout.Mock
import CardPayments.Proofs.Checkout.Notice
import CardPayments.Proofs.Checkout.OtherOrder
import CardPayments.Proofs.CommandLine.Hash
import CardPayments.Proofs.Course.Bound
import CardPayments.Proofs.Course.LastSave
import CardPayments.Proofs.Course.Lookup
import CardPayments.Proofs.Course.Record
import CardPayments.Proofs.Course.Refunds
import CardPayments.Proofs.Course.RemoteId
import CardPayments.Proofs.Course.Rounded
import CardPayments.Proofs.Course.State
import CardPayments.Proofs.Decimal.FixedText
import CardPayments.Proofs.Failure
import CardPayments.Proofs.Gateway.Answer
import CardPayments.Proofs.HostedPage.Routing
import CardPayments.Proofs.HostedPage.Secrecy
import CardPayments.Proofs.HostedPage.Stamp
import CardPayments.Proofs.Json.Stored
import CardPayments.Proofs.Ledger.FirstSave
import CardPayments.Proofs.Ledger.History
import CardPayments.Proofs.Processor.Address
import CardPayments.Proofs.Processor.Transaction
import CardPayments.Proofs.Shop.Agreement
