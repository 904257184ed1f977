import NodeRpc.Number.Shortest
import NodeRpc.Text.Blank
import NodeRpc.Text.Base64
import NodeRpc.Text.Utf8
import NodeRpc.Text.Quoted
import NodeRpc.Json.Printer
import NodeRpc.Json.Parser
import NodeRpc.Chain.Transaction
import NodeRpc.Error.Basic
import NodeRpc.Shape.Decode
import NodeRpc.Shape.Encode
import NodeRpc.Result.Control
import NodeRpc.Result.Ledger
import NodeRpc.Result.Mining
import NodeRpc.Result.Network
import NodeRpc.Result.Wallet
import NodeRpc.Result.Submission
import NodeRpc.Result.Freezing
import NodeRpc.Call.Dispatcher
import NodeRpc.Call.Batch
import NodeRpc.Endpoint.Http
import NodeRpc.Node.Control
import NodeRpc.Node.Ledger
import NodeRpc.Node.Mining
import NodeRpc.Node.Network
import NodeRpc.Node.Address
import NodeRpc.Node.Wallet
import NodeRpc.Node.Submission
import NodeRpc.Node.Freezing
import NodeRpc.Main
import NodeRpc.Proofs.Call.KeyIdentity
import NodeRpc.Proofs.Call.Accounting
import NodeRpc.Proofs.Call.Answers
import NodeRpc.Proofs.Call.Isolation
import NodeRpc.Proofs.Call.WriteOnce
import NodeRpc.Proofs.Call.Recovery
import NodeRpc.Proofs.Call.OnTime
import NodeRpc.Proofs.Call.Separation
import NodeRpc.Proofs.Endpoint.Failures
import NodeRpc.Proofs.Chain.AmountsSent
import NodeRpc.Proofs.Chain.AmountsReceived
import NodeRpc.Proofs.Chain.OutputsSent
import NodeRpc.Proofs.Node.GivenOptions
import NodeRpc.Proofs.Endpoint.Classification
import NodeRpc.Proofs.Call.Discretion
import NodeRpc.Proofs.Json.ReadBack
import NodeRpc.Proofs.Node.StructuredRequests
import NodeRpc.Proofs.Shape.Parts
import NodeRpc.Proofs.Chain.AmountsUnrounded
import NodeRpc.Proofs.Call.Batches
import NodeRpc.Proofs.Node.Fetches
import NodeRpc.Proofs.Endpoint.Resolution
import NodeRpc.Proofs.Shape.ForeignMembers
import NodeRpc.Proofs.CommandLine.Shortcuts
import NodeRpc.Proofs.CommandLine.Hints
import NodeRpc.Proofs.Endpoint.Identifiers
import NodeRpc.Proofs.Endpoint.Echoes
import NodeRpc.Proofs.Number.DigitStrings
import NodeRpc.Proofs.Number.FifteenDigits
import NodeRpc.Proofs.Json.Reprinting
import NodeRpc.Proofs.Json.PlainLayout
