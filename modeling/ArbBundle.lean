import ArbBundle.Text.Blank
import ArbBundle.Text.AsciiCase
import ArbBundle.Bytes.Hex
import ArbBundle.Bytes.Numeral
import ArbBundle.Decimal.Units
import ArbBundle.Hash.Keccak
import ArbBundle.Hash.Sha256
import ArbBundle.Curve.Signature
import ArbBundle.Json.Parser
import ArbBundle.Json.Printer
import ArbBundle.Evaluation
import ArbBundle.Config
import ArbBundle.Transaction.Decode
import ArbBundle.Text.Quoted
import ArbBundle.Builder.Output
import ArbBundle.Confirmation
import ArbBundle.Report.Console
import ArbBundle.Report.Log
import ArbBundle.Url.Parser
import ArbBundle.Verification
import ArbBundle.Execution.Scripted
import ArbBundle.Relay.Client
import ArbBundle.Chain.Scripted
import ArbBundle.CommandLine.Reader
import ArbBundle.Decimal.Shortest
import ArbBundle.Toml.Document
import ArbBundle.Settings.Load
import ArbBundle.Main
import ArbBundle.Proofs.Evaluation
import ArbBundle.Proofs.Fees
import ArbBundle.Proofs.Bundle
import ArbBundle.Proofs.Execution.Submission
import ArbBundle.Proofs.Execution.Deadline
import ArbBundle.Proofs.Execution.Wire
import ArbBundle.Proofs.Execution.Reported
import ArbBundle.Proofs.Rlp.Reads
import ArbBundle.Proofs.Transaction.Recovery
import ArbBundle.Proofs.Execution.Events
import ArbBundle.Proofs.Rlp.Stable
import ArbBundle.Proofs.Settings.Fields
import ArbBundle.Proofs.Settings.Precedence
import ArbBundle.Proofs.Transaction.Trailing
import ArbBundle.Proofs.Builder.Output
import ArbBundle.Proofs.Confirmation.Lines
import ArbBundle.Proofs.Confirmation.Room
import ArbBundle.Proofs.Relay.Submissions
import ArbBundle.Proofs.Builder.Profit
import ArbBundle.Proofs.Relay.Simulation
import ArbBundle.Proofs.Relay.Effort
import ArbBundle.Proofs.Inclusion
import ArbBundle.Proofs.Execution.Routing
import ArbBundle.Proofs.Confirmation.Answer
import ArbBundle.Proofs.Storage
import ArbBundle.Proofs.Execution.Rejection
import ArbBundle.Proofs.Report.DryRun
import ArbBundle.Proofs.Relay.Answers
import ArbBundle.Proofs.Toml.Entry
import ArbBundle.Proofs.Decimal.Spelled
import ArbBundle.Proofs.Settings.Overlay
import ArbBundle.Proofs.Settings.Spelling
