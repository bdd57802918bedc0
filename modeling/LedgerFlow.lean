import LedgerFlow.Main
import LedgerFlow.Strkey.Payload
import LedgerFlow.Proofs.Pipeline.Cancelled
import LedgerFlow.Proofs.Submission.Bounded
import LedgerFlow.Proofs.Wire.Binding
import LedgerFlow.Proofs.Wire.RoundTrip
import LedgerFlow.Proofs.Codec.Base32
import LedgerFlow.Proofs.Strkey.Grammar
import LedgerFlow.Proofs.Pipeline.Frame
import LedgerFlow.Proofs.Authorization.Carried
import LedgerFlow.Proofs.Pipeline.Carried
import LedgerFlow.Proofs.Pipeline.View
import LedgerFlow.Proofs.Assembly.Fees
import LedgerFlow.Proofs.Assembly.Repeated
import LedgerFlow.Proofs.Submission.Lifecycle
import LedgerFlow.Proofs.Wire.Normal
import LedgerFlow.Proofs.Rpc.Duration
import LedgerFlow.Proofs.Codec.Cbor.Nesting
import LedgerFlow.Proofs.Wire.Foreign
import LedgerFlow.Proofs.Transaction.Sound
import LedgerFlow.Proofs.Wire.Failures
import LedgerFlow.Proofs.Keystore
import LedgerFlow.Proofs.Strkey.Typing
import LedgerFlow.Proofs.Authorization.Again
import LedgerFlow.Proofs.Authorization.OneByOne
import LedgerFlow.Proofs.Pipeline.Faults
import LedgerFlow.Proofs.CommandLine.Configuration
import LedgerFlow.Proofs.CommandLine.Endings
import LedgerFlow.Proofs.CommandLine.Precedence
import LedgerFlow.Proofs.Assembly.Drafts
import LedgerFlow.Proofs.Authorization.Refusals
import LedgerFlow.Proofs.Keystore.Collecting
import LedgerFlow.Proofs.Keystore.Additions
import LedgerFlow.Proofs.Rpc.Retries
import LedgerFlow.Proofs.Rpc.Replies
import LedgerFlow.Proofs.Rpc.Delays
import LedgerFlow.Proofs.Hash.Division
import LedgerFlow.Proofs.Clock.Watch
import LedgerFlow.Proofs.Strkey.Accounts
import LedgerFlow.Proofs.Submission.Counting
