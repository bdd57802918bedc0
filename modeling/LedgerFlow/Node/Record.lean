import LedgerFlow.Node.Reply

/-!
# Replies as records

What is known from a reply, by name.  Models inside a reply are written as their own records, and
what a reply does not tell is null.
-/

namespace LedgerFlow

namespace Cost

def toValue (c : Cost) : Value :=
  .record [("cpu_instructions", .int c.cpuInstructions), ("memory_bytes", .int c.memoryBytes)]

end Cost

namespace HostResult

def toValue (r : HostResult) : Value :=
  .record [("auth", .list (r.auth.map AuthEntry.toValue)), ("retval", r.returned)]

end HostResult

namespace RestorePreamble

def fields (p : RestorePreamble) : List (String × Value) :=
  [("transaction_data", p.transactionData.toValue), ("min_resource_fee", .int p.minResourceFee)]

def toValue (p : RestorePreamble) : Value := .record p.fields

end RestorePreamble

namespace Simulation

def fields (s : Simulation) : List (String × Value) :=
  [("latest_ledger", .int s.latestLedger), ("min_resource_fee", .int s.minResourceFee),
    ("cost", s.cost.toValue), ("results", .list (s.results.map HostResult.toValue)),
    ("transaction_data", .ofOption SorobanData.toValue s.transactionData),
    ("events", .ofTexts s.events),
    ("restore_preamble", .ofOption RestorePreamble.toValue s.restorePreamble),
    ("error", .ofOption .text s.error)]

def toValue (s : Simulation) : Value := .record s.fields

end Simulation

namespace SendReply

def toValue (r : SendReply) : Value :=
  .record [("status", .text r.status), ("hash", .text r.hash),
    ("latest_ledger", .int r.latestLedger), ("error_result", r.errorResult),
    ("diagnostic_events", .ofTexts r.diagnosticEvents)]

end SendReply

namespace StatusReply

def toValue (r : StatusReply) : Value :=
  .record [("status", .text r.status), ("latest_ledger", .int r.latestLedger),
    ("ledger", .ofOption .int r.ledger), ("result", r.result), ("result_meta", r.resultMeta),
    ("envelope", r.envelope), ("events", .ofTexts r.events)]

end StatusReply

namespace LatestLedger

def toValue (r : LatestLedger) : Value :=
  .record [("sequence", .int r.sequence), ("id", r.id),
    ("protocol_version", .ofOption .int r.protocolVersion)]

end LatestLedger

namespace NetworkInfo

def toValue (r : NetworkInfo) : Value :=
  .record [("passphrase", .text r.passphrase),
    ("protocol_version", .ofOption .int r.protocolVersion), ("friendbot_url", r.friendbotUrl)]

end NetworkInfo
end LedgerFlow
