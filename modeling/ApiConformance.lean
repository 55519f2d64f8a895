import ApiConformance.Json.Printer
import ApiConformance.Interface.Encode
import ApiConformance.Rule.Encode
import ApiConformance.Rule.Load
import ApiConformance.Rule.Build
import ApiConformance.Violation.Report
import ApiConformance.VerifyFile
import ApiConformance.Value.Refusal
import ApiConformance.Service.Answer
import ApiConformance.Proofs.Lookup
import ApiConformance.Proofs.Verify.Calls
import ApiConformance.Proofs.Canonical.Numbering
import ApiConformance.Proofs.Canonical.TwoPass
import ApiConformance.Proofs.Canonical.Renaming
import ApiConformance.Proofs.Verify.Agreement
import ApiConformance.Proofs.Canonical.Reading
import ApiConformance.Proofs.Canonical.Faithful
import ApiConformance.Proofs.Verify.Acceptance
import ApiConformance.Proofs.Verify.Reordering
import ApiConformance.Proofs.Verify.Visibility
import ApiConformance.Proofs.Loading.Interface
import ApiConformance.Proofs.Loading.Contract
import ApiConformance.Proofs.Canonical.Rearranging
import ApiConformance.Proofs.Interface.RoundTrip
import ApiConformance.Proofs.Interface.Steady
import ApiConformance.Proofs.Rule.Steady
import ApiConformance.Proofs.Service.Posting
import ApiConformance.Proofs.Verify.Order
import ApiConformance.Proofs.Verify.Mirroring
import ApiConformance.Proofs.Verify.Exports
import ApiConformance.Proofs.Verify.Sharing
import ApiConformance.Proofs.Verify.Listing
import ApiConformance.Proofs.Verify.Satisfiable
import ApiConformance.Proofs.Rule.FirstInvalid
import ApiConformance.Proofs.Rule.LongForm
import ApiConformance.Proofs.Rule.Written
import ApiConformance.Proofs.Interface.Padding
import ApiConformance.Proofs.Loading.Agreement
import ApiConformance.Proofs.Violation.Readable
import ApiConformance.Proofs.Violation.Summary
import ApiConformance.Proofs.Verify.Repeats
import ApiConformance.Proofs.Canonical.History
