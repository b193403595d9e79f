import YamlAudit.Audit.Auditor
import YamlAudit.Audit.Mismatches
import YamlAudit.Findings.Report
import YamlAudit.Proofs.Audit.Mismatches
import YamlAudit.Proofs.Audit.Reported
import YamlAudit.Proofs.Audit.Session
import YamlAudit.Proofs.Audit.Shape
import YamlAudit.Proofs.Audit.Size
import YamlAudit.Proofs.Audit.Typed
import YamlAudit.Proofs.RangeMap.Content
import YamlAudit.Proofs.RangeMap.Covered
import YamlAudit.Proofs.RangeMap.Find
import YamlAudit.Proofs.RangeMap.Route
import YamlAudit.Proofs.RangeMap.Walk
import YamlAudit.Record.Sample
import YamlAudit.Settings.EnvFile
import YamlAudit.Settings.LogLevel
import YamlAudit.Proofs.Document.Grammar
import YamlAudit.Proofs.Document.Enclosing
import YamlAudit.Proofs.RangeMap.Chain
import YamlAudit.Proofs.RangeMap.Nested
import YamlAudit.Proofs.RangeMap.Bounded
import YamlAudit.Proofs.RangeMap.Passage
import YamlAudit.Proofs.Audit.Requirements
import YamlAudit.Proofs.Audit.Depth
import YamlAudit.Proofs.Source.Lines
import YamlAudit.Proofs.Document.Unreadable
import YamlAudit.Proofs.RangeMap.Visits
import YamlAudit.Proofs.Audit.Count
import YamlAudit.Proofs.Audit.Names
import YamlAudit.Proofs.Audit.Sharing
import YamlAudit.Proofs.Schema.Registering
import YamlAudit.Proofs.Audit.Entries
import YamlAudit.Proofs.Audit.Unfolding
import YamlAudit.Proofs.RangeMap.Prepended
import YamlAudit.Proofs.Value.Copier
