import LinkVetting.Unicode.CaseFold
import LinkVetting.Unicode.Named
import LinkVetting.Pattern.Matcher
import LinkVetting.Catalogue
import LinkVetting.Audit.Decoder
import LinkVetting.Audit.Session
import LinkVetting.Report
import LinkVetting.Json.Choice
import LinkVetting.Text.Utf8
import LinkVetting.Text.Quoted
import LinkVetting.CommandLine.Request
import LinkVetting.Main
import LinkVetting.Proofs.Catalogue.BrowserView
import LinkVetting.Proofs.Catalogue.DeniedPlaces
import LinkVetting.Proofs.Catalogue.LeadingRun
import LinkVetting.Proofs.Catalogue.LetterCase
import LinkVetting.Proofs.Catalogue.Stretches
import LinkVetting.Proofs.Catalogue.Views
import LinkVetting.Proofs.Report.Confinement
import LinkVetting.Proofs.Report.InputLines
import LinkVetting.Proofs.Audit.EntryReading
import LinkVetting.Proofs.Audit.Interleaving
import LinkVetting.Proofs.Audit.Journal
import LinkVetting.Proofs.Audit.SessionCourse
import LinkVetting.Proofs.Audit.Sharing
import LinkVetting.Proofs.Audit.TrailOpening
import LinkVetting.Proofs.CommandLine.Requests
import LinkVetting.Proofs.Program.Footprint
import LinkVetting.Proofs.Program.Neutrality
import LinkVetting.Proofs.Program.Origin
import LinkVetting.Proofs.RuleSet.Composition
import LinkVetting.Proofs.RuleSet.Diagnostics
import LinkVetting.Proofs.RuleSet.Violations
