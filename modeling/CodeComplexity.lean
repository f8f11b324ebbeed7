import CodeComplexity.Json.Printer
import CodeComplexity.Settings.Sources
import CodeComplexity.Simulation.CacheRun
import CodeComplexity.Simulation.AnnotatorRun
import CodeComplexity.Simulation.DeskRun
import CodeComplexity.Simulation.SessionRun
import CodeComplexity.Proofs.Analysis.Requests
import CodeComplexity.Proofs.Course
import CodeComplexity.Proofs.Analysis.Office
import CodeComplexity.Proofs.Analysis.Coalescing
import CodeComplexity.Proofs.Analysis.Settling
import CodeComplexity.Proofs.Session.Outcome
import CodeComplexity.Proofs.Session.Supersession
import CodeComplexity.Proofs.Marking.Passes
import CodeComplexity.Proofs.Session.Markers
import CodeComplexity.Proofs.Marking.Triggers
import CodeComplexity.Proofs.Marking.Debounce
import CodeComplexity.Proofs.Marking.Driven
import CodeComplexity.Proofs.Session.Driven
import CodeComplexity.Proofs.Verdict.History
import CodeComplexity.Proofs.Session.Consistency
import CodeComplexity.Proofs.Analysis.Outcome
import CodeComplexity.Proofs.Analysis.Waiting
import CodeComplexity.Proofs.Analysis.Sharing
import CodeComplexity.Proofs.Analysis.Provenance
import CodeComplexity.Proofs.Session.Provenance
import CodeComplexity.Proofs.Session.Dialogue
import CodeComplexity.Proofs.Source.Nesting
import CodeComplexity.Proofs.Source.Counting
import CodeComplexity.Proofs.Source.Lines
import CodeComplexity.Proofs.Source.Bodies
import CodeComplexity.Proofs.Source.Around
import CodeComplexity.Proofs.Source.Balance
import CodeComplexity.Proofs.Source.Locality
import CodeComplexity.Proofs.Source.StartTokens
import CodeComplexity.Proofs.Source.ControlLines
import CodeComplexity.Proofs.Session.Selections
import CodeComplexity.Proofs.Classifier.Reply
import CodeComplexity.Proofs.Analysis.Giving
import CodeComplexity.Proofs.Analysis.Hovers
import CodeComplexity.Proofs.Session.Rejections
import CodeComplexity.Proofs.Session.Hovering
import CodeComplexity.Proofs.Session.Endings
import CodeComplexity.Proofs.Source.Slices
import CodeComplexity.Proofs.Source.Ranges
import CodeComplexity.Proofs.Session.OwnRange
import CodeComplexity.Proofs.Session.WholeDocument
import CodeComplexity.Proofs.Session.AtOnce
import CodeComplexity.Proofs.Marking.Tallies
import CodeComplexity.Proofs.Session.Reports
import CodeComplexity.Proofs.Check.Restored
import CodeComplexity.Proofs.Settings.Written
import CodeComplexity.Proofs.Session.Starting
import CodeComplexity.Proofs.Classifier.Sorting
import CodeComplexity.Proofs.Verdict.RoundTrip
import CodeComplexity.Proofs.Session.VerdictObjects
