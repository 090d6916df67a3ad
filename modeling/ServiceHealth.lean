import ServiceHealth.Files.Tree
import ServiceHealth.Main
import ServiceHealth.Proofs.Execution.ScenarioRun
import ServiceHealth.Proofs.Pattern.Written
import ServiceHealth.Proofs.Pattern.Division
import ServiceHealth.Proofs.Pattern.Separation
import ServiceHealth.Proofs.Step.Resolution
import ServiceHealth.Proofs.Step.Ambiguity
import ServiceHealth.Proofs.Check.Verdicts
import ServiceHealth.Proofs.Step.Demand
import ServiceHealth.Proofs.Step.Records
import ServiceHealth.Proofs.Step.Precedents
import ServiceHealth.Proofs.Execution.FileRuns
import ServiceHealth.Proofs.Execution.Probes
import ServiceHealth.Proofs.Command.Stages
import ServiceHealth.Proofs.Execution.Isolation
import ServiceHealth.Proofs.Http.Workers
import ServiceHealth.Proofs.Step.Readings
import ServiceHealth.Proofs.Text.Trimming
import ServiceHealth.Proofs.Step.Binding
import ServiceHealth.Proofs.Feature.Places
import ServiceHealth.Proofs.Step.Endings
import ServiceHealth.Proofs.Pattern.Filling
import ServiceHealth.Proofs.Step.Rendering
import ServiceHealth.Proofs.Check.Entries
import ServiceHealth.Proofs.Execution.Waiting
import ServiceHealth.Proofs.Step.Serving
import ServiceHealth.Proofs.Pattern.Defects
import ServiceHealth.Proofs.Settings.PortTexts
import ServiceHealth.Proofs.Text.Encoding
import ServiceHealth.Proofs.Settings.Documents
import ServiceHealth.Proofs.Settings.Sources
import ServiceHealth.Proofs.Check.Levels
import ServiceHealth.Proofs.Check.PoolShape
import ServiceHealth.Proofs.Check.PoolCoherence
import ServiceHealth.Proofs.Check.DatabaseScope
import ServiceHealth.Proofs.Http.FinalResponse
import ServiceHealth.Proofs.Check.Timestamps
import ServiceHealth.Proofs.Text.ByteOrder
import ServiceHealth.Proofs.Feature.Listing
import ServiceHealth.Proofs.Execution.Refusals
import ServiceHealth.Proofs.Feature.Headings
import ServiceHealth.Proofs.Execution.Outlines
import ServiceHealth.Proofs.Execution.CheckOrder
import ServiceHealth.Proofs.Execution.Verbosity
import ServiceHealth.Proofs.Report.Summary
import ServiceHealth.Proofs.Step.Registration
import ServiceHealth.Proofs.Order.Latest
import ServiceHealth.Proofs.Step.Recall
