import LeadingComment.FileTree
import LeadingComment.Main
import LeadingComment.Proofs.ArgumentReading
import LeadingComment.Proofs.CatalogViews
import LeadingComment.Proofs.ColoredOutput
import LeadingComment.Proofs.ConsoleScript
import LeadingComment.Proofs.DetectionEffect
import LeadingComment.Proofs.FullOutput
import LeadingComment.Proofs.InterruptedReading
import LeadingComment.Proofs.LineEndings
import LeadingComment.Proofs.LineNumbers
import LeadingComment.Proofs.Lockstep
import LeadingComment.Proofs.LosslessLines
import LeadingComment.Proofs.PathResolution
import LeadingComment.Proofs.RelativePosition
import LeadingComment.Proofs.ReportRun
import LeadingComment.Proofs.SampleComments
import LeadingComment.Proofs.SinkProtocol
import LeadingComment.Text.Utf8.RoundTrip
import LeadingComment.Proofs.LimitedOutput
