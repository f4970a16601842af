import WorkflowOutline.Main
import WorkflowOutline.Script.Session
import WorkflowOutline.Proofs.Session.Sealing
import WorkflowOutline.Proofs.Session.Uncopied
import WorkflowOutline.Proofs.Outline.Interleaving
import WorkflowOutline.Proofs.Script.Canonicalisation
import WorkflowOutline.Proofs.Command.Agreement
import WorkflowOutline.Proofs.Script.Identities
import WorkflowOutline.Proofs.Session.Translation
import WorkflowOutline.Proofs.Session.Interference
import WorkflowOutline.Proofs.Script.Effects
import WorkflowOutline.Proofs.Session.Positions
import WorkflowOutline.Proofs.Fixture.Deviations
import WorkflowOutline.Proofs.Declaration.Headers
import WorkflowOutline.Proofs.Fixture.Discovery
import WorkflowOutline.Proofs.Fixture.Reporting
import WorkflowOutline.Proofs.Outline.Fields
import WorkflowOutline.Proofs.Outline.Spellings
import WorkflowOutline.Proofs.Session.Diagnostics
import WorkflowOutline.Proofs.Outline.Designation
import WorkflowOutline.Proofs.Command.Completion
import WorkflowOutline.Proofs.Command.DefaultSubcommand
import WorkflowOutline.Proofs.Command.Lines
