import CallGraph.Main
import CallGraph.Proofs.Text.Utf8
import CallGraph.Proofs.Text.Percent
import CallGraph.Proofs.Text.Cut
import CallGraph.Proofs.Text.Token
import CallGraph.Proofs.Uri.Fragment
import CallGraph.Proofs.Uri.Pieces
import CallGraph.Proofs.Uri.Grammar
import CallGraph.Proofs.Uri.RoundTrip
import CallGraph.Proofs.Listing
import CallGraph.Proofs.ArtifactGraph.Operations
import CallGraph.Proofs.ArtifactGraph.History
import CallGraph.Proofs.RawGraph.Numbering
import CallGraph.Proofs.RawGraph.Assembly
import CallGraph.Proofs.RawGraph.Calls
import CallGraph.Proofs.RawGraph.Relisting
import CallGraph.Proofs.RawGraph.Accounting
import CallGraph.Proofs.Text.Decimal
import CallGraph.Proofs.Json.Tokens
import CallGraph.Proofs.Json.RoundTrip
import CallGraph.Proofs.Revision.RoundTrip
import CallGraph.Proofs.Revision.Validity
import CallGraph.Proofs.Revision.Build
import CallGraph.Proofs.Revision.Reconstruction
import CallGraph.Proofs.ArtifactGraph.Numbered
import CallGraph.Proofs.RawGraph.Numbered
import CallGraph.Proofs.Json.Size
import CallGraph.Proofs.RawGraph.Size
import CallGraph.Proofs.Revision.Generated
import CallGraph.Proofs.Jvm.ClassFile
import CallGraph.Proofs.RawGraph.Distinct
import CallGraph.Proofs.ArtifactGraph.Blocks
import CallGraph.Proofs.RawGraph.Blocks
import CallGraph.Proofs.Revision.Judgement
import CallGraph.Proofs.FileTree.Path
import CallGraph.Proofs.FileTree.Resolve
import CallGraph.Proofs.FileTree.Write
import CallGraph.Proofs.Revision.FileName
import CallGraph.Proofs.Pipeline.Record
import CallGraph.Proofs.Pipeline.Delivery
import CallGraph.Proofs.Pipeline.Batch
import CallGraph.Proofs.Pipeline.Course
import CallGraph.Proofs.Pipeline.Independence
import CallGraph.Proofs.Pipeline.Output
import CallGraph.Proofs.Xml.Children
import CallGraph.Proofs.Maven.Declared
import CallGraph.Proofs.Maven.Search
import CallGraph.Proofs.Http.Answers
import CallGraph.Proofs.Pipeline.Account
import CallGraph.Proofs.Revision.Findings
import CallGraph.Proofs.Text.Lines
import CallGraph.Proofs.Json.Grammar
import CallGraph.Proofs.CommandLine.BatchFile
import CallGraph.Proofs.FileTree.Attempt
import CallGraph.Proofs.Revision.Uris
import CallGraph.Proofs.RawGraph.Reading
import CallGraph.Proofs.RawGraph.Names
import CallGraph.Proofs.Pipeline.Faults
import CallGraph.Proofs.Revision.Publication
import CallGraph.Proofs.CommandLine.Single
import CallGraph.Proofs.CommandLine.Preparation
import CallGraph.Proofs.CommandLine.Faults
import CallGraph.Proofs.Jvm.Grammar
import CallGraph.Proofs.RawGraph.Libraries
import CallGraph.Proofs.Xml.Names
import CallGraph.Proofs.Maven.References
import CallGraph.Proofs.Maven.Arrangement
import CallGraph.Proofs.RawGraph.TypeFacts
import CallGraph.Proofs.Maven.Coordinate
import CallGraph.Proofs.Pipeline.Report
import CallGraph.Proofs.Maven.Address
import CallGraph.Proofs.Pipeline.Tally
