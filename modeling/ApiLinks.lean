import ApiLinks.Element
import ApiLinks.Main
import ApiLinks.Proofs.Bindings.Runs
import ApiLinks.Proofs.CommandLine.Answer
import ApiLinks.Proofs.CommandLine.Listing
import ApiLinks.Proofs.Expansion.Braces
import ApiLinks.Proofs.Expansion.Contributions
import ApiLinks.Proofs.Expansion.Delimiters
import ApiLinks.Proofs.Expansion.Injectivity
import ApiLinks.Proofs.Expansion.Lengths
import ApiLinks.Proofs.Expansion.Parameters
import ApiLinks.Proofs.Expansion.Receiver
import ApiLinks.Proofs.Expansion.Splitting
import ApiLinks.Proofs.Links.Base
import ApiLinks.Proofs.Links.Resolution
import ApiLinks.Proofs.Links.Segments
import ApiLinks.Proofs.Links.Server
import ApiLinks.Proofs.LinksDocument.Roundtrip
import ApiLinks.Proofs.Param.ListItems
import ApiLinks.Proofs.Shape
import ApiLinks.Proofs.Template.ByteScan
import ApiLinks.Proofs.Template.Layout
import ApiLinks.Proofs.Template.Notices
import ApiLinks.Proofs.Template.Reading
import ApiLinks.Proofs.Template.WellFormed
