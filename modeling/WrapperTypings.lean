import WrapperTypings.Main
import WrapperTypings.Proofs.Analysis.Exact
import WrapperTypings.Proofs.Analysis.Exclusions
import WrapperTypings.Proofs.Analysis.Segments
import WrapperTypings.Proofs.Archive.Failures
import WrapperTypings.Proofs.Catalog.Declarations
import WrapperTypings.Proofs.CommandLine.Printed
import WrapperTypings.Proofs.CommandLine.Settings
import WrapperTypings.Proofs.Configuration.GivenVersions
import WrapperTypings.Proofs.Document.Addition
import WrapperTypings.Proofs.Document.Header
import WrapperTypings.Proofs.Document.Items
import WrapperTypings.Proofs.Document.Overloads
import WrapperTypings.Proofs.Generation.Independence
import WrapperTypings.Proofs.Loading.Accepted
import WrapperTypings.Proofs.Loading.Failures
import WrapperTypings.Proofs.Loading.Reload
import WrapperTypings.Proofs.Loading.Strays
import WrapperTypings.Proofs.Version.Preorder
