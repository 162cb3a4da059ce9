import Stencil.Main
import Stencil.Proofs.Document.RoundTrip
import Stencil.Proofs.Execution.Counting
import Stencil.Proofs.Execution.Lexical
import Stencil.Proofs.Response.Header
import Stencil.Proofs.Response.Headless
import Stencil.Proofs.Document.Fault
import Stencil.Proofs.Token.Cover
import Stencil.Proofs.Execution.Footprint
import Stencil.Proofs.Response.Refusal
import Stencil.Proofs.Execution.Cut
import Stencil.Proofs.Execution.Depth
import Stencil.Proofs.Execution.Locality
import Stencil.Proofs.Document.Quotation
import Stencil.Proofs.Document.Concatenation
import Stencil.Proofs.Execution.Arguments
import Stencil.Proofs.Response.History
import Stencil.Proofs.Store.Family
import Stencil.Proofs.Document.Location
import Stencil.Proofs.Execution.Safety
import Stencil.Proofs.Value.Integers
import Stencil.Proofs.Value.Storage
import Stencil.Proofs.Response.Declared
import Stencil.Proofs.DecimalPattern.Rounded
import Stencil.Proofs.DecimalPattern.Grammar
import Stencil.Proofs.Tag.Spacing
import Stencil.Proofs.Element.Grammar
import Stencil.Proofs.Execution.Recovery
import Stencil.Proofs.Fixture.FrontMatter
import Stencil.Proofs.Fixture.Check
import Stencil.Proofs.Fixture.Suite
import Stencil.Proofs.Response.Framing
