import Motif.Match.Scan
import Motif.Token.Json
import Motif.Text.Quoted
import Motif.Proofs.Language.Element
import Motif.Proofs.Graph.Lowered
import Motif.Proofs.Language.Graph
import Motif.Proofs.Match.Walk
import Motif.Proofs.Language.Thread
import Motif.Proofs.Match.Calls
import Motif.Proofs.Notation.Sound
import Motif.Proofs.Language.Stream
import Motif.Proofs.Match.Attempts
import Motif.Proofs.Notation.Print
import Motif.Proofs.Notation.Literal
import Motif.Proofs.Notation.RoundTrip
import Motif.Proofs.Notation.Image
import Motif.Proofs.Match.Scope
import Motif.Proofs.Match.Lookup
import Motif.Proofs.Match.Finite
import Motif.Proofs.Match.Age
import Motif.Proofs.Pattern.Place
import Motif.Proofs.Graph.Shape
import Motif.Proofs.Graph.Recover
import Motif.Proofs.Language.Ending
import Motif.Proofs.Pattern.Whole
import Motif.Proofs.Match.Count
import Motif.Proofs.Notation.Rendering
import Motif.Proofs.Notation.Faults
import Motif.Proofs.Notation.Compose
import Motif.Proofs.Notation.Ranges
import Motif.Proofs.Match.Visit
import Motif.Proofs.Match.Sentinels
import Motif.Proofs.Match.Observed
import Motif.Proofs.Match.Traces
import Motif.Proofs.Match.Sentences
import Motif.Proofs.Notation.Definite
import Motif.Proofs.Notation.Scanning
import Motif.Proofs.Token.Written
import Motif.Pattern.Offsets
import Motif.Pattern.Scanner
