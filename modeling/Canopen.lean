import Canopen.Conversion
import Canopen.Json.Reader
import Canopen.Json.Writer
import Canopen.Main
import Canopen.Proofs.CamelCase
import Canopen.Proofs.Command.Agreement
import Canopen.Proofs.Command.Targets
import Canopen.Proofs.Compile.Access
import Canopen.Proofs.Compile.Attribution
import Canopen.Proofs.Compile.Checks
import Canopen.Proofs.Compile.Counts
import Canopen.Proofs.Compile.Defaults
import Canopen.Proofs.Compile.Elements
import Canopen.Proofs.Compile.FirstParts
import Canopen.Proofs.Compile.Independence
import Canopen.Proofs.Compile.Links
import Canopen.Proofs.Compile.Names
import Canopen.Proofs.Compile.Records
import Canopen.Proofs.Compile.Spellings
import Canopen.Proofs.Compile.Symbols
import Canopen.Proofs.Compile.Widths
import Canopen.Proofs.Document.Json
import Canopen.Proofs.Document.Problems
import Canopen.Proofs.Document.Shapes
import Canopen.Proofs.Encoding.Initializers
import Canopen.Proofs.Encoding.Sums
import Canopen.Proofs.Image.History
import Canopen.Proofs.Schema.Paths
import Canopen.Proofs.Session
