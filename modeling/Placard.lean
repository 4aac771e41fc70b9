import Placard.Json.Held
import Placard.Main
import Placard.Proofs.Config.Overruling
import Placard.Proofs.Config.VariableFile
import Placard.Proofs.Engine.Absent
import Placard.Proofs.Engine.Binding
import Placard.Proofs.Manifest
import Placard.Proofs.Registry.Counting
import Placard.Proofs.Registry.Keys
import Placard.Proofs.Registry.Overwriting
import Placard.Proofs.Registry.Tables
import Placard.Proofs.Run.Arrival
import Placard.Proofs.Run.Embedding
import Placard.Proofs.Run.Emptied
import Placard.Proofs.Run.ExitCode
import Placard.Proofs.Run.Narrowing
import Placard.Proofs.Run.Printed
import Placard.Proofs.Run.Published
import Placard.Proofs.Run.Unrelated
import Placard.Proofs.Setup.Stability
import Placard.Proofs.Registry.Storing
import Placard.Proofs.Setup.Accounting
import Placard.Proofs.Setup.Strictness
import Placard.Proofs.Source.Placing
import Placard.Proofs.Url.Decoding
import Placard.Proofs.Source.Naming
import Placard.Proofs.Registry.Literal
import Placard.Proofs.Liquid.Tagging
import Placard.Proofs.Engine.Tagging
import Placard.Proofs.Engine.Admission
import Placard.Proofs.Registry.Extending
import Placard.Proofs.Text.Words
