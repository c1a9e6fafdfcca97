import LspHost.Main
import LspHost.Process.ScriptFile
import LspHost.Protocol.Model
import LspHost.Proofs.Broker
import LspHost.Proofs.Catalogue.Directory
import LspHost.Proofs.Catalogue.Updates
import LspHost.Proofs.Display.Verbatim
import LspHost.Proofs.Terminal.Addressing
import LspHost.Proofs.Configuring
import LspHost.Proofs.Greeting
import LspHost.Proofs.Hearing
import LspHost.Proofs.Noticing
import LspHost.Proofs.Queueing
import LspHost.Proofs.Serial
import LspHost.Proofs.Protocol.RoundTrip
import LspHost.Proofs.Protocol.Scope
import LspHost.Proofs.Protocol.Tokens
import LspHost.Proofs.Transport.Endings
import LspHost.Proofs.Persisting
import LspHost.Proofs.Accepting
import LspHost.Proofs.Querying
import LspHost.Proofs.Recording
