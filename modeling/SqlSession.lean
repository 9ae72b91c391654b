import SqlSession.HandleTable
import SqlSession.Main
import SqlSession.Probe
import SqlSession.Proofs.Attribute
import SqlSession.Proofs.Configuration
import SqlSession.Proofs.Session.Attempt
import SqlSession.Proofs.Session.Chunking
import SqlSession.Proofs.Session.Establish
import SqlSession.Proofs.Session.Failure
import SqlSession.Proofs.Session.Pipeline
import SqlSession.Proofs.Session.Refusal
import SqlSession.Proofs.Session.Run
import SqlSession.Proofs.Session.Transfer
import SqlSession.Proofs.Text.Blank
import SqlSession.Proofs.Text.Numeral
import SqlSession.Proofs.Transport.Channel
import SqlSession.Proofs.Transport.Traffic
import SqlSession.Proofs.Wire.Frame
import SqlSession.Proofs.Wire.Response
import SqlSession.Transport.Memory
import SqlSession.Transport.Offline
import SqlSession.Transport.Scripted
import SqlSession.Proofs.Attribute.Grammar
import SqlSession.Proofs.Session.Handshake
import SqlSession.Proofs.HandleTable.Entries
import SqlSession.Proofs.HandleTable.Operation
import SqlSession.Proofs.HandleTable.Freed
import SqlSession.Proofs.HandleTable.Locality
import SqlSession.Proofs.Transport.Loopback
import SqlSession.Proofs.Wire.Stream
import SqlSession.Proofs.Transport.Reception
import SqlSession.Proofs.Wire.Truncation
import SqlSession.Proofs.Wire.Decoding
import SqlSession.Proofs.HandleTable.Report
import SqlSession.Proofs.Probe
import SqlSession.Proofs.Configuration.Apply
import SqlSession.Proofs.Configuration.Address
import SqlSession.Proofs.Registry.Naming
import SqlSession.Proofs.Transport.Sending
import SqlSession.Proofs.Version
import SqlSession.Proofs.Info
import SqlSession.Proofs.Text.Order
import SqlSession.Proofs.Registry.Lookup
import SqlSession.Proofs.Transport.Account
import SqlSession.Proofs.Transport.Transfers
import SqlSession.Proofs.HandleTable.Sent
import SqlSession.Proofs.Yaml.Scalar
import SqlSession.Proofs.Yaml.Lexing
import SqlSession.Proofs.Yaml.Blocks
import SqlSession.Proofs.Yaml.Building
import SqlSession.Proofs.Yaml.Word
import SqlSession.Proofs.Registry.Stored
