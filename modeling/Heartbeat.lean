import Heartbeat.Text.Blank
import Heartbeat.Text.Numeric
import Heartbeat.Text.Utf8
import Heartbeat.Text.Radix
import Heartbeat.Size
import Heartbeat.Json.Basic
import Heartbeat.Json.Read
import Heartbeat.Json.Write
import Heartbeat.Register
import Heartbeat.Target
import Heartbeat.Board
import Heartbeat.Yaml.Node
import Heartbeat.Yaml.Token
import Heartbeat.Yaml.Scanner
import Heartbeat.Yaml.Scalar
import Heartbeat.Yaml.Tokens
import Heartbeat.Yaml.Read
import Heartbeat.Profile.Basic
import Heartbeat.Profile.Validate
import Heartbeat.Profile.Decode
import Heartbeat.Profile.Builtin
import Heartbeat.Profile.Encode
import Heartbeat.Fault
import Heartbeat.Device.Gpio
import Heartbeat.Device.Rcc
import Heartbeat.Device.Memory
import Heartbeat.Device.Basic
import Heartbeat.Device.Ops
import Heartbeat.Bus.Observer
import Heartbeat.Bus.Basic
import Heartbeat.Bus.Snapshot
import Heartbeat.Bus.Build
import Heartbeat.Bus.Ops
import Heartbeat.Blinker
import Heartbeat.Session.Config
import Heartbeat.Session.Basic
import Heartbeat.Waveform
import Heartbeat.Cli.Args
import Heartbeat.Cli.Help
import Heartbeat.Cli.Script
import Heartbeat.Session.Encode
import Heartbeat.Cli.Commands
import Heartbeat.Main
import Heartbeat.Proofs.Blinker
import Heartbeat.Proofs.Access
import Heartbeat.Proofs.Profile
import Heartbeat.Proofs.Run
import Heartbeat.Proofs.Clocked
import Heartbeat.Proofs.PinMode
import Heartbeat.Proofs.Reset
import Heartbeat.Proofs.Routing
import Heartbeat.Proofs.Echo
import Heartbeat.Proofs.Levels
import Heartbeat.Proofs.Validity
import Heartbeat.Proofs.Bounds
import Heartbeat.Proofs.Events
import Heartbeat.Proofs.Books
import Heartbeat.Proofs.Shadow
import Heartbeat.Proofs.Buildable
import Heartbeat.Proofs.Overflow
import Heartbeat.Proofs.PlainMemory
import Heartbeat.Proofs.FieldTiling
import Heartbeat.Proofs.PortRegisters
import Heartbeat.Proofs.LastWrite
