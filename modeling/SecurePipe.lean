import SecurePipe.Lib.Rust
import SecurePipe.Lib.Machine
import SecurePipe.Lib.Trace
import SecurePipe.Lib.Chronicle
import SecurePipe.Lib.Window
import SecurePipe.Lib.Blocks
import SecurePipe.Lib.Text
import SecurePipe.Lib.BigEndian
import SecurePipe.Lib.C
import SecurePipe.Lib.Strtoul
import SecurePipe.Lib.Aead
import SecurePipe.Lib.Contracts
import SecurePipe.Lib.Gf2
import SecurePipe.Lib.Broadcast
import SecurePipe.Lib.Binary32
import SecurePipe.Lib.Timer
import SecurePipe.Error
import SecurePipe.Protocol.Crc
import SecurePipe.Protocol.CrcAlgebra
import SecurePipe.Protocol.Frame
import SecurePipe.Protocol.FrameCodec
import SecurePipe.Protocol.Registry
import SecurePipe.Protocol.Replay
import SecurePipe.Protocol.ReplayHistory
import SecurePipe.Protocol.ReplayDevices
import SecurePipe.Crypto.AesGcm
import SecurePipe.Transport.Tcp
import SecurePipe.Transport.ProcessFrame
import SecurePipe.Transport.Whitelist
import SecurePipe.Transport.Connection
import SecurePipe.Transport.Intake
import SecurePipe.Transport.Deframe
import SecurePipe.Transport.Realign
import SecurePipe.Transport.Tasks
import SecurePipe.Transport.Order
import SecurePipe.Transport.Agreement
import SecurePipe.Transport.Restart
import SecurePipe.Transport.Markup
import SecurePipe.Transport.Sequential
import SecurePipe.Transport.Budget
import SecurePipe.Transport.Delivery
import SecurePipe.Transport.Session
import SecurePipe.Api.Routes
import SecurePipe.Api.Dashboard
import SecurePipe.Simulator
import SecurePipe.Arduino.SensorNode
import SecurePipe.Arduino.Esp32Frame
import SecurePipe.Arduino.CrcAgreement
import SecurePipe.Arduino.CrcDetection
import SecurePipe.Arduino.EndToEnd
import SecurePipe.Arduino.Esp32Sender
import SecurePipe.Arduino.UartReceiver
import SecurePipe.Arduino.ShortWrites
import SecurePipe.Arduino.Lockout
import SecurePipe.Arduino.CrashSafety
import SecurePipe.Arduino.NonceReuse
import SecurePipe.Arduino.Distance
import SecurePipe.Arduino.SensorLoop
import SecurePipe.Arduino.SensorLink
import SecurePipe.Arduino.Board
import SecurePipe.Transport.Pipeline
import SecurePipe.Arduino.DirectMode
import SecurePipe.Arduino.DeviceId
