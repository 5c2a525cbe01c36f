import CraftIo.Foundation.Bytes
import CraftIo.Foundation.VarInt
import CraftIo.Cipher.Cfb8
import CraftIo.Reader.Types
import CraftIo.Reader.Sync
import CraftIo.Reader.Async
import CraftIo.Frame.FrameReader
import CraftIo.Frame.Refinement
import CraftIo.Frame.Safety
import CraftIo.Frame.Pulls
import CraftIo.Session.Reachable
import CraftIo.Stream.Transport
import CraftIo.Session.LengthPrefix
import CraftIo.Stream.Frames
import CraftIo.Session.Framing
import CraftIo.Stream.Decoding
import CraftIo.Stream.Resync
import CraftIo.Session.SizeCap
import CraftIo.Stream.Encryption
import CraftIo.Stream.Channel
import CraftIo.Stream.Buffers
import CraftIo.Stream.Pending
import CraftIo.Session.Keys
import CraftIo.Stream.Queue
import CraftIo.Session.Configuration
import CraftIo.Session.Errors
import CraftIo.Stream.Protocol
