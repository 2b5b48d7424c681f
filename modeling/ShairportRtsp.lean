import ShairportRtsp.Codec.CString
import ShairportRtsp.Codec.Message
import ShairportRtsp.Codec.ReadRequest
import ShairportRtsp.Codec.RoundTrip
import ShairportRtsp.Codec.Segmentation
import ShairportRtsp.Codec.BufferBounds
import ShairportRtsp.Codec.Response
import ShairportRtsp.Codec.ContentLength
import ShairportRtsp.Conversation.Cleanup
import ShairportRtsp.Conversation.Auth
import ShairportRtsp.Conversation.Identity
import ShairportRtsp.Conversation.Announce
import ShairportRtsp.Conversation.AnnounceBody
import ShairportRtsp.Metadata.Queue
import ShairportRtsp.Metadata.FanOut
import ShairportRtsp.Session.Receiver
import ShairportRtsp.Session.Work
import ShairportRtsp.Session.Safety
import ShairportRtsp.Session.Ownership
import ShairportRtsp.Session.Listener
import ShairportRtsp.Metadata.Dmap
import ShairportRtsp.Conversation.Parameters
import ShairportRtsp.Metadata.Multicast
import ShairportRtsp.Metadata.Pipe
import ShairportRtsp.Metadata.RefLock
import ShairportRtsp.Conversation.Setup
import ShairportRtsp.Conversation.Exchange
import ShairportRtsp.Session.Watchdog
