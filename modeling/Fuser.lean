import Fuser.Foundation.Outcome
import Fuser.Foundation.Checked
import Fuser.Foundation.Layout
import Fuser.Foundation.Bitflags
import Fuser.Foundation.Records
import Fuser.Foundation.Ledger
import Fuser.Foundation.SmallVec
import Fuser.Foundation.Setter
import Fuser.Foundation.Escape
import Fuser.Foundation.Writer
import Fuser.Foundation.Shared
import Fuser.Foundation.Paging
import Fuser.Foundation.Calls
import Fuser.Foundation.Moves
import Fuser.Abi
import Fuser.Flags
import Fuser.Time
import Fuser.Errno
import Fuser.Argument
import Fuser.Operation
import Fuser.Request
import Fuser.Fetching
import Fuser.Framing
import Fuser.Parsing
import Fuser.Encode
import Fuser.KernelConfig
import Fuser.Session
import Fuser.Reply
import Fuser.Ioslice
import Fuser.Init
import Fuser.Handshake
import Fuser.Limits
import Fuser.Attr
import Fuser.Macos
import Fuser.Directory
import Fuser.Response
import Fuser.Filesystem
import Fuser.Notify
import Fuser.Dispatch
import Fuser.Epoch
import Fuser.Replies
import Fuser.Passthrough
import Fuser.BackingCache
import Fuser.Listing
import Fuser.Refusal
import Fuser.Accepted
import Fuser.Compat
import Fuser.Idmap
import Fuser.EventLoop
import Fuser.Serving
import Fuser.Adapter
import Fuser.Mount
import Fuser.MountOptions
import Fuser.Unmount
import Fuser.Backend
import Fuser.Startup
import Fuser.SimpleFs
import Fuser.Numbering
import Fuser.Run
