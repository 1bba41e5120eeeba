import Liblaser.Lib.Loop
import Liblaser.Lib.Bytes
import Liblaser.Bot.Clean
import Liblaser.Bot.Sound
import Liblaser.Bot.Disconnect
import Liblaser.Scsi.Replay
import Liblaser.Scsi.Ending
import Liblaser.Scsi.Swap
import Liblaser.Registry.Accounts
import Liblaser.Registry.Answers
import Liblaser.Registry.Endpoints
import Liblaser.Registry.Latched
import Liblaser.Registry.Token
import Liblaser.Css.Timeout
import Liblaser.Blocks.Drive
import Liblaser.Blocks.Contract
import Liblaser.Scsi.Latched
import Liblaser.Scsi.NeverSent
import Liblaser.Blocks.Cancelled
import Liblaser.Blocks.Interleaved
import Liblaser.Blocks.WeakBridge
import Liblaser.Threads.Closed
import Liblaser.Locking.Discipline
import Liblaser.Threads.Gate
import Liblaser.Threads.Gone
import Liblaser.Disc.WellFormed
import Liblaser.Disc.VideoCd
import Liblaser.Disc.Toc
import Liblaser.Scsi.Resent
import Liblaser.Scsi.Readiness
import Liblaser.Scsi.Qualifiers
import Liblaser.Bot.Answered
import Liblaser.Scsi.Delivered
import Liblaser.Blocks.Complete
import Liblaser.Scsi.Region
import Liblaser.Blocks.Positional
import Liblaser.Disc.Recognised
