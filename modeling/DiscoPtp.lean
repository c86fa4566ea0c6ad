import DiscoPtp.Properties.Frames
import DiscoPtp.Properties.Pairing
import DiscoPtp.Properties.Timers
import DiscoPtp.Properties.Steering
import DiscoPtp.Properties.Roles
import DiscoPtp.Properties.Calibration
import DiscoPtp.Properties.Announcing
import DiscoPtp.Properties.Restart
import DiscoPtp.Properties.Leftovers
import DiscoPtp.Properties.TransmitStamps
import DiscoPtp.Properties.Estimator
import DiscoPtp.Properties.Intervals
import DiscoPtp.Properties.Matching
import DiscoPtp.Properties.Selection
import DiscoPtp.Properties.FilterRange
import DiscoPtp.Properties.PathDelay
import DiscoPtp.Properties.RoundTrip
import DiscoPtp.Properties.InputBuffer
import DiscoPtp.Properties.Promises
import DiscoPtp.Properties.PeerPairing
import DiscoPtp.Properties.FailedSends
import DiscoPtp.Properties.ClockReading
import DiscoPtp.Properties.Copying
import DiscoPtp.Properties.OptionScan
import DiscoPtp.Properties.DhcpRequests
import DiscoPtp.Properties.UartQueue
import DiscoPtp.Properties.Draining
import DiscoPtp.Properties.Resources
import DiscoPtp.Properties.TimerNotices
import DiscoPtp.Properties.ServoOutput
import DiscoPtp.Properties.TimestampRange
import DiscoPtp.Properties.ExactTimes
import DiscoPtp.Properties.RxChains
import DiscoPtp.Properties.HttpPages
import DiscoPtp.Properties.BufferQueues
import DiscoPtp.Properties.ForeignDatagrams
import DiscoPtp.Properties.NewestAnnounce
import DiscoPtp.Properties.Agreement
import DiscoPtp.Properties.DelaySamples
import DiscoPtp.Properties.BestClock
import DiscoPtp.Properties.SyncRounds
import DiscoPtp.Properties.StateDiagram
import DiscoPtp.Properties.RxBuffers
import DiscoPtp.Properties.TimeTransfer
import DiscoPtp.Properties.UartReception
