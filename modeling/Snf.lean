import Snf.Runtime.Distribution
import Snf.Game.DirtyComponents
import Snf.Game.ZoneFencing
import Snf.Game.ArenaGeometry
import Snf.Game.Outcomes
import Snf.Game.JoinOrder
import Snf.Game.WaveSchedule
import Snf.Game.ProjectileFlights
import Snf.Worker.ActorTable
import Snf.Worker.Awaits
import Snf.Worker.MailboxLimits
import Snf.Worker.TimerHeap
import Snf.Worker.DbCommits
import Snf.Worker.Agreement
import Snf.Worker.PollTables
import Snf.Worker.WorkQueues
import Snf.Server.ReceivedFrames
import Snf.Adapter.BattleDigests
import Snf.Adapter.RoomFence
import Snf.Adapter.SessionRecords
import Snf.Adapter.InterleavedLoads
import Snf.Client.DigestReplay
import Snf.Client.ReplyWire
import Snf.Client.Delivery
