import Crazyass.Sys.Run
import Crazyass.Server.Dispatch
import Crazyass.Server.Effect
import Crazyass.Server.Account
import Crazyass.Server.Panics
import Crazyass.Server.Answer
import Crazyass.Server.Heart
import Crazyass.Server.Stage
import Crazyass.Server.Packet
import Crazyass.Server.Dirty
import Crazyass.Server.Registry
import Crazyass.Sys.Mailbox
import Crazyass.Server.Reader
import Crazyass.Sys.Books
import Crazyass.Server.Writers
import Crazyass.Server.Ledger
import Crazyass.Server.Lossless
import Crazyass.Client.Delegate
import Crazyass.Client.PlayScene
import Crazyass.Client.User
import Crazyass.Server.Reply
import Crazyass.Client.Mirror
import Crazyass.Server.Callback
import Crazyass.Server.Service
import Crazyass.Server.EventLock
import Crazyass.Server.Blocked
import Crazyass.Dogrun.Wire
import Crazyass.Dogrun.Dog
import Crazyass.Dogrun.Dispatch
import Crazyass.Dogrun.Crash
import Crazyass.Dogrun.Commit
import Crazyass.Client.Tcp
import Crazyass.Server.Verifier
import Crazyass.Dogrun.Purse
import Crazyass.Dogrun.Cooldown
import Crazyass.Dogrun.Header
import Crazyass.Client.Slots
import Crazyass.Client.Receive
import Crazyass.Client.Lifetime
import Crazyass.Sys.Framing
import Crazyass.Client.Assembly
import Crazyass.Client.Bounds
import Crazyass.Client.CardMgr
import Crazyass.Client.WrongCard
import Crazyass.Sys.Arrangement
import Crazyass.Client.Shuffle
import Crazyass.Client.Awaiting
import Crazyass.Client.EventMgr
import Crazyass.Client.Finger
import Crazyass.Client.PlayStage
import Crazyass.Client.StageCourse
import Crazyass.Client.StageWin
import Crazyass.Client.Line
import Crazyass.Client.Unlock
import Crazyass.Client.EventScene
import Crazyass.Dogrun.Ledger
import Crazyass.Websocket.Conn
import Crazyass.Websocket.Message
import Crazyass.Client.GameScene
import Crazyass.Client.Launch
import Crazyass.Client.Registration
import Crazyass.Client.Shop
import Crazyass.Client.Till
