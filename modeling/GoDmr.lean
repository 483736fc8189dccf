import GoDmr.Bytes
import GoDmr.GoLib
import GoDmr.DataFrame
import GoDmr.ConfigFrame
import GoDmr.Endpoint
import GoDmr.Handle
import GoDmr.Keepalive
import GoDmr.Run
import GoDmr.Dispatch
import GoDmr.Registry
import GoDmr.Table
import GoDmr.Challenge
import GoDmr.Pair
import GoDmr.TalkerAlias
import GoDmr.Timers
import GoDmr.Login
import GoDmr.Runs
import GoDmr.Session
import GoDmr.ConfigRuns
import GoDmr.Agreement
import GoDmr.PingLoss
import GoDmr.Restart
import GoDmr.Closing
import GoDmr.WrongKey
