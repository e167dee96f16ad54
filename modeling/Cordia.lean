import Cordia.Collections
import Cordia.Trace
import Cordia.Signaling.State
import Cordia.Signaling.Index
import Cordia.Signaling.Routing
import Cordia.Voice.State
import Cordia.Voice.Membership
import Cordia.Security.ConnectionTracker
import Cordia.Security.Accounting
import Cordia.Presence.Redis
import Cordia.Presence.Visibility
import Cordia.Presence.Concurrent
import Cordia.Client.Health
import Cordia.Client.Parse
import Cordia.Security.Config
import Cordia.Audio.Capture
import Cordia.Audio.Devices
import Cordia.Audio.Control
import Cordia.Audio.Dsp
import Cordia.Audio.Session
