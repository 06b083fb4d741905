import Zugli.Verif.Faults
import Zugli.Verif.Httpd
import Zugli.Verif.Versions
import Zugli.Verif.Parity.Layout
import Zugli.Verif.Editor.Accepted
import Zugli.Verif.Preview
import Zugli.Verif.Reset
import Zugli.Verif.Render.Current
import Zugli.Verif.Settings.Changes
import Zugli.Verif.Selections
import Zugli.Verif.Foreign
import Zugli.Verif.Minutes
import Zugli.Verif.Mdns
import Zugli.Verif.Captive
import Zugli.Verif.Offline
import Zugli.Verif.ScanList
import Zugli.Verif.Render.Connecting
import Zugli.Verif.Dimming
import Zugli.Verif.Clock
import Zugli.Verif.Settings.Inverse
import Zugli.Verif.Render.Safe
import Zugli.Verif.ScanCache
import Zugli.Verif.Editor.Drag
import Zugli.Verif.PowerLoss
import Zugli.Verif.Render.Sign
import Zugli.Verif.Render.Buffers
import Zugli.Verif.Render.Uniform
import Zugli.Verif.Render.Still
import Zugli.Verif.LifeCycle
import Zugli.Verif.Cores
import Zugli.Verif.Button
import Zugli.Verif.Responder
import Zugli.Verif.Editor.Shown
