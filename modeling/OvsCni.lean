import OvsCni.Trunk
import OvsCni.Prog
import OvsCni.Net
import OvsCni.Types
import OvsCni.Calls
import OvsCni.Vlan
import OvsCni.Helpers
import OvsCni.WaitLinkUp
import OvsCni.CmdAdd
import OvsCni.AddRollback
import OvsCni.AddMac
import OvsCni.CmdDel
import OvsCni.Recovery
import OvsCni.CmdCheck
import OvsCni.System
import OvsCni.Isolation
