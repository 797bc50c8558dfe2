import OvsCni.Trunk
import OvsCni.Net

/-!
# The data of a call

The records the three handlers read and write, with the fields the handlers use. A CNI call
arrives as `OvsCni.CmdArgs`: the container, its network namespace, the interface name to
create, the environment arguments and the network configuration as sent on standard input.
The configuration parsed from it is `OvsCni.NetConf`; what `CmdAdd` keeps of it for the later
calls is `OvsCni.CachedNetConf`; what it reports is `OvsCni.Result`.

Fields of the source's records that no handler reads (the MTU of a reported interface, the
gateway and mask of an address, the DNS section of a result) are left out; the collaborators
that fill or read them are modelled as calls and see the records as given here.
-/

namespace OvsCni

/-- The arguments of a CNI call (`skel.CmdArgs`). -/
structure CmdArgs where
  /-- `CNI_CONTAINERID`. -/
  containerID : String
  /-- `CNI_NETNS`, the path of the container's network namespace; may be empty on delete. -/
  netns : String
  /-- `CNI_IFNAME`, the interface to create in the container. -/
  ifName : String
  /-- `CNI_ARGS`, the environment arguments as one string. -/
  args : String
  /-- The network configuration as sent on standard input. -/
  stdinData : String
  deriving DecidableEq, Repr

/-- The environment arguments the plugin reads (`EnvArgs`). -/
structure EnvArgs where
  /-- `MAC`, a MAC the container interface must get. -/
  mac : String
  /-- `OvnPort`, the name of a logical port of OVN. -/
  ovnPort : String
  /-- `K8S_POD_UID`. -/
  k8sPodUid : String
  deriving DecidableEq, Repr

/-- The IPAM section of a configuration. -/
structure IPAM where
  /-- The IPAM plugin to run; empty for none. -/
  type : String
  deriving DecidableEq, Repr

/-- The network configuration (`types.NetConf`). -/
structure NetConf where
  /-- The CNI version of the result to print. -/
  cniVersion : String
  /-- The IPAM section. -/
  ipam : IPAM
  /-- The previous result handed to a check, as received. -/
  rawPrevResult : Option String
  /-- The bridge; empty when it is to be discovered. -/
  brName : String
  /-- The VLAN tag of an access port. -/
  vlanTag : Option Nat
  /-- The VLANs of a trunk port. -/
  trunk : List Trunk
  /-- The OpenFlow port number asked for. -/
  ofportRequest : Nat
  /-- The interface type of the port. -/
  interfaceType : String
  /-- The MTU of the interfaces. -/
  mtu : Int
  /-- The PCI address of an SR-IOV virtual function. -/
  deviceID : String
  /-- The socket of the switch database. -/
  socketFile : String
  /-- How many times the port state is polled. -/
  linkStateCheckRetries : Int
  /-- The pause between two polls, in milliseconds. -/
  linkStateCheckInterval : Int
  deriving DecidableEq, Repr

/-- The record `CmdAdd` saves for the later calls (`types.CachedNetConf`). -/
structure CachedNetConf where
  /-- The configuration, with the bridge as it was resolved. -/
  netconf : NetConf
  /-- The host name of the virtual function before it was moved. -/
  origIfName : String
  /-- Whether the virtual function is driven from user space, with no host interface. -/
  userspaceMode : Bool
  deriving DecidableEq, Repr

/-- An interface of a result (`current.Interface`). -/
structure Interface where
  /-- The interface name. -/
  name : String
  /-- The MAC, as text. -/
  mac : String
  /-- The network namespace it lives in; empty on the host. -/
  sandbox : String
  deriving DecidableEq, Repr

/-- An address of a result (`current.IPConfig`). -/
structure IPConfig where
  /-- The index, in the interface list, of the interface the address is on. -/
  interface : Option Nat
  /-- The address (`Address.IP`). -/
  address : IP
  deriving DecidableEq, Repr

/-- A result (`current.Result`). -/
structure Result where
  /-- The interfaces. -/
  interfaces : List Interface
  /-- The addresses. -/
  ips : List IPConfig
  /-- The routes, handed on to the collaborators as they came. -/
  routes : List String
  deriving DecidableEq, Repr

/-- What the handlers read of a kernel link (`netlink.Link`). -/
structure Link where
  /-- The link name. -/
  name : String
  /-- Its MAC, as text. -/
  mac : String
  /-- Whether the link is one end of a veth pair. -/
  isVeth : Bool
  deriving DecidableEq, Repr

/-- The VLAN state of a port as the switch reports it: the mode, the tag and the trunk
list. -/
structure VlanState where
  /-- `vlan_mode`. -/
  mode : String
  /-- `tag`. -/
  tag : Option Nat
  /-- `trunks`. -/
  trunk : List Nat
  deriving DecidableEq, Repr

/-- An error of `ns.GetNS`: the path does not exist (`ns.NSPathNotExistErr`), or another
failure. -/
inductive NsError where
  /-- No namespace at the path. -/
  | pathNotExist (msg : String)
  /-- Any other failure. -/
  | other (msg : String)
  deriving DecidableEq, Repr

/-- An error of `ip.DelLinkByName`: no such link (`ip.ErrLinkNotFound`), or another
failure. -/
inductive DelLinkError where
  /-- No link of that name. -/
  | linkNotFound
  /-- Any other failure. -/
  | other (msg : String)
  deriving DecidableEq, Repr

/-- The text of a namespace error. -/
def NsError.error : NsError → String
  | .pathNotExist msg => msg
  | .other msg => msg

/-- The text of a link deletion error. -/
def DelLinkError.error : DelLinkError → String
  | .linkNotFound => "link not found"
  | .other msg => msg

/-- Go's `%q` of a string: the string between double quotes (escapes are not modelled). -/
def quote (s : String) : String := "\"" ++ s ++ "\""

/-! ### Inputs of the sample runs -/

/-- A configuration naming its bridge, with no VLAN, no IPAM plugin and no device. -/
def bridgeConf : NetConf where
  cniVersion := "0.4.0"
  ipam := ⟨""⟩
  rawPrevResult := none
  brName := "br0"
  vlanTag := none
  trunk := []
  ofportRequest := 0
  interfaceType := ""
  mtu := 1500
  deviceID := ""
  socketFile := ""
  linkStateCheckRetries := 0
  linkStateCheckInterval := 0

/-- The arguments of an attach of `eth0` in the namespace `/var/run/netns/n1`. -/
def attachArgs : CmdArgs := ⟨"c1", "/var/run/netns/n1", "eth0", "", "{}"⟩

end OvsCni
