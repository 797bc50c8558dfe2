import OvsCni.Prog
import OvsCni.Types

/-!
# The collaborators

Everything the plugin asks of the outside world, one constructor of `OvsCni.Call` per
operation, with the arguments the source passes it. The kinds of collaborator are the ones the
source imports: the parsing of arguments and configuration, the cache store (`utils`), the
switch database (`ovsdb`), the SR-IOV helpers (`sriov`), the kernel's namespaces and links
(`ns`, `netlink`, `ip`, `net`, `arping`), the IPAM plugin (`ipam`) and the result printer.
Operations on links and interfaces carry the path of the namespace they run in, the empty
path standing for the host; operations through a bridge driver carry the bridge the driver
was made for.

`OvsCni.Call.Resp` is the type of the answer to each call: a Go `error` is an `Except` with
the error's text, `(T, error)` is `Except String T`. A handler of the plugin is then a program
`OvsCni.Plugin` over these calls, and each collaborator is the program making one call, under
the source's name.

The cache store is the one collaborator with state the handlers share: `OvsCni.Store` is its
content, and `OvsCni.Store.after` the content after the calls of a run, only `saveCache` and
`cleanCache` changing it. A few `Bool` classifiers of the calls (`OvsCni.Call.writesCache`,
`OvsCni.Call.portBridge`, `OvsCni.Call.ofIpamBlock`, `OvsCni.Call.compensates`,
`OvsCni.Call.resolvesBridge`, `OvsCni.Call.removes`, `OvsCni.Call.readsCache`) name the kinds of
call the later statements speak of.

The pure helpers of packages not in the repository's sources – `config.GetCRef` and
`sriov.IsOvsHardwareOffloadEnabled` – are parameters of the handlers instead; nothing is
assumed of them.
-/

namespace OvsCni

/-- A call of the plugin to a collaborator. -/
inductive Call where
  /-- `cnitypes.LoadArgs`: parse the environment arguments. -/
  | loadArgs (args : String)
  /-- `config.LoadConf`: parse the network configuration. -/
  | loadConf (stdinData : String)
  /-- `utils.SaveCache`: store the record for the key. -/
  | saveCache (cRef : String) (cache : CachedNetConf)
  /-- `config.LoadConfFromCache`: read the record of the key. -/
  | loadConfFromCache (cRef : String)
  /-- `utils.CleanCache`: drop the record of the key. -/
  | cleanCache (cRef : String)
  /-- `ovsdb.NewOvsDriver`: connect to the switch database. -/
  | newOvsDriver (socketFile : String)
  /-- `FindBridgeByInterface`: the bridge owning an uplink. -/
  | findBridgeByInterface (uplinkName : String)
  /-- `ovsdb.NewOvsBridgeDriver`: connect for one bridge. -/
  | newOvsBridgeDriver (bridgeName socketFile : String)
  /-- `CreatePort`: add a port and its interface to the bridge, tagged with the container's
  namespace and interface. -/
  | createPort (bridge intfName contNetnsPath contIfaceName ovnPortName : String)
      (ofportRequest vlanTag : Nat) (trunks : List Nat) (portType intfType contPodUid : String)
  /-- `DeletePort`: remove a port from the bridge. -/
  | deletePort (bridge portName : String)
  /-- `GetOvsPortForContIface`: the port tagged with a container interface and namespace. -/
  | getOvsPortForContIface (bridge contIface contNetnsPath : String)
  /-- `FindInterfacesWithError`: the interfaces reporting an error. -/
  | findInterfacesWithError (bridge : String)
  /-- `GetOFPortOpState`: the operational state of a port's link. -/
  | getOFPortOpState (bridge portName : String)
  /-- `IsBridgePresent`. -/
  | isBridgePresent (bridge bridgeName : String)
  /-- `GetOFPortVlanState`: the VLAN mode, tag and trunks of a port. -/
  | getOFPortVlanState (bridge portName : String)
  /-- `sriov.GetBridgeUplinkNameByDeviceID`: the uplinks a device may hang off. -/
  | getBridgeUplinkNameByDeviceID (deviceID : String)
  /-- `sriov.HasUserspaceDriver`. -/
  | hasUserspaceDriver (deviceID : String)
  /-- `sriov.GetVFLinkName`: the host name of the virtual function. -/
  | getVFLinkName (deviceID : String)
  /-- `sriov.SetupSriovInterface`: move the virtual function into the namespace. -/
  | setupSriovInterface (contNetns containerID ifName mac : String) (mtu : Int)
      (deviceID : String) (userspaceMode : Bool)
  /-- `sriov.GetNetRepresentor`: the representor port of the virtual function. -/
  | getNetRepresentor (deviceID : String)
  /-- `sriov.ResetVF`: put the virtual function back in its original state. -/
  | resetVF (args : CmdArgs) (deviceID origIfName : String)
  /-- `sriov.ReleaseVF`: move the virtual function back to the host. -/
  | releaseVF (args : CmdArgs) (origIfName : String)
  /-- `ns.GetNS`: open a network namespace. -/
  | getNS (path : String)
  /-- Entering the namespace, in `NetNS.Do`. -/
  | nsDo (path : String)
  /-- `ip.SetupVeth`, inside the namespace: a veth pair with one end moved to the host. -/
  | setupVeth (netns contIfaceName : String) (mtu : Int) (mac : String)
  /-- `netlink.LinkByName`. -/
  | linkByName (netns name : String)
  /-- `netlink.LinkSetUp`. -/
  | linkSetUp (netns name : String)
  /-- `netlink.LinkSetHardwareAddr`. -/
  | linkSetHardwareAddr (netns name : String) (mac : HardwareAddr)
  /-- `ip.DelLinkByName`. -/
  | delLinkByName (netns name : String)
  /-- `net.InterfaceByName`. -/
  | interfaceByName (netns name : String)
  /-- `arping.GratuitousArpOverIface`. -/
  | gratuitousArp (netns : String) (address : IP) (ifName : String)
  /-- `ip.ValidateExpectedInterfaceIPs`. -/
  | validateExpectedInterfaceIPs (netns ifName : String) (ips : List IPConfig)
  /-- `ip.ValidateExpectedRoute`. -/
  | validateExpectedRoute (netns : String) (routes : List String)
  /-- `ipam.ExecAdd`: run the IPAM plugin's add. -/
  | ipamExecAdd (type stdinData : String)
  /-- `ipam.ExecDel`: run the IPAM plugin's delete. -/
  | ipamExecDel (type stdinData : String)
  /-- `ipam.ExecCheck`: run the IPAM plugin's check. -/
  | ipamExecCheck (type stdinData : String)
  /-- `ipam.ConfigureIface`: put the addresses and routes on the interface. -/
  | configureIface (netns ifName : String) (result : Result)
  /-- `current.NewResultFromResult`: convert a result to the current version. -/
  | newResultFromResult (result : Result)
  /-- `version.ParsePrevResult`: parse the previous result of a check. -/
  | parsePrevResult (raw : String)
  /-- `cnitypes.PrintResult`: write the result. -/
  | printResult (result : Result) (cniVersion : String)
  /-- `time.Sleep`. -/
  | sleep (ms : Int)

/-- The answer to each call. -/
def Call.Resp : Call → Type
  | .loadArgs _ => Except String EnvArgs
  | .loadConf _ => Except String NetConf
  | .saveCache _ _ => Except String Unit
  | .loadConfFromCache _ => Except String CachedNetConf
  | .cleanCache _ => Except String Unit
  | .newOvsDriver _ => Except String Unit
  | .findBridgeByInterface _ => Except String String
  | .newOvsBridgeDriver _ _ => Except String Unit
  | .createPort .. => Except String Unit
  | .deletePort _ _ => Except String Unit
  | .getOvsPortForContIface _ _ _ => Except String (String × Bool)
  | .findInterfacesWithError _ => Except String (List String)
  | .getOFPortOpState _ _ => Except String String
  | .isBridgePresent _ _ => Except String Bool
  | .getOFPortVlanState _ _ => Except String VlanState
  | .getBridgeUplinkNameByDeviceID _ => Except String (List String)
  | .hasUserspaceDriver _ => Except String Bool
  | .getVFLinkName _ => Except String String
  | .setupSriovInterface .. => Except String (Interface × Interface)
  | .getNetRepresentor _ => Except String String
  | .resetVF .. => Except String Unit
  | .releaseVF .. => Except String Unit
  | .getNS _ => Except NsError Unit
  | .nsDo _ => Except String Unit
  | .setupVeth .. => Except String (Link × Link)
  | .linkByName _ _ => Except String Link
  | .linkSetUp _ _ => Except String Unit
  | .linkSetHardwareAddr .. => Except String Unit
  | .delLinkByName _ _ => Except DelLinkError Unit
  | .interfaceByName _ _ => Except String Unit
  | .gratuitousArp .. => Except String Unit
  | .validateExpectedInterfaceIPs .. => Except String Unit
  | .validateExpectedRoute .. => Except String Unit
  | .ipamExecAdd _ _ => Except String Result
  | .ipamExecDel _ _ => Except String Unit
  | .ipamExecCheck _ _ => Except String Unit
  | .configureIface .. => Except String Unit
  | .newResultFromResult _ => Except String Result
  | .parsePrevResult _ => Except String Result
  | .printResult .. => Except String Unit
  | .sleep _ => Unit

/-- A program of the plugin. -/
abbrev Plugin := Prog Call Call.Resp

/-- A call with its answer, as it happened in a run. -/
abbrev Event := Prog.Event Call Call.Resp

/-! ### One program per collaborator -/

def loadArgs (args : String) : Plugin (Except String EnvArgs) := .call (.loadArgs args) .ret
def loadConf (stdinData : String) : Plugin (Except String NetConf) := .call (.loadConf stdinData) .ret
def saveCache (cRef : String) (cache : CachedNetConf) : Plugin (Except String Unit) :=
  .call (.saveCache cRef cache) .ret
def loadConfFromCache (cRef : String) : Plugin (Except String CachedNetConf) :=
  .call (.loadConfFromCache cRef) .ret
def cleanCache (cRef : String) : Plugin (Except String Unit) := .call (.cleanCache cRef) .ret
def newOvsDriver (socketFile : String) : Plugin (Except String Unit) :=
  .call (.newOvsDriver socketFile) .ret
def findBridgeByInterface (uplinkName : String) : Plugin (Except String String) :=
  .call (.findBridgeByInterface uplinkName) .ret
def newOvsBridgeDriver (bridgeName socketFile : String) : Plugin (Except String Unit) :=
  .call (.newOvsBridgeDriver bridgeName socketFile) .ret
def createPort (bridge intfName contNetnsPath contIfaceName ovnPortName : String)
    (ofportRequest vlanTag : Nat) (trunks : List Nat) (portType intfType contPodUid : String) :
    Plugin (Except String Unit) :=
  .call (.createPort bridge intfName contNetnsPath contIfaceName ovnPortName ofportRequest vlanTag
    trunks portType intfType contPodUid) .ret
def deletePort (bridge portName : String) : Plugin (Except String Unit) :=
  .call (.deletePort bridge portName) .ret
def getOvsPortForContIface (bridge contIface contNetnsPath : String) :
    Plugin (Except String (String × Bool)) :=
  .call (.getOvsPortForContIface bridge contIface contNetnsPath) .ret
def findInterfacesWithError (bridge : String) : Plugin (Except String (List String)) :=
  .call (.findInterfacesWithError bridge) .ret
def getOFPortOpState (bridge portName : String) : Plugin (Except String String) :=
  .call (.getOFPortOpState bridge portName) .ret
def isBridgePresent (bridge bridgeName : String) : Plugin (Except String Bool) :=
  .call (.isBridgePresent bridge bridgeName) .ret
def getOFPortVlanState (bridge portName : String) : Plugin (Except String VlanState) :=
  .call (.getOFPortVlanState bridge portName) .ret
def getBridgeUplinkNameByDeviceID (deviceID : String) : Plugin (Except String (List String)) :=
  .call (.getBridgeUplinkNameByDeviceID deviceID) .ret
def hasUserspaceDriver (deviceID : String) : Plugin (Except String Bool) :=
  .call (.hasUserspaceDriver deviceID) .ret
def getVFLinkName (deviceID : String) : Plugin (Except String String) :=
  .call (.getVFLinkName deviceID) .ret
def setupSriovInterface (contNetns containerID ifName mac : String) (mtu : Int)
    (deviceID : String) (userspaceMode : Bool) : Plugin (Except String (Interface × Interface)) :=
  .call (.setupSriovInterface contNetns containerID ifName mac mtu deviceID userspaceMode) .ret
def getNetRepresentor (deviceID : String) : Plugin (Except String String) :=
  .call (.getNetRepresentor deviceID) .ret
def resetVF (args : CmdArgs) (deviceID origIfName : String) : Plugin (Except String Unit) :=
  .call (.resetVF args deviceID origIfName) .ret
def releaseVF (args : CmdArgs) (origIfName : String) : Plugin (Except String Unit) :=
  .call (.releaseVF args origIfName) .ret
def getNS (path : String) : Plugin (Except NsError Unit) := .call (.getNS path) .ret
def nsDo (path : String) : Plugin (Except String Unit) := .call (.nsDo path) .ret
def setupVethPair (netns contIfaceName : String) (mtu : Int) (mac : String) :
    Plugin (Except String (Link × Link)) :=
  .call (.setupVeth netns contIfaceName mtu mac) .ret
def linkByName (netns name : String) : Plugin (Except String Link) :=
  .call (.linkByName netns name) .ret
def linkSetUp (netns name : String) : Plugin (Except String Unit) := .call (.linkSetUp netns name) .ret
def linkSetHardwareAddr (netns name : String) (mac : HardwareAddr) : Plugin (Except String Unit) :=
  .call (.linkSetHardwareAddr netns name mac) .ret
def delLinkByName (netns name : String) : Plugin (Except DelLinkError Unit) :=
  .call (.delLinkByName netns name) .ret
def interfaceByName (netns name : String) : Plugin (Except String Unit) :=
  .call (.interfaceByName netns name) .ret
def gratuitousArpOverIface (netns : String) (address : IP) (ifName : String) :
    Plugin (Except String Unit) :=
  .call (.gratuitousArp netns address ifName) .ret
def validateExpectedInterfaceIPs (netns ifName : String) (ips : List IPConfig) :
    Plugin (Except String Unit) :=
  .call (.validateExpectedInterfaceIPs netns ifName ips) .ret
def validateExpectedRoute (netns : String) (routes : List String) : Plugin (Except String Unit) :=
  .call (.validateExpectedRoute netns routes) .ret
def ipamExecAdd (type stdinData : String) : Plugin (Except String Result) :=
  .call (.ipamExecAdd type stdinData) .ret
def ipamExecDel (type stdinData : String) : Plugin (Except String Unit) :=
  .call (.ipamExecDel type stdinData) .ret
def ipamExecCheck (type stdinData : String) : Plugin (Except String Unit) :=
  .call (.ipamExecCheck type stdinData) .ret
def configureIface (netns ifName : String) (result : Result) : Plugin (Except String Unit) :=
  .call (.configureIface netns ifName result) .ret
def newResultFromResult (result : Result) : Plugin (Except String Result) :=
  .call (.newResultFromResult result) .ret
def parsePrevResult (raw : String) : Plugin (Except String Result) :=
  .call (.parsePrevResult raw) .ret
def printResult (result : Result) (cniVersion : String) : Plugin (Except String Unit) :=
  .call (.printResult result cniVersion) .ret
def sleep (ms : Int) : Plugin Unit := .call (.sleep ms) .ret

/-- The answer of a collaborator that fails, with an empty message; the default answer of the
concrete runs. -/
def Call.fail : (c : Call) → c.Resp
  | .getNS _ => .error (.other "")
  | .delLinkByName .. => .error (.other "")
  | .sleep _ => ()
  | .loadArgs _ | .loadConf _ | .saveCache .. | .loadConfFromCache _ | .cleanCache _
  | .newOvsDriver _ | .findBridgeByInterface _ | .newOvsBridgeDriver .. | .createPort ..
  | .deletePort .. | .getOvsPortForContIface .. | .findInterfacesWithError _ | .getOFPortOpState ..
  | .isBridgePresent .. | .getOFPortVlanState .. | .getBridgeUplinkNameByDeviceID _
  | .hasUserspaceDriver _ | .getVFLinkName _ | .setupSriovInterface .. | .getNetRepresentor _
  | .resetVF .. | .releaseVF .. | .nsDo _ | .setupVeth .. | .linkByName .. | .linkSetUp ..
  | .linkSetHardwareAddr .. | .interfaceByName .. | .gratuitousArp ..
  | .validateExpectedInterfaceIPs .. | .validateExpectedRoute .. | .ipamExecAdd .. | .ipamExecDel ..
  | .ipamExecCheck .. | .configureIface .. | .newResultFromResult _ | .parsePrevResult _
  | .printResult .. => .error ""

/-! ### The cache store -/

/-- The cache store: the record saved under each key, if any. -/
abbrev Store := String → Option CachedNetConf

/-- The store after a call: a successful `SaveCache` records the record under its key, a
successful `CleanCache` drops the key, and every other call leaves the store as it is. -/
def Store.apply (st : Store) : Event → Store
  | ⟨.saveCache key cache, r⟩ =>
    match (r : Except String Unit) with
    | .ok () => fun k => if k = key then some cache else st k
    | .error _ => st
  | ⟨.cleanCache key, r⟩ =>
    match (r : Except String Unit) with
    | .ok () => fun k => if k = key then none else st k
    | .error _ => st
  | _ => st

/-- The store after the calls of a run. -/
def Store.after (st : Store) (evs : List Event) : Store := evs.foldl Store.apply st

/-- Whether a call writes to the cache store. -/
def Call.writesCache : Call → Bool
  | .saveCache .. | .cleanCache _ => true
  | _ => false

/-- Whether a call reads a record of the cache store. -/
def Call.readsCache : Call → Bool
  | .loadConfFromCache _ => true
  | _ => false

/-- The bridge a call creates a port on, if it creates one. -/
def Call.portBridge : Call → Option String
  | .createPort bridge .. => some bridge
  | _ => none

/-- The bridge a call to the switch database works on, if it works on one. -/
def Call.bridge : Call → Option String
  | .newOvsBridgeDriver bridge _ | .createPort bridge .. | .deletePort bridge _
  | .getOvsPortForContIface bridge .. | .findInterfacesWithError bridge | .getOFPortOpState bridge _
  | .isBridgePresent bridge _ | .getOFPortVlanState bridge _ => some bridge
  | _ => none

/-- Whether a call is one that, in `CmdAdd`, only the IPAM block makes: the IPAM plugin's add,
the setting of a MAC, and the printing of the result. -/
def Call.ofIpamBlock : Call → Bool
  | .ipamExecAdd .. | .linkSetHardwareAddr .. | .printResult .. => true
  | _ => false

/-- Whether a call writes the result. -/
def Call.printsResult : Call → Bool
  | .printResult .. => true
  | _ => false

/-- Whether a call is one of the compensations `CmdAdd` defers: the delete of the IPAM plugin,
or the lookup of a port by its container interface. -/
def Call.compensates : Call → Bool
  | .ipamExecDel .. | .getOvsPortForContIface .. => true
  | _ => false

/-- Whether a call asks where an uplink is – what `getBridgeName` asks of the SR-IOV state and
the switch database. -/
def Call.resolvesBridge : Call → Bool
  | .getBridgeUplinkNameByDeviceID _ | .findBridgeByInterface _ => true
  | _ => false

/-- Whether a call removes a port from a bridge or a link from a namespace. -/
def Call.removes : Call → Bool
  | .deletePort .. | .delLinkByName .. => true
  | _ => false

/-- Whether a call only asks: it parses the arguments, the configuration or a result, reads a
cache record, asks the switch database, the SR-IOV state or the kernel what is there, enters a
namespace, asks the IPAM plugin to check, or waits. The other calls save or drop a record,
create or delete a port, a link or an address, move or reset a virtual function, announce an
address, or write the result. -/
def Call.isQuery : Call → Bool
  | .loadArgs _ | .loadConf _ | .loadConfFromCache _ | .newOvsDriver _ | .findBridgeByInterface _
  | .newOvsBridgeDriver .. | .getOvsPortForContIface .. | .findInterfacesWithError _
  | .getOFPortOpState .. | .isBridgePresent .. | .getOFPortVlanState ..
  | .getBridgeUplinkNameByDeviceID _ | .hasUserspaceDriver _ | .getVFLinkName _
  | .getNetRepresentor _ | .getNS _ | .nsDo _ | .linkByName .. | .interfaceByName ..
  | .validateExpectedInterfaceIPs .. | .validateExpectedRoute .. | .ipamExecCheck ..
  | .newResultFromResult _ | .parsePrevResult _ | .sleep _ => true
  | _ => false

theorem Call.writesCache_of_isQuery {c : Call} (h : c.isQuery = true) : c.writesCache = false := by
  cases c <;> first | rfl | cases h

theorem Call.removes_of_isQuery {c : Call} (h : c.isQuery = true) : c.removes = false := by
  cases c <;> first | rfl | cases h

theorem Store.apply_of_writesCache {st : Store} {ev : Event} (h : ev.1.writesCache = false) :
    st.apply ev = st := by
  obtain ⟨c, r⟩ := ev
  cases c <;> first | rfl | simp [Call.writesCache] at h

@[simp] theorem Store.after_nil (st : Store) : st.after [] = st := rfl

@[simp] theorem Store.after_cons (st : Store) (ev : Event) (evs : List Event) :
    st.after (ev :: evs) = (st.apply ev).after evs := rfl

theorem Store.after_append (st : Store) (evs₁ evs₂ : List Event) :
    st.after (evs₁ ++ evs₂) = (st.after evs₁).after evs₂ :=
  List.foldl_append _ _ _ _

/-- **A run that writes nothing to the store leaves it as it is.** -/
theorem Store.after_of_forall {st : Store} {evs : List Event}
    (h : ∀ ev ∈ evs, ev.1.writesCache = false) : st.after evs = st := by
  induction evs generalizing st with
  | nil => rfl
  | cons ev evs ih =>
    simp only [List.mem_cons, forall_eq_or_imp] at h
    rw [Store.after_cons, Store.apply_of_writesCache h.1, ih h.2]

/-- **A run whose only writes drop the key `cRef` leaves every other key as it is.** -/
theorem Store.after_of_cleans {st : Store} {evs : List Event} {cRef key : String}
    (h : ∀ ev ∈ evs, ev.1.writesCache = true → ev.1 = .cleanCache cRef) (hk : key ≠ cRef) :
    st.after evs key = st key := by
  induction evs generalizing st with
  | nil => rfl
  | cons ev evs ih =>
    simp only [List.mem_cons, forall_eq_or_imp] at h
    rw [Store.after_cons, ih h.2]
    obtain ⟨c, r⟩ := ev
    cases hw : c.writesCache
    · rw [Store.apply_of_writesCache hw]
    · obtain rfl := h.1 hw
      rcases (r : Except String Unit) with _ | ⟨⟩ <;> simp [Store.apply, hk]

/-- A call that neither saves nor drops the record under `key` leaves it as it is. -/
theorem Store.apply_of_ne {st : Store} {ev : Event} {key : String}
    (hs : ∀ R, ev.1 ≠ .saveCache key R) (hc : ev.1 ≠ .cleanCache key) :
    st.apply ev key = st key := by
  obtain ⟨c, r⟩ := ev
  cases c with
  | saveCache k R =>
    rcases (r : Except String Unit) with _ | ⟨⟩
    · rfl
    · have hk : key ≠ k := fun h => hs R (by rw [h])
      simp [Store.apply, hk]
  | cleanCache k =>
    rcases (r : Except String Unit) with _ | ⟨⟩
    · rfl
    · have hk : key ≠ k := fun h => hc (by rw [h])
      simp [Store.apply, hk]
  | _ => rfl

/-- What a call leaves under `key` depends only on what was there. -/
theorem Store.apply_congr {st st' : Store} {key : String} (h : st key = st' key) (ev : Event) :
    st.apply ev key = st'.apply ev key := by
  obtain ⟨c, r⟩ := ev
  cases c with
  | saveCache k R =>
    rcases (r : Except String Unit) with _ | ⟨⟩
    · exact h
    · simp only [Store.apply]
      split_ifs
      exacts [rfl, h]
  | cleanCache k =>
    rcases (r : Except String Unit) with _ | ⟨⟩
    · exact h
    · simp only [Store.apply]
      split_ifs
      exacts [rfl, h]
  | _ => exact h

/-- **The record under a key depends only on the calls that write it**: dropping calls that
neither save nor drop the record under `key` leaves it as it is. -/
theorem Store.after_filter {α : Type} (f : α → Event) (p : α → Bool) {key : String}
    (l : List α)
    (hl : ∀ x ∈ l, p x = false → (∀ R, (f x).1 ≠ .saveCache key R) ∧ (f x).1 ≠ .cleanCache key)
    {st st' : Store} (hst : st key = st' key) :
    st.after ((l.filter p).map f) key = st'.after (l.map f) key := by
  induction l generalizing st st' with
  | nil => exact hst
  | cons x l ih =>
    simp only [List.forall_mem_cons] at hl
    cases hp : p x
    · simp only [List.filter_cons, hp, Bool.false_eq_true, if_false, List.map_cons,
        Store.after_cons]
      exact ih hl.2 (hst.trans (Store.apply_of_ne (hl.1 hp).1 (hl.1 hp).2).symm)
    · simp only [List.filter_cons, hp, if_true, List.map_cons, Store.after_cons]
      exact ih hl.2 (Store.apply_congr hst _)

/-- A record of the store after a call was there before, or the call saved it. -/
theorem Store.apply_eq_some {st : Store} {ev : Event} {key : String} {R : CachedNetConf}
    (h : st.apply ev key = some R) : st key = some R ∨ ev = ⟨.saveCache key R, .ok ()⟩ := by
  obtain ⟨c, r⟩ := ev
  cases c with
  | saveCache k R' =>
    rcases (r : Except String Unit) with _ | ⟨⟩
    · exact .inl h
    · by_cases hk : key = k
      · subst hk
        obtain rfl : R' = R := by simpa [Store.apply] using h
        exact .inr rfl
      · exact .inl (by simpa [Store.apply, hk] using h)
  | cleanCache k =>
    rcases (r : Except String Unit) with _ | ⟨⟩
    · exact .inl h
    · by_cases hk : key = k
      · simp [Store.apply, hk] at h
      · exact .inl (by simpa [Store.apply, hk] using h)
  | _ => exact .inl h

/-- **Where a record comes from**: a record of the store after `evs` was in the store before,
or a call of `evs` saved it under its key. -/
theorem Store.after_eq_some {st : Store} {evs : List Event} {key : String} {R : CachedNetConf}
    (h : st.after evs key = some R) : st key = some R ∨ ∃ r, ⟨.saveCache key R, r⟩ ∈ evs := by
  induction evs generalizing st with
  | nil => exact .inl h
  | cons ev evs ih =>
    rcases ih h with h₁ | ⟨r, hm⟩
    · rcases Store.apply_eq_some h₁ with h₂ | rfl
      · exact .inl h₂
      · exact .inr ⟨.ok (), List.mem_cons_self _ _⟩
    · exact .inr ⟨r, List.mem_cons_of_mem _ hm⟩

end OvsCni
