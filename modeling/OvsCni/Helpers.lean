import OvsCni.Calls
import OvsCni.Vlan

/-!
# The helpers of the handlers

The functions of the plugin that the three handlers share, each as a program over the
collaborator calls of `OvsCni.Calls`, under the source's name:

* `OvsCni.getEnvArgs` – parse the environment arguments when there are any, and
  `OvsCni.EnvArgs.fields` the three fields the handlers read of them;
* `OvsCni.getBridgeName` – the bridge of an attachment: the configured one, the integration
  bridge for an OVN port, or the bridge owning the first uplink of an SR-IOV device that the
  switch database resolves;
* `OvsCni.setupVeth` – the veth pair of the software path, with the host end's MAC read again
  after the move;
* `OvsCni.attachIfaceToBridge` – the port on the bridge, then the host link set up;
* `OvsCni.cleanPorts` – the sweep removing the ports whose interfaces report an error, failures
  to remove being only logged.

The resolution of the bridge is where detach and verify meet attach: a bridge name that is not
empty is taken as it is (`OvsCni.getBridgeName_of_ne_empty`), and a resolved one is never empty
as long as the switch database never names an empty bridge
(`OvsCni.getBridgeName_ne_empty`). Every run of the resolution is one of its four cases
(`OvsCni.runs_getBridgeName`): for a device, the uplinks are asked in order up to the first the
switch database resolves, and when none is resolved the error lists each one's error in order.
-/

namespace OvsCni

open Prog

/-- How the body of a handler ends: the value it returns, and the value its variable `err`
holds then, which the closures it deferred read. -/
structure Exit where
  /-- The value returned. -/
  ret : Except String Unit
  /-- The variable `err` of the handler. -/
  err : Except String Unit

/-- `getEnvArgs`: the environment arguments parsed, or none when the string is empty. -/
def getEnvArgs (envArgsString : String) : Plugin (Except String (Option EnvArgs)) :=
  if envArgsString ≠ "" then
    orReturn (loadArgs envArgsString) .error fun e => pure (.ok (some e))
  else pure (.ok none)

/-- The fields of the environment arguments the handlers read: `MAC`, `OvnPort` and
`K8S_POD_UID`, all empty when there are none. -/
def EnvArgs.fields : Option EnvArgs → String × String × String
  | some e => (e.mac, e.ovnPort, e.k8sPodUid)
  | none => ("", "", "")

/-! ### The bridge -/

/-- The error the loop of `getBridgeName` keeps for an uplink the switch database did not
resolve. -/
def uplinkError (uplinkName err : String) : String :=
  "failed to get bridge name - failed to find bridge " ++ "name by uplink name " ++ uplinkName ++
    ": " ++ err

/-- The loop of `getBridgeName` over the candidate uplinks: the bridge of the first uplink the
switch database resolves, or the errors of all of them. -/
def findBridgeByUplinks : List String → List String → Plugin (Except (List String) String)
  | [], errList => pure (.error errList)
  | uplinkName :: rest, errList => do
    match ← findBridgeByInterface uplinkName with
    | .error err => findBridgeByUplinks rest (errList ++ [uplinkError uplinkName err])
    | .ok bridgeName => pure (.ok bridgeName)

/-- `getBridgeName`: the bridge an attachment belongs to. -/
def getBridgeName (bridgeName ovnPort deviceID : String) : Plugin (Except String String) :=
  if bridgeName ≠ "" then pure (.ok bridgeName)
  else if bridgeName = "" ∧ ovnPort ≠ "" then pure (.ok "br-int")
  else if deviceID ≠ "" then
    orReturn (getBridgeUplinkNameByDeviceID deviceID)
      (fun err => .error ("failed to get bridge name - failed to resolve uplink name: " ++ err))
      fun possibleUplinkNames =>
      orReturn (findBridgeByUplinks possibleUplinkNames [])
        (fun errList => .error ("failed to find bridge by uplink names " ++
          goList possibleUplinkNames ++ ": " ++ goList errList))
        fun bridgeName => pure (.ok bridgeName)
  else pure (.error "failed to get bridge name")

/-! ### Links and ports -/

/-- `setInterfaceUp`: look the link up in the namespace and set it up. -/
def setInterfaceUp (netns name : String) : Plugin (Except String Unit) :=
  orReturn (linkByName netns name) .error fun _ => linkSetUp netns name

/-- `getHardwareAddr`: the MAC of a host link, as text; empty when the link is not found. -/
def getHardwareAddr (ifName : String) : Plugin String := do
  match ← linkByName "" ifName with
  | .error _ => pure ""
  | .ok link => pure link.mac

/-- `setupVeth`: inside the container's namespace, a veth pair with the host end moved out and
the container end set up; then the host end's MAC read again (`refetchIface`). -/
def setupVeth (contNetns contIfaceName requestedMac : String) (mtu : Int) :
    Plugin (Except String (Interface × Interface)) :=
  orReturn (nsDo contNetns) .error fun _ =>
  orReturn (setupVethPair contNetns contIfaceName mtu requestedMac) .error fun (hostVeth, containerVeth) =>
  orReturn (setInterfaceUp contNetns contIfaceName) .error fun _ => do
  let mac ← getHardwareAddr hostVeth.name
  pure (.ok (⟨hostVeth.name, mac, ""⟩, ⟨containerVeth.name, containerVeth.mac, contNetns⟩))

/-- `assignMacToLink`: set the MAC of a link. -/
def assignMacToLink (netns name : String) (mac : HardwareAddr) : Plugin (Except String Unit) :=
  orReturn (linkSetHardwareAddr netns name mac)
    (fun err => .error ("failed to set container iface " ++ quote name ++ " MAC " ++
      quote mac.string ++ ": " ++ err))
    fun _ => pure (.ok ())

/-- `attachIfaceToBridge`: the port of the host interface on the bridge, then the host link
looked up and set up. -/
def attachIfaceToBridge (bridge hostIfaceName contIfaceName : String) (ofportRequest vlanTag : Nat)
    (trunks : List Nat) (portType intfType contNetnsPath ovnPortName contPodUid : String) :
    Plugin (Except String Unit) :=
  orReturn (createPort bridge hostIfaceName contNetnsPath contIfaceName ovnPortName ofportRequest
    vlanTag trunks portType intfType contPodUid) .error fun _ =>
  orReturn (linkByName "" hostIfaceName) .error fun _ =>
  linkSetUp "" hostIfaceName

/-- `removeOvsPort`. -/
def removeOvsPort (bridge portName : String) : Plugin (Except String Unit) :=
  deletePort bridge portName

/-- The loop of `cleanPorts`: remove the port of each interface in turn, a failure being only
logged. -/
def deletePorts (bridge : String) : List String → Plugin Unit
  | [] => pure ()
  | iface :: ifaces => do
    let _ ← deletePort bridge iface
    deletePorts bridge ifaces

/-- `cleanPorts`: remove every port whose interface reports an error. -/
def cleanPorts (bridge : String) : Plugin (Except String Unit) :=
  orReturn (findInterfacesWithError bridge) (fun err => .error ("clean ports: " ++ err))
    fun ifaces => do
    deletePorts bridge ifaces
    pure (.ok ())

/-! ### The environment arguments, parsed -/

/-- **The runs of a successful parse** of the environment arguments: none, with no call, for an
empty string; otherwise what `types.LoadArgs` answered. -/
theorem runs_getEnvArgs_ok {envArgsString : String} {evs : List Event} {env : Option EnvArgs}
    (h : Runs (getEnvArgs envArgsString) evs (.ok env)) :
    (envArgsString = "" ∧ env = none ∧ evs = []) ∨
      envArgsString ≠ "" ∧ ∃ e, env = some e ∧ evs = [⟨.loadArgs envArgsString, .ok e⟩] := by
  unfold getEnvArgs at h
  split at h
  · obtain ⟨_, e, _, h₁, h₂, rfl⟩ := runs_orReturn_ok h
    rw [loadArgs, runs_call_ret] at h₁
    obtain ⟨rfl, ⟨⟩⟩ := runs_ret.mp h₂
    exact .inr ⟨‹_›, e, rfl, by simp [h₁]⟩
  · obtain ⟨rfl, ⟨⟩⟩ := runs_ret.mp h
    exact .inl ⟨not_not.mp ‹_›, rfl, rfl⟩

/-- A failed parse of the environment arguments is a failure of `types.LoadArgs`. -/
theorem runs_getEnvArgs_error {envArgsString e : String} {evs : List Event}
    (h : Runs (getEnvArgs envArgsString) evs (.error e)) :
    ⟨.loadArgs envArgsString, .error e⟩ ∈ evs := by
  unfold getEnvArgs at h
  split at h
  · rcases runs_orReturn.mp h with ⟨e', h₁, he⟩ | ⟨_, _, _, -, h₂, -⟩
    · cases he
      rw [loadArgs, runs_call_ret] at h₁
      simp [h₁]
    · cases (runs_ret.mp h₂).2
  · cases (runs_ret.mp h).2

/-! ### The bridge, resolved -/

theorem getBridgeName_of_ne_empty {bridgeName : String} (h : bridgeName ≠ "")
    (ovnPort deviceID : String) :
    getBridgeName bridgeName ovnPort deviceID = pure (.ok bridgeName) := by
  simp [getBridgeName, h]

theorem findBridgeByUplinks_ne_empty {uplinks errList : List String} {evs : List Event}
    {b : String} (h : Runs (findBridgeByUplinks uplinks errList) evs (.ok b))
    (hne : ∀ u, ⟨.findBridgeByInterface u, .ok ""⟩ ∉ evs) : b ≠ "" := by
  induction uplinks generalizing errList evs with
  | nil => simp [findBridgeByUplinks] at h
  | cons u rest ih =>
    simp only [findBridgeByUplinks, findBridgeByInterface, Prog.call_bind, Prog.ret_bind,
      runs_call] at h
    obtain ⟨r, evs', rfl, hk⟩ := h
    rcases r with err | b'
    · exact ih hk fun u' hu => hne u' (List.mem_cons_of_mem _ hu)
    · obtain ⟨-, hb⟩ := runs_ret.mp hk
      cases hb
      rintro rfl
      exact hne u (List.mem_cons_self _ _)

/-- **The runs of the uplink loop**: the uplinks are asked in order, every one but the last
asked failing with the error recorded in `fails`; the loop stops at the first uplink resolved,
with its bridge, or asks them all and returns the errors it was given followed by one per
uplink, in order. -/
theorem runs_findBridgeByUplinks {uplinks errList : List String} {evs : List Event}
    {res : Except (List String) String} (h : Runs (findBridgeByUplinks uplinks errList) evs res) :
    ∃ fails : List (String × String),
      (∃ u b rest, uplinks = fails.map Prod.fst ++ u :: rest ∧
        evs = fails.map (fun f => ⟨.findBridgeByInterface f.1, .error f.2⟩) ++
          [⟨.findBridgeByInterface u, .ok b⟩] ∧ res = .ok b) ∨
      (uplinks = fails.map Prod.fst ∧
        evs = fails.map (fun f => ⟨.findBridgeByInterface f.1, .error f.2⟩) ∧
        res = .error (errList ++ fails.map fun f => uplinkError f.1 f.2)) := by
  induction uplinks generalizing errList evs with
  | nil =>
    obtain ⟨rfl, rfl⟩ := runs_ret.mp h
    exact ⟨[], .inr ⟨rfl, rfl, by simp⟩⟩
  | cons u rest ih =>
    simp only [findBridgeByUplinks, findBridgeByInterface, call_bind, ret_bind, runs_call] at h
    obtain ⟨r, evs', rfl, hk⟩ := h
    rcases r with err | b
    · obtain ⟨fails, ⟨u', b, post, rfl, rfl, rfl⟩ | ⟨rfl, rfl, rfl⟩⟩ := ih hk
      · exact ⟨(u, err) :: fails, .inl ⟨u', b, post, rfl, rfl, rfl⟩⟩
      · exact ⟨(u, err) :: fails, .inr ⟨rfl, rfl, by simp [uplinkError]⟩⟩
    · obtain ⟨rfl, rfl⟩ := runs_ret.mp hk
      exact ⟨[], .inl ⟨u, b, rest, rfl, rfl, rfl⟩⟩

/-- **A resolved bridge is never empty**, as long as the switch database names no empty
bridge for an uplink. -/
theorem getBridgeName_ne_empty {bridgeName ovnPort deviceID b : String} {evs : List Event}
    (h : Runs (getBridgeName bridgeName ovnPort deviceID) evs (.ok b))
    (hne : ∀ u, ⟨.findBridgeByInterface u, .ok ""⟩ ∉ evs) : b ≠ "" := by
  unfold getBridgeName at h
  split_ifs at h with h1 h2 h3
  · obtain ⟨-, hb⟩ := runs_ret.mp h; cases hb; exact h1
  · obtain ⟨-, hb⟩ := runs_ret.mp h; cases hb; simp
  · rcases runs_orReturn.mp h with ⟨e, -, hb⟩ | ⟨evs₁, ups, evs₂, -, hk, rfl⟩
    · cases hb
    · rcases runs_orReturn.mp hk with ⟨e, -, hb⟩ | ⟨evs₃, b', evs₄, hf, hr, rfl⟩
      · cases hb
      · obtain ⟨-, hb⟩ := runs_ret.mp hr
        cases hb
        exact findBridgeByUplinks_ne_empty hf fun u hu => hne u (by simp [hu])
  · simp at h

/-- **How a bridge is resolved**, in every run and whatever the switch database answers: a
configured bridge is taken as it is, and an OVN port gets the integration bridge, with no call;
failing both, a device's uplinks are asked for and then asked in order, each one's error kept,
until the first whose bridge is found, none after it being asked; when none is found the error
names every uplink and lists their errors in order; with no device, resolution fails. -/
theorem runs_getBridgeName {bridgeName ovnPort deviceID : String} {evs : List Event}
    {res : Except String String} (h : Runs (getBridgeName bridgeName ovnPort deviceID) evs res) :
    (bridgeName ≠ "" ∧ evs = [] ∧ res = .ok bridgeName) ∨
    (bridgeName = "" ∧ ovnPort ≠ "" ∧ evs = [] ∧ res = .ok "br-int") ∨
    (bridgeName = "" ∧ ovnPort = "" ∧ deviceID ≠ "" ∧
      ((∃ e, evs = [⟨.getBridgeUplinkNameByDeviceID deviceID, .error e⟩] ∧
          res = .error ("failed to get bridge name - failed to resolve uplink name: " ++ e)) ∨
        ∃ (uplinks : List String) (fails : List (String × String)),
          (∃ u b rest, uplinks = fails.map Prod.fst ++ u :: rest ∧
            evs = ⟨.getBridgeUplinkNameByDeviceID deviceID, .ok uplinks⟩ ::
              fails.map (fun f => ⟨.findBridgeByInterface f.1, .error f.2⟩) ++
                [⟨.findBridgeByInterface u, .ok b⟩] ∧ res = .ok b) ∨
          (uplinks = fails.map Prod.fst ∧
            evs = ⟨.getBridgeUplinkNameByDeviceID deviceID, .ok uplinks⟩ ::
              fails.map (fun f => ⟨.findBridgeByInterface f.1, .error f.2⟩) ∧
            res = .error ("failed to find bridge by uplink names " ++ goList uplinks ++ ": " ++
              goList (fails.map fun f => uplinkError f.1 f.2))))) ∨
    (bridgeName = "" ∧ ovnPort = "" ∧ deviceID = "" ∧ evs = [] ∧
      res = .error "failed to get bridge name") := by
  unfold getBridgeName at h
  split_ifs at h with h1 h2 h3
  · obtain ⟨rfl, rfl⟩ := runs_ret.mp h
    exact .inl ⟨h1, rfl, rfl⟩
  · obtain ⟨rfl, rfl⟩ := runs_ret.mp h
    exact .inr (.inl ⟨h2.1, h2.2, rfl, rfl⟩)
  all_goals have hb : bridgeName = "" := not_not.mp h1
  all_goals have ho : ovnPort = "" := by simpa [hb] using h2
  · refine .inr (.inr (.inl ⟨hb, ho, h3, ?_⟩))
    rcases runs_orReturn.mp h with ⟨e, h₁, rfl⟩ | ⟨evs₁, uplinks, evs₂, h₁, h₂, rfl⟩
    · exact .inl ⟨e, runs_call_ret.mp h₁, rfl⟩
    rw [runs_call_ret.mp h₁]
    refine .inr ⟨uplinks, ?_⟩
    rcases runs_orReturn.mp h₂ with ⟨errs, h₃, rfl⟩ | ⟨evs₃, b, evs₄, h₃, h₄, rfl⟩
    · obtain ⟨fails, ⟨_, _, _, -, -, ⟨⟩⟩ | ⟨hu, rfl, ⟨⟩⟩⟩ := runs_findBridgeByUplinks h₃
      exact ⟨fails, .inr ⟨hu, rfl, by simp⟩⟩
    · obtain ⟨rfl, rfl⟩ := runs_ret.mp h₄
      obtain ⟨fails, ⟨u, _, rest, hu, rfl, ⟨⟩⟩ | ⟨-, -, ⟨⟩⟩⟩ := runs_findBridgeByUplinks h₃
      exact ⟨fails, .inl ⟨u, b, rest, hu, by simp, rfl⟩⟩
  · obtain ⟨rfl, rfl⟩ := runs_ret.mp h
    exact .inr (.inr (.inr ⟨hb, ho, not_not.mp h3, rfl, rfl⟩))

/-- The calls of a resolution for a device with two uplinks, the first of which the switch
database does not know. -/
def secondUplinkRun : List Event :=
  [⟨.getBridgeUplinkNameByDeviceID "0000:03:00.1", .ok ["p0", "p1"]⟩,
   ⟨.findBridgeByInterface "p0", .error "no bridge"⟩, ⟨.findBridgeByInterface "p1", .ok "br-sriov"⟩]

theorem runs_getBridgeName_secondUplink :
    Runs (getBridgeName "" "" "0000:03:00.1") secondUplinkRun (.ok "br-sriov") ∧
    ((("" : String) ≠ "" ∧ secondUplinkRun = [] ∧ (.ok "br-sriov" : Except String String) = .ok "") ∨
    (("" : String) = "" ∧ ("" : String) ≠ "" ∧ secondUplinkRun = [] ∧
      (.ok "br-sriov" : Except String String) = .ok "br-int") ∨
    (("" : String) = "" ∧ ("" : String) = "" ∧ "0000:03:00.1" ≠ "" ∧
      ((∃ e, secondUplinkRun = [⟨.getBridgeUplinkNameByDeviceID "0000:03:00.1", .error e⟩] ∧
          (.ok "br-sriov" : Except String String) =
            .error ("failed to get bridge name - failed to resolve uplink name: " ++ e)) ∨
        ∃ (uplinks : List String) (fails : List (String × String)),
          (∃ u b rest, uplinks = fails.map Prod.fst ++ u :: rest ∧
            secondUplinkRun = ⟨.getBridgeUplinkNameByDeviceID "0000:03:00.1", .ok uplinks⟩ ::
              fails.map (fun f => ⟨.findBridgeByInterface f.1, .error f.2⟩) ++
                [⟨.findBridgeByInterface u, .ok b⟩] ∧ (.ok "br-sriov" : Except String String) = .ok b) ∨
          (uplinks = fails.map Prod.fst ∧
            secondUplinkRun = ⟨.getBridgeUplinkNameByDeviceID "0000:03:00.1", .ok uplinks⟩ ::
              fails.map (fun f => ⟨.findBridgeByInterface f.1, .error f.2⟩) ∧
            (.ok "br-sriov" : Except String String) = .error ("failed to find bridge by uplink names " ++
              goList uplinks ++ ": " ++ goList (fails.map fun f => uplinkError f.1 f.2))))) ∨
    (("" : String) = "" ∧ ("" : String) = "" ∧ "0000:03:00.1" = "" ∧ secondUplinkRun = [] ∧
      (.ok "br-sriov" : Except String String) = .error "failed to get bridge name")) :=
  have h : Runs (getBridgeName "" "" "0000:03:00.1") secondUplinkRun (.ok "br-sriov") :=
    by unfold secondUplinkRun; exact .call _ (.call _ (.call _ (.ret _)))
  ⟨h, runs_getBridgeName h⟩
/-! ### The port, attached -/

/-- **The runs of `attachIfaceToBridge`**: the port is created, then the host link looked up,
then set up, and the first of the three that fails is the last call. -/
theorem runs_attachIfaceToBridge {bridge hostIfaceName contIfaceName : String}
    {ofportRequest vlanTag : Nat} {trunks : List Nat}
    {portType intfType contNetnsPath ovnPortName contPodUid : String} {evs : List Event}
    {r : Except String Unit}
    (h : Runs (attachIfaceToBridge bridge hostIfaceName contIfaceName ofportRequest vlanTag trunks
      portType intfType contNetnsPath ovnPortName contPodUid) evs r) :
    let c := Call.createPort bridge hostIfaceName contNetnsPath contIfaceName ovnPortName
      ofportRequest vlanTag trunks portType intfType contPodUid
    (∃ e, evs = [⟨c, .error e⟩] ∧ r = .error e) ∨
      (∃ e, evs = [⟨c, .ok ()⟩, ⟨.linkByName "" hostIfaceName, .error e⟩] ∧ r = .error e) ∨
      ∃ l, evs = [⟨c, .ok ()⟩, ⟨.linkByName "" hostIfaceName, .ok l⟩,
        ⟨.linkSetUp "" hostIfaceName, r⟩] := by
  simp only [attachIfaceToBridge, orReturn, createPort, linkByName, linkSetUp, call_bind, ret_bind,
    runs_call] at h
  obtain ⟨r₁, evs₁, rfl, h₁⟩ := h
  rcases r₁ with e | ⟨⟩
  · obtain ⟨rfl, rfl⟩ := runs_ret.mp h₁
    exact .inl ⟨e, rfl, rfl⟩
  obtain ⟨r₂, evs₂, rfl, h₂⟩ := runs_call.mp h₁
  rcases r₂ with e | l
  · obtain ⟨rfl, rfl⟩ := runs_ret.mp h₂
    exact .inr (.inl ⟨e, rfl, rfl⟩)
  obtain ⟨r₃, evs₃, rfl, h₃⟩ := runs_call.mp h₂
  obtain ⟨rfl, rfl⟩ := runs_ret.mp h₃
  exact .inr (.inr ⟨l, rfl⟩)

/-! ### The sweep -/

/-- The loop of the sweep removes the port of each interface, in the order given, whatever the
removals answer. -/
theorem runs_deletePorts {bridge : String} {ifaces : List String} {evs : List Event}
    (h : Runs (deletePorts bridge ifaces) evs ()) :
    evs.map Sigma.fst = ifaces.map (Call.deletePort bridge) := by
  induction ifaces generalizing evs with
  | nil => rw [(runs_ret.mp h).1]; rfl
  | cons iface ifaces ih =>
    simp only [deletePorts, deletePort, call_bind, ret_bind, runs_call] at h
    obtain ⟨_, evs', rfl, h'⟩ := h
    rw [List.map_cons, ih h', List.map_cons]

/-- **The runs of the sweep**: the switch lists the interfaces in error and the port of each is
removed in turn, the sweep returning nil whatever the removals answer; or the listing fails, and
its error is what the sweep returns. -/
theorem runs_cleanPorts {bridge : String} {evs : List Event} {r : Except String Unit}
    (h : Runs (cleanPorts bridge) evs r) :
    (∃ e, evs = [⟨.findInterfacesWithError bridge, .error e⟩] ∧ r = .error ("clean ports: " ++ e)) ∨
      ∃ ifaces dels, evs = ⟨.findInterfacesWithError bridge, .ok ifaces⟩ :: dels ∧
        dels.map Sigma.fst = ifaces.map (Call.deletePort bridge) ∧ r = .ok () := by
  rcases runs_orReturn.mp h with ⟨e, h₁, rfl⟩ | ⟨evs₁, ifaces, evs₂, h₁, h₂, rfl⟩ <;>
    rw [findInterfacesWithError, runs_call_ret] at h₁ <;> subst h₁
  · exact .inl ⟨e, rfl, rfl⟩
  · obtain ⟨dels, _, evs₃, hd, h₃, rfl⟩ := runs_bind.mp h₂
    obtain ⟨rfl, rfl⟩ := runs_ret.mp h₃
    exact .inr ⟨ifaces, dels, by simp, runs_deletePorts hd, rfl⟩

/-! ### The calls of the helpers

Each helper makes only the calls listed in its lemma: a property of every one of them holds of
every call the helper makes, whatever the answers. -/

section Calls

variable {P : Call → Prop}

theorem getEnvArgs_callsOnly {envArgsString : String} (h : P (.loadArgs envArgsString)) :
    (getEnvArgs envArgsString).CallsOnly P := by
  unfold getEnvArgs
  split
  · exact CallsOnly.orReturn ⟨h, fun _ => trivial⟩ fun _ => trivial
  · trivial

theorem findBridgeByUplinks_callsOnly (h : ∀ u, P (.findBridgeByInterface u))
    (uplinks errList : List String) : (findBridgeByUplinks uplinks errList).CallsOnly P := by
  induction uplinks generalizing errList with
  | nil => trivial
  | cons u rest ih => exact ⟨h u, fun r => by cases r <;> first | exact ih _ | trivial⟩

theorem getBridgeName_callsOnly (h₁ : ∀ d, P (.getBridgeUplinkNameByDeviceID d))
    (h₂ : ∀ u, P (.findBridgeByInterface u)) (bridgeName ovnPort deviceID : String) :
    (getBridgeName bridgeName ovnPort deviceID).CallsOnly P := by
  unfold getBridgeName
  split_ifs
  · trivial
  · trivial
  · exact CallsOnly.orReturn ⟨h₁ _, fun _ => trivial⟩ fun _ =>
      CallsOnly.orReturn (findBridgeByUplinks_callsOnly h₂ _ _) fun _ => trivial
  · trivial

theorem cleanPorts_callsOnly {bridge : String} (h₁ : P (.findInterfacesWithError bridge))
    (h₂ : ∀ p, P (.deletePort bridge p)) : (cleanPorts bridge).CallsOnly P := by
  have hdel : ∀ ifaces, (deletePorts bridge ifaces).CallsOnly P := by
    intro ifaces
    induction ifaces with
    | nil => trivial
    | cons iface ifaces ih => exact ⟨h₂ iface, fun _ => ih⟩
  exact CallsOnly.orReturn ⟨h₁, fun _ => trivial⟩ fun ifaces => (hdel ifaces).bind fun _ => trivial

theorem setupVeth_callsOnly {contNetns contIfaceName requestedMac : String} {mtu : Int}
    (h₁ : P (.nsDo contNetns)) (h₂ : P (.setupVeth contNetns contIfaceName mtu requestedMac))
    (h₃ : ∀ netns name, P (.linkByName netns name)) (h₄ : P (.linkSetUp contNetns contIfaceName)) :
    (setupVeth contNetns contIfaceName requestedMac mtu).CallsOnly P :=
  CallsOnly.orReturn ⟨h₁, fun _ => trivial⟩ fun _ =>
  CallsOnly.orReturn ⟨h₂, fun _ => trivial⟩ fun _ =>
  CallsOnly.orReturn (CallsOnly.orReturn ⟨h₃ _ _, fun _ => trivial⟩ fun _ => ⟨h₄, fun _ => trivial⟩)
    fun _ => CallsOnly.bind ⟨h₃ _ _, fun r => by cases r <;> trivial⟩ fun _ => trivial

theorem attachIfaceToBridge_callsOnly {bridge hostIfaceName contIfaceName : String}
    {ofportRequest vlanTag : Nat} {trunks : List Nat}
    {portType intfType contNetnsPath ovnPortName contPodUid : String}
    (h₁ : P (.createPort bridge hostIfaceName contNetnsPath contIfaceName ovnPortName ofportRequest
      vlanTag trunks portType intfType contPodUid))
    (h₂ : P (.linkByName "" hostIfaceName)) (h₃ : P (.linkSetUp "" hostIfaceName)) :
    (attachIfaceToBridge bridge hostIfaceName contIfaceName ofportRequest vlanTag trunks portType
      intfType contNetnsPath ovnPortName contPodUid).CallsOnly P :=
  CallsOnly.orReturn ⟨h₁, fun _ => trivial⟩ fun _ =>
  CallsOnly.orReturn ⟨h₂, fun _ => trivial⟩ fun _ => ⟨h₃, fun _ => trivial⟩

end Calls

end OvsCni
