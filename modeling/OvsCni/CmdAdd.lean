import OvsCni.Helpers
import OvsCni.WaitLinkUp

/-!
# Attach: `CmdAdd`

`CmdAdd` runs in three parts, and the model keeps them apart because each ends in its own way.

* `OvsCni.addSetup` (lines 257–360) reads the arguments and the configuration, resolves the
  bridge, sweeps the ports in error, saves the cache record and makes the pair of interfaces;
  any failure returns at once, nothing being deferred yet.
* `OvsCni.attachIfaceToBridge` puts the host interface on the bridge and sets its link up.
* `OvsCni.addIpam` (lines 382–478) runs the IPAM plugin, waits for the port, configures the
  container and prints the result. It ends with an `OvsCni.Exit`: the value `CmdAdd` returns
  and the value of its variable `err`, which the two deferred closures read –
  `OvsCni.addRollback`, the IPAM rollback and then the port rollback, each only when `err` is not
  nil. Two of its exits return an error without setting `err`: an IPAM result with no address,
  and a failure to print the result.

Each part has here the lemma that describes its runs (`OvsCni.runs_addSetup_ok`,
`OvsCni.runs_addIpam`, `OvsCni.runs_addRollback`), and `OvsCni.runs_cmdAdd` assembles them.
What follows from them is in the next files: the compensation of a failed attach in
`OvsCni.AddRollback`, the container's MAC in `OvsCni.AddMac`, a killed attach in
`OvsCni.Recovery`.

The port `CmdAdd` creates carries, in every run complete or cut, the VLAN settings of the
configuration it loaded (`OvsCni.cmdAdd_port_vlan`): a trunk list makes a trunk port with the IDs
of `splitVlanIds`, a configured tag being dropped; a tag alone makes an access port with it; and
neither makes a trunk port with no IDs, without the trunk list being resolved.
-/

namespace OvsCni

open Prog

/-- What `CmdAdd` holds when the interfaces are made and the host one is about to be put on the
bridge. -/
structure AddSetup where
  /-- `MAC` of the environment arguments, empty when none was given. -/
  mac : String
  /-- `OvnPort` of the environment arguments. -/
  ovnPort : String
  /-- `K8S_POD_UID` of the environment arguments. -/
  contPodUid : String
  /-- The configuration, with the bridge as resolved. -/
  netconf : NetConf
  /-- The VLAN settings of the port. -/
  vlan : PortVlan
  /-- Whether the virtual function is driven from user space. -/
  userspaceMode : Bool
  /-- The host name of the virtual function. -/
  origIfName : String
  /-- The host end. -/
  hostIface : Interface
  /-- The container end. -/
  contIface : Interface

/-- The record `CmdAdd` saves in the cache. -/
def AddSetup.cache (s : AddSetup) : CachedNetConf := ⟨s.netconf, s.origIfName, s.userspaceMode⟩

section CmdAdd

variable (getCRef : String → String → String) (isOvsHardwareOffloadEnabled : String → Bool)

/-- Lines 257–360 of `CmdAdd`: from the environment arguments to the interfaces made, every
failure returning at once. -/
def addSetup (args : CmdArgs) : Plugin (Except String AddSetup) :=
  orReturn (getEnvArgs args.args) .error fun envArgs =>
  let (mac, ovnPort, contPodUid) := EnvArgs.fields envArgs
  orReturn (loadConf args.stdinData) .error fun netconf =>
  orReturn (pure (portVlan netconf.vlanTag netconf.trunk)) .error fun vlan =>
  orReturn (newOvsDriver netconf.socketFile) .error fun _ =>
  orReturn (getBridgeName netconf.brName ovnPort netconf.deviceID) .error fun bridgeName =>
  let netconf := { netconf with brName := bridgeName }
  orReturn (newOvsBridgeDriver bridgeName netconf.socketFile) .error fun _ =>
  orReturn (if isOvsHardwareOffloadEnabled netconf.deviceID then hasUserspaceDriver netconf.deviceID
    else pure (.ok false)) .error fun userspaceMode =>
  orReturn (cleanPorts bridgeName) .error fun _ =>
  orReturn (getNS args.netns)
    (fun err => .error ("failed to open netns " ++ quote args.netns ++ ": " ++ err.error)) fun _ =>
  orReturn (if isOvsHardwareOffloadEnabled netconf.deviceID && !userspaceMode then
      getVFLinkName netconf.deviceID
    else pure (.ok "")) .error fun origIfName =>
  orReturn (saveCache (getCRef args.containerID args.ifName) ⟨netconf, origIfName, userspaceMode⟩)
    (fun err => .error ("error saving NetConf " ++ quote err)) fun _ =>
  orReturn (if isOvsHardwareOffloadEnabled netconf.deviceID then
      setupSriovInterface args.netns args.containerID args.ifName mac netconf.mtu netconf.deviceID
        userspaceMode
    else setupVeth args.netns args.ifName mac netconf.mtu) .error fun (hostIface, contIface) =>
  pure (.ok ⟨mac, ovnPort, contPodUid, netconf, vlan, userspaceMode, origIfName, hostIface,
    contIface⟩)

/-! ### Inside the container -/

/-- The `if` block at lines 425–436: with no MAC asked for and no hardware offload, the MAC
derived from the first address is set on the container link and reported. -/
def assignContainerMac (netns ifName mac : String) (offload : Bool) (contIface : Interface)
    (ips : List IPConfig) : Plugin (Except String Interface) :=
  match mac == "" && !offload, ips with
  | true, ipc :: _ =>
    let containerMac := ipAddrToHWAddr ipc.address
    orReturn (linkByName netns ifName)
      (fun err => .error ("failed to lookup container interface " ++ quote ifName ++ ": " ++ err))
      fun _ =>
    orReturn (assignMacToLink netns ifName containerMac) .error fun _ =>
    pure (.ok { contIface with mac := containerMac.string })
  | _, _ => pure (.ok contIface)

/-- The loop sending a gratuitous ARP for every IPv4 address; a failure is only logged. -/
def sendGarps (netns ifName : String) : List IPConfig → Plugin Unit
  | [] => pure ()
  | ipc :: ips => do
    if ipc.address.to4.isSome then
      let _ ← gratuitousArpOverIface netns ipc.address ifName
    sendGarps netns ifName ips

/-- The closure `CmdAdd` runs in the container's namespace (lines 424–459): the MAC, the
addresses and routes, and the gratuitous ARPs; it gives the container interface as the result
reports it. -/
def configureContainer (netns ifName mac : String) (offload : Bool) (contIface : Interface)
    (newResult : Result) : Plugin (Except String Interface) :=
  orReturn (assignContainerMac netns ifName mac offload contIface newResult.ips) .error
    fun contIface =>
  orReturn (configureIface netns ifName { newResult with interfaces := [contIface] }) .error
    fun _ =>
  orReturn (interfaceByName netns ifName)
    (fun err => .error ("failed to look up " ++ quote ifName ++ ": " ++ err)) fun _ => do
  sendGarps netns ifName newResult.ips
  pure (.ok contIface)

/-- The loop at lines 465–475: every address gets the index of the last interface named
`ifName`. -/
def fixIpIndices (ifName : String) (result : Result) : Result :=
  result.interfaces.enum.foldl (fun r (ifIndex, ifCfg) =>
    if ifCfg.name = ifName then { r with ips := r.ips.map fun ipc => { ipc with interface := some ifIndex } }
    else r) result

/-- The re-indexing keeps the interfaces, and the addresses in their order; it changes only the
interface each address points at. -/
theorem fixIpIndices_interfaces_addresses (ifName : String) (result : Result) :
    (fixIpIndices ifName result).interfaces = result.interfaces ∧
      (fixIpIndices ifName result).ips.map IPConfig.address = result.ips.map IPConfig.address := by
  unfold fixIpIndices
  generalize result.interfaces.enum = L
  induction L generalizing result with
  | nil => exact ⟨rfl, rfl⟩
  | cons p L ih =>
    obtain ⟨h₁, h₂⟩ := ih (if p.2.name = ifName then { result with ips := result.ips.map fun ipc =>
      { ipc with interface := some p.1 } } else result)
    rw [List.foldl_cons, h₁, h₂]
    split <;> simp

/-- **The re-indexing of a host and a container interface**: with the container interface named
`ifName`, every address points at it, second in the list, whatever the host interface is
named. -/
theorem fixIpIndices_pair {ifName : String} {host c : Interface} (ips : List IPConfig)
    (routes : List String) (hc : c.name = ifName) :
    fixIpIndices ifName ⟨[host, c], ips, routes⟩ =
      ⟨[host, c], ips.map fun ipc => { ipc with interface := some 1 }, routes⟩ := by
  by_cases hh : host.name = ifName <;> simp [fixIpIndices, List.enum, hh, hc]

/-! ### The IPAM block and the rollbacks -/

/-- The message of an IPAM result with no address. -/
def missingIpMessage : String := "IPAM plugin returned missing IP config"

/-- Lines 382–478 of `CmdAdd`, once the host interface is on the bridge: how `CmdAdd` ends, and
whether it ran the IPAM plugin. An error is returned with `err` set to it, except at two exits:
an IPAM result with no address, and a failure to print the result. -/
def addIpam (args : CmdArgs) (s : AddSetup) : Plugin (Exit × Bool) :=
  if s.netconf.ipam.type ≠ "" ∧ s.userspaceMode = false then do
    match ← ipamExecAdd s.netconf.ipam.type args.stdinData with
    | .error err =>
      pure (⟨.error ("failed to set up IPAM plugin type " ++ quote s.netconf.ipam.type ++ ": " ++
        err), .error err⟩, true)
    | .ok r =>
    match ← newResultFromResult r with
    | .error err => pure (⟨.error err, .error err⟩, true)
    | .ok newResult =>
    if newResult.ips.length = 0 then pure (⟨.error missingIpMessage, .ok ()⟩, true) else
    let newResult := { newResult with
      interfaces := [s.contIface]
      ips := newResult.ips.map fun ipc => { ipc with interface := some 0 } }
    match ← waitLinkUp s.netconf.brName s.hostIface.name s.netconf.linkStateCheckRetries
        s.netconf.linkStateCheckInterval with
    | .error err => pure (⟨.error err, .error err⟩, true)
    | .ok () =>
    match ← orReturn (nsDo args.netns) .error fun _ =>
        configureContainer args.netns args.ifName s.mac
          (isOvsHardwareOffloadEnabled s.netconf.deviceID) s.contIface newResult with
    | .error err => pure (⟨.error err, .error err⟩, true)
    | .ok contIface => do
    let ret ← printResult (fixIpIndices args.ifName
      { newResult with interfaces := [s.hostIface, contIface] }) s.netconf.cniVersion
    pure (⟨ret, .ok ()⟩, true)
  else do
    let ret ← printResult ⟨[s.hostIface, s.contIface], [], []⟩ s.netconf.cniVersion
    pure (⟨ret, .ok ()⟩, false)

/-- The port rollback deferred by `CmdAdd` (lines 365–379), when `err` is not nil: the port
tagged with the container interface and namespace looked up, and removed when found; failures
are only logged. -/
def portRollback (bridge ifName netns : String) : Plugin Unit := do
  match ← getOvsPortForContIface bridge ifName netns with
  | .ok (portName, true) => do
    let _ ← removeOvsPort bridge portName
    pure ()
  | _ => pure ()

/-- The IPAM rollback deferred by `CmdAdd` (lines 388–394), when `err` is not nil: the IPAM
plugin's delete, a failure being only logged. -/
def ipamRollback (type stdinData : String) : Plugin Unit := do
  let _ ← ipamExecDel type stdinData
  pure ()

/-- The closures `CmdAdd` deferred, run when it returns, the last deferred first: the IPAM
rollback when the IPAM plugin was run, then the port rollback, each only when `err` is not
nil. -/
def addRollback (bridge ifName netns type stdinData : String) (ipamInvoked : Bool)
    (err : Except String Unit) : Plugin Unit :=
  match err with
  | .ok () => pure ()
  | .error _ => do
    (if ipamInvoked then ipamRollback type stdinData else pure ())
    portRollback bridge ifName netns

/-- The call of `attachIfaceToBridge` in `CmdAdd` (line 362). -/
def addAttach (args : CmdArgs) (s : AddSetup) : Plugin (Except String Unit) :=
  attachIfaceToBridge s.netconf.brName s.hostIface.name s.contIface.name s.netconf.ofportRequest
    s.vlan.vlanTagNum s.vlan.trunks s.vlan.portType s.netconf.interfaceType args.netns s.ovnPort
    s.contPodUid

/-- `CmdAdd`: attach the container to the network. -/
def cmdAdd (args : CmdArgs) : Plugin (Except String Unit) :=
  orReturn (addSetup getCRef isOvsHardwareOffloadEnabled args) .error fun s =>
  orReturn (addAttach args s) .error fun _ => do
  let (exit, ipamInvoked) ← addIpam isOvsHardwareOffloadEnabled args s
  addRollback s.netconf.brName args.ifName args.netns s.netconf.ipam.type args.stdinData ipamInvoked
    exit.err
  pure exit.ret

end CmdAdd

/-! ### The calls of each part -/

section Calls

variable {getCRef : String → String → String} {isOvsHardwareOffloadEnabled : String → Bool}

/-- The set-up creates no port, makes no compensation and none of the calls of the IPAM
block. -/
theorem addSetup_callsOnly (args : CmdArgs) :
    (addSetup getCRef isOvsHardwareOffloadEnabled args).CallsOnly
      fun c => c.portBridge = none ∧ c.compensates = false ∧ c.ofIpamBlock = false := by
  unfold addSetup
  refine .orReturn (getEnvArgs_callsOnly ⟨rfl, rfl, rfl⟩) fun _ => ?_
  split
  refine .orReturn ⟨⟨rfl, rfl, rfl⟩, fun _ => trivial⟩ fun _ => .orReturn trivial fun _ =>
    .orReturn ⟨⟨rfl, rfl, rfl⟩, fun _ => trivial⟩ fun _ =>
    .orReturn (getBridgeName_callsOnly (fun _ => ⟨rfl, rfl, rfl⟩) (fun _ => ⟨rfl, rfl, rfl⟩) _ _ _)
      fun _ =>
    .orReturn ⟨⟨rfl, rfl, rfl⟩, fun _ => trivial⟩ fun _ => .orReturn ?_ fun _ =>
    .orReturn (cleanPorts_callsOnly ⟨rfl, rfl, rfl⟩ fun _ => ⟨rfl, rfl, rfl⟩) fun _ =>
    .orReturn ⟨⟨rfl, rfl, rfl⟩, fun _ => trivial⟩ fun _ => .orReturn ?_ fun _ =>
    .orReturn ⟨⟨rfl, rfl, rfl⟩, fun _ => trivial⟩ fun _ => .orReturn ?_ fun ⟨_, _⟩ => trivial
  all_goals split
  all_goals first
    | trivial
    | exact ⟨⟨rfl, rfl, rfl⟩, fun _ => trivial⟩
    | exact setupVeth_callsOnly ⟨rfl, rfl, rfl⟩ ⟨rfl, rfl, rfl⟩ (fun _ _ => ⟨rfl, rfl, rfl⟩)
        ⟨rfl, rfl, rfl⟩

theorem sendGarps_callsOnly {P : Call → Prop} {netns ifName : String}
    (h : ∀ address, P (.gratuitousArp netns address ifName)) (ips : List IPConfig) :
    (sendGarps netns ifName ips).CallsOnly P := by
  induction ips with
  | nil => trivial
  | cons ipc ips ih =>
    rw [sendGarps]
    split
    · exact ⟨h _, fun _ => ih⟩
    · exact ih

/-- A call that creates no port, writes no cache record and is no compensation. -/
def Call.Quiet (c : Call) : Prop :=
  c.portBridge = none ∧ c.compensates = false ∧ c.writesCache = false

/-- The calls of the closure run in the container's namespace: the lookup and the MAC of the
container link, the configuration of its addresses, its lookup as a network interface, and the
announcements. -/
theorem configureContainer_calls {P : Call → Prop} {netns ifName mac : String} {offload : Bool}
    {contIface : Interface} {newResult : Result}
    (hl : P (.linkByName netns ifName)) (hs : ∀ m, P (.linkSetHardwareAddr netns ifName m))
    (hc : ∀ r, P (.configureIface netns ifName r)) (hi : P (.interfaceByName netns ifName))
    (hg : ∀ address, P (.gratuitousArp netns address ifName)) :
    (configureContainer netns ifName mac offload contIface newResult).CallsOnly P := by
  unfold configureContainer assignContainerMac assignMacToLink
  refine .orReturn ?_ fun _ => .orReturn ⟨hc _, fun _ => trivial⟩ fun _ =>
    .orReturn ⟨hi, fun _ => trivial⟩ fun _ => .bind (sendGarps_callsOnly hg _) fun _ => trivial
  split
  · exact .orReturn ⟨hl, fun _ => trivial⟩ fun _ =>
      .orReturn (.orReturn ⟨hs _, fun _ => trivial⟩ fun _ => trivial) fun _ => trivial
  · trivial

theorem configureContainer_callsOnly (netns ifName mac : String) (offload : Bool)
    (contIface : Interface) (newResult : Result) :
    (configureContainer netns ifName mac offload contIface newResult).CallsOnly Call.Quiet :=
  configureContainer_calls ⟨rfl, rfl, rfl⟩ (fun _ => ⟨rfl, rfl, rfl⟩) (fun _ => ⟨rfl, rfl, rfl⟩)
    ⟨rfl, rfl, rfl⟩ fun _ => ⟨rfl, rfl, rfl⟩

/-- The calls of the IPAM block: the IPAM plugin's add, the conversion of its result, the polls
of the port's state and the waits between them, the entry into the container's namespace, the
calls of the closure run there, and the printing of the result. -/
theorem addIpam_calls {P : Call → Prop} {args : CmdArgs} {s : AddSetup}
    (ha : P (.ipamExecAdd s.netconf.ipam.type args.stdinData))
    (hr : ∀ r, P (.newResultFromResult r))
    (ho : P (.getOFPortOpState s.netconf.brName s.hostIface.name))
    (hw : P (.sleep s.netconf.linkStateCheckInterval)) (hn : P (.nsDo args.netns))
    (hl : P (.linkByName args.netns args.ifName))
    (hs : ∀ m, P (.linkSetHardwareAddr args.netns args.ifName m))
    (hc : ∀ r, P (.configureIface args.netns args.ifName r))
    (hi : P (.interfaceByName args.netns args.ifName))
    (hg : ∀ address, P (.gratuitousArp args.netns address args.ifName))
    (hp : ∀ result, P (.printResult result s.netconf.cniVersion)) :
    (addIpam isOvsHardwareOffloadEnabled args s).CallsOnly P := by
  unfold addIpam
  split
  · refine ⟨ha, fun r => ?_⟩
    rcases r with _ | r
    · trivial
    refine ⟨hr r, fun r => ?_⟩
    rcases r with _ | newResult
    · trivial
    dsimp only [Prog.bind]
    split
    · trivial
    refine .bind (waitLinkUp_callsOnly ho hw) fun r => ?_
    rcases r with _ | _
    · trivial
    refine .bind (.orReturn ⟨hn, fun _ => trivial⟩ fun _ => configureContainer_calls hl hs hc hi hg)
      fun r => ?_
    rcases r with _ | _
    · trivial
    · exact ⟨hp _, fun _ => trivial⟩
  · exact ⟨hp _, fun _ => trivial⟩

/-- The IPAM block creates no port, writes no cache record and makes no compensation. -/
theorem addIpam_callsOnly (args : CmdArgs) (s : AddSetup) :
    (addIpam isOvsHardwareOffloadEnabled args s).CallsOnly Call.Quiet :=
  addIpam_calls ⟨rfl, rfl, rfl⟩ (fun _ => ⟨rfl, rfl, rfl⟩) ⟨rfl, rfl, rfl⟩ ⟨rfl, rfl, rfl⟩
    ⟨rfl, rfl, rfl⟩ ⟨rfl, rfl, rfl⟩ (fun _ => ⟨rfl, rfl, rfl⟩) (fun _ => ⟨rfl, rfl, rfl⟩)
    ⟨rfl, rfl, rfl⟩ (fun _ => ⟨rfl, rfl, rfl⟩) fun _ => ⟨rfl, rfl, rfl⟩

/-- The deferred closures create no port, write no cache record and make none of the calls of
the IPAM block. -/
theorem addRollback_callsOnly (bridge ifName netns type stdinData : String) (ipamInvoked : Bool)
    (err : Except String Unit) :
    (addRollback bridge ifName netns type stdinData ipamInvoked err).CallsOnly
      fun c => c.portBridge = none ∧ c.writesCache = false ∧ c.ofIpamBlock = false := by
  unfold addRollback ipamRollback portRollback removeOvsPort
  repeat' first
    | exact ⟨⟨rfl, rfl, rfl⟩, fun _ => trivial⟩
    | apply CallsOnly.bind
    | intro _
    | split
    | trivial

end Calls

/-! ### A set-up that ends well -/

section Setup

variable {getCRef : String → String → String} {isOvsHardwareOffloadEnabled : String → Bool}
  {args : CmdArgs} {evs : List Event} {s : AddSetup}

/-- **What a successful set-up did**: it parsed the environment arguments and the configuration
`N`, took the VLAN settings and the bridge from them, and saved the record of `s` in the cache,
after which it wrote nothing more to the cache. -/
theorem runs_addSetup_ok (h : Runs (addSetup getCRef isOvsHardwareOffloadEnabled args) evs (.ok s)) :
    ∃ env N evsE evsB pre post,
      Runs (getEnvArgs args.args) evsE (.ok env) ∧ evsE ⊆ evs ∧
      EnvArgs.fields env = (s.mac, s.ovnPort, s.contPodUid) ∧
      ⟨.loadConf args.stdinData, .ok N⟩ ∈ evs ∧ s.netconf = { N with brName := s.netconf.brName } ∧
      portVlan N.vlanTag N.trunk = .ok s.vlan ∧
      Runs (getBridgeName N.brName s.ovnPort N.deviceID) evsB (.ok s.netconf.brName) ∧ evsB ⊆ evs ∧
      evs = pre ++ ⟨.saveCache (getCRef args.containerID args.ifName) s.cache, .ok ()⟩ :: post ∧
      ∀ ev ∈ post, ev.1.writesCache = false := by
  obtain ⟨evsE, env, evs₁, hE, h₁, e₁⟩ := runs_orReturn_ok h
  obtain ⟨⟨mac, ovnPort, contPodUid⟩, hf⟩ : ∃ t, EnvArgs.fields env = t := ⟨_, rfl⟩
  rw [hf] at h₁
  obtain ⟨evsC, N, evs₂, hC, h₂, e₂⟩ := runs_orReturn_ok h₁
  obtain ⟨evsV, vlan, evs₃, hV, h₃, e₃⟩ := runs_orReturn_ok h₂
  obtain ⟨evsD, _, evs₄, -, h₄, e₄⟩ := runs_orReturn_ok h₃
  obtain ⟨evsB, b, evs₅, hB, h₅, e₅⟩ := runs_orReturn_ok h₄
  obtain ⟨evsO, _, evs₆, -, h₆, e₆⟩ := runs_orReturn_ok h₅
  obtain ⟨evsU, userspaceMode, evs₇, -, h₇, e₇⟩ := runs_orReturn_ok h₆
  obtain ⟨evsP, _, evs₈, -, h₈, e₈⟩ := runs_orReturn_ok h₇
  obtain ⟨evsN, _, evs₉, -, h₉, e₉⟩ := runs_orReturn_ok h₈
  obtain ⟨evsF, origIfName, evs₁₀, -, h₁₀, e₁₀⟩ := runs_orReturn_ok h₉
  obtain ⟨evsS, _, evs₁₁, hS, h₁₁, e₁₁⟩ := runs_orReturn_ok h₁₀
  obtain ⟨evsI, ⟨hostIface, contIface⟩, evs₁₂, hI, h₁₂, e₁₂⟩ := runs_orReturn_ok h₁₁
  clear h h₁ h₂ h₃ h₄ h₅ h₆ h₇ h₈ h₉ h₁₀ h₁₁
  subst e₁ e₂ e₃ e₄ e₅ e₆ e₇ e₈ e₉ e₁₀ e₁₁ e₁₂
  obtain ⟨rfl, hs⟩ := runs_ret.mp h₁₂
  cases hs
  simp only [loadConf, saveCache, runs_call, runs_ret] at hC hS
  obtain ⟨_, _, rfl, rfl, hN⟩ := hC
  obtain ⟨_, _, rfl, rfl, hr⟩ := hS
  cases hN
  cases hr
  obtain ⟨rfl, hv⟩ := runs_ret.mp hV
  have hquiet := hI.calls (fun c => c.writesCache = false) (by
    split
    · exact ⟨rfl, fun _ => trivial⟩
    · exact setupVeth_callsOnly rfl rfl (fun _ _ => rfl) rfl)
  refine ⟨env, N, evsE, evsB,
    evsE ++ [⟨.loadConf args.stdinData, .ok N⟩] ++ evsD ++ evsB ++ evsO ++ evsU ++ evsP ++ evsN ++ evsF,
    evsI, hE, fun _ h => by simp [h], hf, by simp, rfl, hv.symm, hB, fun _ h => by simp [h],
    by simp [AddSetup.cache], hquiet⟩

end Setup

/-! ### How the IPAM block ends -/

section Ipam

variable {isOvsHardwareOffloadEnabled : String → Bool} {args : CmdArgs} {s : AddSetup}
  {evs : List Event} {x : Exit} {inv : Bool}

/-- The two exits of the IPAM block that return the error `e` with `err` nil, told apart by
the call that ends the run `evs`: the conversion of the IPAM result gave one with no address,
and `e` is `OvsCni.missingIpMessage`; or the printing of the result failed with `e`. -/
def ErrNilExit (evs : List Event) (e : String) : Prop :=
  (e = missingIpMessage ∧ ∃ r newResult,
      evs.getLast? = some ⟨.newResultFromResult r, .ok newResult⟩ ∧ newResult.ips = []) ∨
    ∃ result v, evs.getLast? = some ⟨.printResult result v, .error e⟩

theorem ErrNilExit.append_left (pre : List Event) {e : String} (h : ErrNilExit evs e) :
    ErrNilExit (pre ++ evs) e := by
  have hlast : ∀ ev, evs.getLast? = some ev → (pre ++ evs).getLast? = some ev := fun ev h => by
    simp [List.getLast?_append, h]
  rcases h with ⟨he, r, newResult, h, hips⟩ | ⟨result, v, h⟩
  exacts [.inl ⟨he, r, newResult, hlast _ h, hips⟩, .inr ⟨result, v, hlast _ h⟩]

end Ipam

/-! ### The rollbacks -/

section Rollback

variable {bridge ifName netns type stdinData : String} {evs : List Event}

/-- **The runs of the port rollback**: the lookup of the port tagged with the container
interface and namespace, then the removal of the port it found, if any. -/
theorem runs_portRollback (h : Runs (portRollback bridge ifName netns) evs ()) :
    ∃ r rest, evs = ⟨.getOvsPortForContIface bridge ifName netns, r⟩ :: rest ∧
      (∀ p, r = .ok (p, true) → ∃ r', rest = [⟨.deletePort bridge p, r'⟩]) ∧
      ((∀ p, r ≠ .ok (p, true)) → rest = []) := by
  obtain ⟨r, rest, rfl, h₁⟩ := runs_call.mp h
  refine ⟨r, rest, rfl, ?_⟩
  rcases r with e | ⟨p, _ | _⟩
  · exact ⟨fun _ => nofun, fun _ => (runs_ret.mp h₁).1⟩
  · exact ⟨fun _ => nofun, fun _ => (runs_ret.mp h₁).1⟩
  · obtain ⟨r', rest', rfl, h₂⟩ := runs_call.mp h₁
    refine ⟨fun p' hp => ⟨r', ?_⟩, fun h => absurd rfl (h p)⟩
    cases hp
    rw [(runs_ret.mp h₂).1]

end Rollback

/-! ### The runs of `CmdAdd` -/

section Runs

variable {getCRef : String → String → String} {isOvsHardwareOffloadEnabled : String → Bool}
  {args : CmdArgs} {evs : List Event} {res : Except String Unit}

/-- **The runs of `CmdAdd`**: it stops in the set-up, or while attaching the host interface, or
attaches it and ends with the IPAM block and the deferred closures. -/
theorem runs_cmdAdd (h : Runs (cmdAdd getCRef isOvsHardwareOffloadEnabled args) evs res) :
    (∃ e, Runs (addSetup getCRef isOvsHardwareOffloadEnabled args) evs (.error e) ∧ res = .error e) ∨
      ∃ s evs₁ evs₂, Runs (addSetup getCRef isOvsHardwareOffloadEnabled args) evs₁ (.ok s) ∧
        evs = evs₁ ++ evs₂ ∧
        ((∃ e, Runs (addAttach args s) evs₂ (.error e) ∧ res = .error e) ∨
          ∃ evsA evsI evsR x inv, Runs (addAttach args s) evsA (.ok ()) ∧
            Runs (addIpam isOvsHardwareOffloadEnabled args s) evsI (x, inv) ∧
            Runs (addRollback s.netconf.brName args.ifName args.netns s.netconf.ipam.type
              args.stdinData inv x.err) evsR () ∧
            evs₂ = evsA ++ evsI ++ evsR ∧ res = x.ret) := by
  rcases runs_orReturn.mp h with ⟨e, h₁, rfl⟩ | ⟨evs₁, s, evs₂, h₁, h₂, rfl⟩
  · exact .inl ⟨e, h₁, rfl⟩
  refine .inr ⟨s, evs₁, evs₂, h₁, rfl, ?_⟩
  rcases runs_orReturn.mp h₂ with ⟨e, h₃, rfl⟩ | ⟨evsA, _, evs₃, h₃, h₄, rfl⟩
  · exact .inl ⟨e, h₃, rfl⟩
  obtain ⟨evsI, ⟨x, inv⟩, evs₅, h₅, h₆, rfl⟩ := runs_bind.mp h₄
  obtain ⟨evsR, _, evs₇, h₇, h₈, rfl⟩ := runs_bind.mp h₆
  obtain ⟨rfl, rfl⟩ := runs_ret.mp h₈
  exact .inr ⟨evsA, evsI, evsR, x, inv, h₃, h₅, h₇, by simp, rfl⟩

/-- The set-up of `CmdAdd` creates no port. -/
theorem addSetup_creates_no_port (h : Reaches (addSetup getCRef isOvsHardwareOffloadEnabled args) evs)
    {ev : Event} (hev : ev ∈ evs) : ev.1.portBridge = none :=
  (h.calls _ (addSetup_callsOnly args) ev hev).1

/-- The port `CmdAdd` attaches is on the bridge it resolved. -/
theorem addAttach_callsOnly (s : AddSetup) :
    (addAttach args s).CallsOnly fun c =>
      (c.portBridge = some s.netconf.brName ∨ c.portBridge = none) ∧ c.compensates = false ∧
        c.writesCache = false ∧ c.ofIpamBlock = false :=
  attachIfaceToBridge_callsOnly ⟨.inl rfl, rfl, rfl, rfl⟩ ⟨.inr rfl, rfl, rfl, rfl⟩
    ⟨.inr rfl, rfl, rfl, rfl⟩

end Runs

section Port

variable {getCRef : String → String → String} {isOvsHardwareOffloadEnabled : String → Bool}
  {args : CmdArgs} {evs : List Event}

/-- **The port of an attach that ends well**: after a set-up giving `s`, the only port created
is the host interface's, with the VLAN settings of `s`. -/
theorem cmdAdd_ok_createPort
    (h : Runs (cmdAdd getCRef isOvsHardwareOffloadEnabled args) evs (.ok ())) :
    ∃ s evs₁, Runs (addSetup getCRef isOvsHardwareOffloadEnabled args) evs₁ (.ok s) ∧ evs₁ <+: evs ∧
      ∀ b host netns contIface ovn ofp tag trunks pt it uid r,
        ⟨.createPort b host netns contIface ovn ofp tag trunks pt it uid, r⟩ ∈ evs →
        tag = s.vlan.vlanTagNum ∧ trunks = s.vlan.trunks ∧ pt = s.vlan.portType := by
  rcases runs_cmdAdd h with ⟨e, -, he⟩ | ⟨s, evs₁, evs₂, h₁, rfl, ⟨e, -, he⟩ |
    ⟨evsA, evsI, evsR, x, inv, hA, hI, hR, rfl, -⟩⟩
  · cases he
  · cases he
  refine ⟨s, evs₁, h₁, List.prefix_append _ _,
    fun b host netns contIface ovn ofp tag trunks pt it uid r hm => ?_⟩
  simp only [List.mem_append] at hm
  rcases hm with hm | (hm | hm) | hm
  · exact nomatch addSetup_creates_no_port h₁.reaches hm
  · rcases runs_attachIfaceToBridge hA with ⟨e, rfl, -⟩ | ⟨e, rfl, -⟩ | ⟨l, rfl⟩ <;>
      simp only [List.mem_cons, List.mem_singleton, List.not_mem_nil, Sigma.mk.inj_iff,
        Call.createPort.injEq, reduceCtorEq, false_and, or_false] at hm <;>
      exact ⟨hm.1.2.2.2.2.2.2.1, hm.1.2.2.2.2.2.2.2.1, hm.1.2.2.2.2.2.2.2.2.1⟩
  · exact nomatch (hI.calls _ (addIpam_callsOnly args s) _ hm).1
  · exact nomatch (hR.calls _ (addRollback_callsOnly _ _ _ _ _ _ _) _ hm).1

/-- What a call says of the VLAN settings `v`: a port it creates carries them. -/
def CreatesWith (v : PortVlan) (c : Call) : Prop :=
  ∀ b host netns contIface ovn ofp tag trunks pt it uid,
    c = .createPort b host netns contIface ovn ofp tag trunks pt it uid →
      tag = v.vlanTagNum ∧ trunks = v.trunks ∧ pt = v.portType

/-- A call creating no port says nothing against the settings. -/
theorem createsWith_of_portBridge {v : PortVlan} {c : Call} (h : c.portBridge = none) :
    CreatesWith v c := by
  rintro _ _ _ _ _ _ _ _ _ _ _ rfl
  cases h

/-- **The VLAN settings of the port an attach creates.** In every run of `CmdAdd`, complete or
cut short and whatever its collaborators answer, a port it creates carries the settings the
configuration `N` it loaded gives: with a trunk list, a trunk port with no tag and the IDs of
`splitVlanIds`, a configured tag being dropped; with neither a tag nor a trunk list, a trunk port
with no tag and no IDs, the trunk list not being resolved at all; with a tag and no trunk list,
an access port with that tag. -/
theorem cmdAdd_port_vlan {b host netns contIface ovn pt it uid : String} {ofp tag : Nat}
    {trunks : List Nat} {r : Except String Unit}
    (h : Reaches (cmdAdd getCRef isOvsHardwareOffloadEnabled args) evs)
    (hm : ⟨.createPort b host netns contIface ovn ofp tag trunks pt it uid, r⟩ ∈ evs) :
    ∃ N, ⟨.loadConf args.stdinData, .ok N⟩ ∈ evs ∧
      (N.trunk ≠ [] → pt = "trunk" ∧ tag = 0 ∧ splitVlanIds N.trunk = .ok trunks) ∧
      (N.trunk = [] → N.vlanTag = none → pt = "trunk" ∧ tag = 0 ∧ trunks = []) ∧
      ∀ t, N.trunk = [] → N.vlanTag = some t → pt = "access" ∧ tag = t ∧ trunks = [] := by
  rcases reaches_orReturn.mp h with h₁ | ⟨evs₁, s, evs₂, h₁, h₂, rfl⟩
  · exact nomatch addSetup_creates_no_port h₁ hm
  -- the port was created after the set-up, with its settings
  obtain ⟨rfl, rfl, rfl⟩ :
      tag = s.vlan.vlanTagNum ∧ trunks = s.vlan.trunks ∧ pt = s.vlan.portType := by
    rcases List.mem_append.mp hm with hm | hm
    · exact nomatch addSetup_creates_no_port h₁.reaches hm
    refine h₂.calls (CreatesWith s.vlan) ?_ _ hm _ _ _ _ _ _ _ _ _ _ _ rfl
    refine .orReturn (attachIfaceToBridge_callsOnly
        (fun _ _ _ _ _ _ _ _ _ _ _ h => by cases h; exact ⟨rfl, rfl, rfl⟩)
        (createsWith_of_portBridge rfl) (createsWith_of_portBridge rfl)) fun _ =>
      .bind ((addIpam_callsOnly args s).mono fun _ hc => createsWith_of_portBridge hc.1) fun _ =>
      .bind ((addRollback_callsOnly _ _ _ _ _ _ _).mono fun _ hc => createsWith_of_portBridge hc.1)
        fun _ => trivial
  obtain ⟨-, N, -, -, -, -, -, -, -, hN, -, hv, -⟩ := runs_addSetup_ok h₁
  obtain ⟨hids, htr, hac⟩ := portVlan_eq_ok hv
  refine ⟨N, List.mem_append_left _ hN, fun hne => ?_, fun h0 ht => ?_, fun t h0 ht => ?_⟩
  · rw [htr (.inr hne)]
    refine ⟨rfl, rfl, ?_⟩
    rwa [configuredTrunks, if_pos (List.length_pos.mpr hne)] at hids
  · rw [htr (.inl ht)]
    refine ⟨rfl, rfl, ?_⟩
    rw [configuredTrunks, h0] at hids
    exact (Except.ok.inj hids).symm
  · rw [hac t ht h0]
    exact ⟨rfl, rfl, rfl⟩

end Port

end OvsCni
