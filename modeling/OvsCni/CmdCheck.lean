import OvsCni.AddMac
import OvsCni.Vlan

/-!
# Verify: `CmdCheck`

`CmdCheck` parses the configuration and resolves its bridge again (`OvsCni.checkSetup`), since
the cached configuration holds the bridge `CmdAdd` discovered; it then compares the cache record
with the configuration (`OvsCni.validateCache`, whose every error names the first field that
differs and its two values: `OvsCni.validateCache_eq_error`), runs the IPAM plugin's check,
looks at the interfaces of the previous result on the host and in the container
(`OvsCni.validateInterface`), and last asks the switch about the bridge, the ports in error and
the VLAN settings of the host port (`OvsCni.validateOvs`).

`OvsCni.cmdCheck_accepts_cmdAdd` compares the two verbs: after an attach that ended well, a
verify of the same configuration, environment arguments, container and interface, against a
cache, a switch and a device state left as they were, passes the cache comparison and the VLAN
checks – unless the configuration has both a tag and a trunk list, where `CmdAdd` drops the tag
and the check then asks for it (`OvsCni.checkVlan_rejects_tag_with_trunk`).

What a verify that returns nil has looked at is `OvsCni.cmdCheck_ok_interfaces`: unless the
cache record marks a user-space driver, which skips every check of the interfaces, the previous
result lists an interface named `IfName` in the container's (non-empty) namespace that passed the
container-side validation, and every interface of another name passed the host-side one. The
host-side validation does not look at the namespace of the interface, and an interface named
`IfName` in another namespace is validated on neither side
(`OvsCni.cmdCheck_accepts_stray_interfaces`).

A verify changes nothing it looks at: every call it makes, in every run and wherever the run is
cut, only asks (`OvsCni.cmdCheck_changes_nothing`).
-/

namespace OvsCni

open Prog

/-! ### The cache record against the configuration -/

/-- One comparison of `validateCache`: the cached value of a field against the configured
one. -/
def checkCached (field cached configured : String) : Except String Unit :=
  if cached ≠ configured then
    .error (field ++ " mismatch. cache=" ++ cached ++ ",netconf=" ++ configured)
  else .ok ()

/-- `validateCache`: the bridge, the socket, the IPAM type and the device of the record must be
the configured ones. -/
def validateCache (cache : CachedNetConf) (netconf : NetConf) : Except String Unit := do
  checkCached "BrName" cache.netconf.brName netconf.brName
  checkCached "SocketFile" cache.netconf.socketFile netconf.socketFile
  checkCached "IPAM" cache.netconf.ipam.type netconf.ipam.type
  checkCached "DeviceID" cache.netconf.deviceID netconf.deviceID

theorem checkCached_eq_ok_iff {field cached configured : String} :
    checkCached field cached configured = .ok () ↔ cached = configured := by
  unfold checkCached
  split_ifs with h <;> simp_all

theorem except_seq_eq_ok {a b : Except String Unit} :
    (a >>= fun _ => b) = .ok () ↔ a = .ok () ∧ b = .ok () := by
  rcases a with _ | ⟨⟩ <;> simp

/-- **What `validateCache` accepts**: a record agreeing with the configuration on the bridge,
the socket, the IPAM type and the device. -/
theorem validateCache_eq_ok_iff {cache : CachedNetConf} {netconf : NetConf} :
    validateCache cache netconf = .ok () ↔
      cache.netconf.brName = netconf.brName ∧ cache.netconf.socketFile = netconf.socketFile ∧
        cache.netconf.ipam.type = netconf.ipam.type ∧ cache.netconf.deviceID = netconf.deviceID := by
  simp only [validateCache, except_seq_eq_ok, checkCached_eq_ok_iff]

theorem checkCached_eq_error {field cached configured e : String} :
    checkCached field cached configured = .error e ↔
      cached ≠ configured ∧
        e = field ++ " mismatch. cache=" ++ cached ++ ",netconf=" ++ configured := by
  unfold checkCached
  split_ifs with h <;> simp [h, eq_comm]

/-- **Every error of `validateCache` names a field and its two values**: the first field, in the
order checked, on which the record and the configuration differ. -/
theorem validateCache_eq_error {cache : CachedNetConf} {netconf : NetConf} {e : String}
    (h : validateCache cache netconf = .error e) :
    checkCached "BrName" cache.netconf.brName netconf.brName = .error e ∨
      cache.netconf.brName = netconf.brName ∧
        (checkCached "SocketFile" cache.netconf.socketFile netconf.socketFile = .error e ∨
          cache.netconf.socketFile = netconf.socketFile ∧
            (checkCached "IPAM" cache.netconf.ipam.type netconf.ipam.type = .error e ∨
              cache.netconf.ipam.type = netconf.ipam.type ∧
                checkCached "DeviceID" cache.netconf.deviceID netconf.deviceID = .error e)) := by
  unfold validateCache at h
  rcases h₁ : checkCached "BrName" cache.netconf.brName netconf.brName with e₁ | ⟨⟩ <;>
    rw [h₁] at h
  · exact .inl h
  refine .inr ⟨checkCached_eq_ok_iff.mp h₁, ?_⟩
  rcases h₂ : checkCached "SocketFile" cache.netconf.socketFile netconf.socketFile
    with e₂ | ⟨⟩ <;> rw [h₂] at h
  · exact .inl h
  refine .inr ⟨checkCached_eq_ok_iff.mp h₂, ?_⟩
  rcases h₃ : checkCached "IPAM" cache.netconf.ipam.type netconf.ipam.type with e₃ | ⟨⟩ <;>
    rw [h₃] at h
  · exact .inl h
  exact .inr ⟨checkCached_eq_ok_iff.mp h₃, h⟩

/-! ### The interfaces and the switch -/

/-- `validateInterface`: the interface of the previous result must name a link of the
namespace `netns` – in a namespace for the container one –, a veth unless offload is on, with
the MAC the result reports if it reports one. -/
def validateInterface (netns : String) (intf : Interface) (isHost hwOffload : Bool) :
    Plugin (Except String Unit) :=
  let iftype := if isHost then "Host" else "Container"
  if intf.name = "" then
    pure (.error (iftype ++ " interface name missing in prevResult: " ++ intf.name))
  else do
    match ← linkByName netns intf.name with
    | .error _ =>
      pure (.error ("Error: " ++ iftype ++ " Interface name in prevResult: " ++ intf.name ++
        " not found"))
    | .ok link =>
      if !isHost && intf.sandbox = "" then
        pure (.error ("Error: " ++ iftype ++ " interface " ++ link.name ++
          " should not be in host namespace"))
      else if !hwOffload && !link.isVeth then
        pure (.error ("Error: " ++ iftype ++ " interface " ++ link.name ++ " not of type veth/p2p"))
      else if intf.mac ≠ "" ∧ intf.mac ≠ link.mac then
        pure (.error ("Error: Interface " ++ intf.name ++ " Mac " ++ intf.mac ++ " doesn't match " ++
          iftype ++ " Mac: " ++ link.mac))
      else pure (.ok ())

/-- **What `validateInterface` accepts**: a named interface whose link the kernel found, in a
namespace when it is the container's, a veth unless offload is on, with the MAC of the link if
it reports one. The host-side validation does not look at the namespace. -/
theorem runs_validateInterface_ok {netns : String} {intf : Interface} {isHost hwOffload : Bool}
    {evs : List Event} (h : Runs (validateInterface netns intf isHost hwOffload) evs (.ok ())) :
    intf.name ≠ "" ∧ (isHost = false → intf.sandbox ≠ "") ∧
      ∃ link, evs = [⟨.linkByName netns intf.name, .ok link⟩] ∧
        (hwOffload = false → link.isVeth = true) ∧ (intf.mac ≠ "" → intf.mac = link.mac) := by
  unfold validateInterface at h
  dsimp only at h
  obtain ⟨hname, h'⟩ := runs_ite_error h
  simp only [linkByName, call_bind, ret_bind, runs_call] at h'
  obtain ⟨r, evs', rfl, h'⟩ := h'
  rcases r with e | link
  · cases (runs_ret.mp h').2
  obtain ⟨h₁, h'⟩ := runs_ite_error h'
  obtain ⟨h₂, h'⟩ := runs_ite_error h'
  obtain ⟨h₃, h'⟩ := runs_ite_error h'
  obtain ⟨rfl, -⟩ := runs_ret.mp h'
  refine ⟨hname, fun hh => ?_, link, rfl, fun hw => ?_, fun hm => ?_⟩
  · simpa [hh] using h₁
  · simpa [hw] using h₂
  · simpa [hm] using h₃

/-- The loop of `CmdCheck` over the interfaces of the previous result (lines 732–745): the one
named `IfName` in the container's namespace is the container interface; every other one is
validated on the host and becomes the host interface, the last one winning. -/
def findInterfaces (args : CmdArgs) (hwOffload : Bool) :
    Interface × Interface → List Interface → Plugin (Except String (Interface × Interface))
  | acc, [] => pure (.ok acc)
  | (contIntf, hostIntf), intf :: rest =>
    if args.ifName = intf.name then
      findInterfaces args hwOffload (if args.netns = intf.sandbox then intf else contIntf, hostIntf)
        rest
    else
      orReturn (validateInterface "" intf true hwOffload) .error fun _ =>
      findInterfaces args hwOffload (contIntf, intf) rest

/-- **The loop over the previous result**: when it ends well, the container interface it found
is the one it started with or an interface of the list named `IfName` in the container's
namespace, and every interface of the list of another name passed the host-side validation. -/
theorem runs_findInterfaces {args : CmdArgs} {hw : Bool} {intfs : List Interface}
    {acc : Interface × Interface} {evs : List Event} {cont host : Interface}
    (h : Runs (findInterfaces args hw acc intfs) evs (.ok (cont, host))) :
    (cont = acc.1 ∨ cont ∈ intfs ∧ cont.name = args.ifName ∧ cont.sandbox = args.netns) ∧
      ∀ intf ∈ intfs, intf.name ≠ args.ifName →
        ∃ evsV, Runs (validateInterface "" intf true hw) evsV (.ok ()) ∧ evsV ⊆ evs := by
  induction intfs generalizing acc evs with
  | nil =>
    obtain ⟨-, ⟨⟩⟩ := runs_ret.mp h
    exact ⟨.inl rfl, nofun⟩
  | cons intf rest ih =>
    obtain ⟨c₀, h₀⟩ := acc
    unfold findInterfaces at h
    split at h
    · -- named `IfName`: kept when in the container's namespace, validated on neither side
      rename_i hn
      obtain ⟨hc, hv⟩ := ih h
      refine ⟨?_, fun i hi hne => ?_⟩
      · rcases hc with hc | ⟨hm, hcn, hcs⟩
        · dsimp only at hc
          split_ifs at hc with hsb
          · exact .inr ⟨hc ▸ List.mem_cons_self _ _, hc ▸ hn.symm, hc ▸ hsb.symm⟩
          · exact .inl hc
        · exact .inr ⟨List.mem_cons_of_mem _ hm, hcn, hcs⟩
      · rcases List.mem_cons.mp hi with rfl | hi
        · exact absurd hn.symm hne
        · exact hv i hi hne
    · -- another name: validated on the host
      obtain ⟨evsV, _, evsR, hV, hR, rfl⟩ := runs_orReturn_ok h
      obtain ⟨hc, hv⟩ := ih hR
      refine ⟨hc.imp id fun ⟨hm, hcn, hcs⟩ => ⟨List.mem_cons_of_mem _ hm, hcn, hcs⟩,
        fun i hi hne => ?_⟩
      rcases List.mem_cons.mp hi with rfl | hi
      · exact ⟨evsV, hV, List.subset_append_left _ _⟩
      · obtain ⟨evs', hV', hsub⟩ := hv i hi hne
        exact ⟨evs', hV', hsub.trans (List.subset_append_right _ _)⟩

/-- `validateOvs`: the bridge must exist, no interface be in error, and the VLAN settings the
switch reports for the host port pass `OvsCni.checkVlan`. -/
def validateOvs (netconf : NetConf) (hostIfname : String) : Plugin (Except String Unit) :=
  orReturn (newOvsBridgeDriver netconf.brName netconf.socketFile) .error fun _ =>
  orReturn (isBridgePresent netconf.brName netconf.brName) .error fun found =>
  if !found then pure (.error ("Error: bridge " ++ netconf.brName ++ " is not found in OVS")) else
  orReturn (findInterfacesWithError netconf.brName) .error fun ifaces =>
  if ifaces.length > 0 then
    pure (.error ("Error: There are some interfaces in error state: " ++ goList ifaces))
  else
  orReturn (getOFPortVlanState netconf.brName hostIfname)
    (fun err => .error ("Error: Failed to retrieve port " ++ hostIfname ++ " state: " ++ err))
    fun st =>
  pure (checkVlan netconf.vlanTag netconf.trunk st)

section CmdCheck

variable (getCRef : String → String → String) (isOvsHardwareOffloadEnabled : String → Bool)

/-- Lines 667–698 of `CmdCheck`: the configuration with its bridge resolved again, and the cache
record of the container and interface. -/
def checkSetup (args : CmdArgs) : Plugin (Except String (NetConf × CachedNetConf)) :=
  orReturn (loadConf args.stdinData) .error fun netconf =>
  orReturn (getEnvArgs args.args) .error fun envArgs =>
  let (_, ovnPort, _) := EnvArgs.fields envArgs
  orReturn (newOvsDriver netconf.socketFile) .error fun _ =>
  orReturn (getBridgeName netconf.brName ovnPort netconf.deviceID) .error fun bridgeName =>
  orReturn (loadConfFromCache (getCRef args.containerID args.ifName)) .error fun cache =>
  pure (.ok ({ netconf with brName := bridgeName }, cache))

/-- `CmdCheck`: check that the attachment is as `CmdAdd` left it. -/
def cmdCheck (args : CmdArgs) : Plugin (Except String Unit) :=
  orReturn (checkSetup getCRef args) .error fun (netconf, cache) =>
  let ovsHWOffloadEnable := isOvsHardwareOffloadEnabled netconf.deviceID
  orReturn (pure (validateCache cache netconf)) .error fun _ =>
  if cache.userspaceMode then pure (.ok ()) else
  orReturn (if netconf.ipam.type ≠ "" ∧ cache.userspaceMode = false then
      ipamExecCheck netconf.ipam.type args.stdinData
    else pure (.ok ()))
    (fun err => .error ("failed to check with IPAM plugin type " ++ quote netconf.ipam.type ++ ": " ++
      err)) fun _ =>
  match netconf.rawPrevResult with
  | none => pure (.error "Required prevResult missing")
  | some raw =>
  orReturn (parsePrevResult raw) .error fun prevResult =>
  orReturn (newResultFromResult prevResult) .error fun result =>
  orReturn (findInterfaces args ovsHWOffloadEnable (⟨"", "", ""⟩, ⟨"", "", ""⟩) result.interfaces)
    .error fun (contIntf, hostIntf) =>
  if args.netns ≠ contIntf.sandbox then
    pure (.error ("Sandbox in prevResult " ++ contIntf.sandbox ++ " doesn't match configured netns: " ++
      args.netns))
  else
  orReturn (getNS args.netns)
    (fun err => .error ("failed to open netns " ++ quote args.netns ++ ": " ++ err.error)) fun _ =>
  orReturn (nsDo args.netns) .error fun _ =>
  orReturn (validateInterface args.netns contIntf false ovsHWOffloadEnable) .error fun _ =>
  orReturn (validateExpectedInterfaceIPs args.netns args.ifName result.ips) .error fun _ =>
  orReturn (validateExpectedRoute args.netns result.routes) .error fun _ =>
  validateOvs netconf hostIntf.name

end CmdCheck

/-! ### After an attach -/

section Agree

variable {getCRef : String → String → String} {isOvsHardwareOffloadEnabled : String → Bool}
  {args : CmdArgs} {evs evsA evsC : List Event} {N' : NetConf} {R : CachedNetConf}

/-- **What a set-up of `CmdCheck` that ends well did**: it parsed the configuration `N` and the
environment arguments, resolved the bridge `b` from them, and loaded the record `R`; the
configuration it checks against is `N` with the bridge `b`. -/
theorem runs_checkSetup_ok (h : Runs (checkSetup getCRef args) evs (.ok (N', R))) :
    ∃ N env evsE evsB b, ⟨.loadConf args.stdinData, .ok N⟩ ∈ evs ∧
      Runs (getEnvArgs args.args) evsE (.ok env) ∧ evsE ⊆ evs ∧
      Runs (getBridgeName N.brName (EnvArgs.fields env).2.1 N.deviceID) evsB (.ok b) ∧ evsB ⊆ evs ∧
      N' = { N with brName := b } ∧
      ⟨.loadConfFromCache (getCRef args.containerID args.ifName), .ok R⟩ ∈ evs := by
  obtain ⟨evsN, N, evs₁, hN, h₁, rfl⟩ := runs_orReturn_ok h
  obtain ⟨evsE, env, evs₂, hE, h₂, rfl⟩ := runs_orReturn_ok h₁
  generalize hf : EnvArgs.fields env = t at h₂
  obtain ⟨_, ovnPort, _⟩ := t
  obtain ⟨evsD, _, evs₃, -, h₃, rfl⟩ := runs_orReturn_ok h₂
  obtain ⟨evsB, b, evs₄, hB, h₄, rfl⟩ := runs_orReturn_ok h₃
  obtain ⟨evsL, R', evs₅, hL, h₅, rfl⟩ := runs_orReturn_ok h₄
  obtain ⟨rfl, ⟨⟩⟩ := runs_ret.mp h₅
  rw [loadConf, runs_call_ret] at hN
  rw [loadConfFromCache, runs_call_ret] at hL
  subst hN hL
  refine ⟨N, env, evsE, evsB, b, by simp, hE, fun _ h => by simp [h], by rwa [hf],
    fun _ h => by simp [h],
    rfl, by simp⟩

/-- A verify returning nil loaded the record of its container and interface. -/
theorem cmdCheck_ok_loads (h : Runs (cmdCheck getCRef isOvsHardwareOffloadEnabled args) evs (.ok ())) :
    ∃ R, ⟨.loadConfFromCache (getCRef args.containerID args.ifName), .ok R⟩ ∈ evs := by
  obtain ⟨evs₁, ⟨_, R⟩, evs₂, h₁, -, rfl⟩ := runs_orReturn_ok h
  obtain ⟨-, -, -, -, -, -, -, -, -, -, -, hR⟩ := runs_checkSetup_ok h₁
  exact ⟨R, List.mem_append_left _ hR⟩

/-- The environment arguments of two successful parses of the same string, answered alike by
`types.LoadArgs`, are the same. -/
theorem getEnvArgs_agree {s : String} {evs₁ evs₂ : List Event} {env₁ env₂ : Option EnvArgs}
    (h₁ : Runs (getEnvArgs s) evs₁ (.ok env₁)) (h₂ : Runs (getEnvArgs s) evs₂ (.ok env₂))
    (hag : ∀ e₁ e₂, ⟨.loadArgs s, .ok e₁⟩ ∈ evs₁ → ⟨.loadArgs s, .ok e₂⟩ ∈ evs₂ → e₁ = e₂) :
    env₁ = env₂ := by
  rcases runs_getEnvArgs_ok h₁ with ⟨hs, rfl, -⟩ | ⟨hs, e₁, rfl, rfl⟩ <;>
  rcases runs_getEnvArgs_ok h₂ with ⟨hs', rfl, -⟩ | ⟨hs', e₂, rfl, rfl⟩
  · rfl
  · exact absurd hs hs'
  · exact absurd hs' hs
  · rw [hag e₁ e₂ (by simp) (by simp)]

/-- Two resolutions of one bridge, answered alike where they ask the same, resolve the same
bridge. -/
theorem getBridgeName_agree {bridgeName ovnPort deviceID b₁ b₂ : String} {evs₁ evs₂ : List Event}
    (h₁ : Runs (getBridgeName bridgeName ovnPort deviceID) evs₁ (.ok b₁))
    (h₂ : Runs (getBridgeName bridgeName ovnPort deviceID) evs₂ (.ok b₂))
    (hag : ∀ c r₁ r₂, c.resolvesBridge = true → ⟨c, r₁⟩ ∈ evs₁ → ⟨c, r₂⟩ ∈ evs₂ → r₁ = r₂) :
    b₁ = b₂ := by
  have hq := h₁.calls (fun c => c.resolvesBridge = true)
    (getBridgeName_callsOnly (fun _ => by rfl) (fun _ => by rfl) _ _ _)
  exact Except.ok.inj (h₁.eq_of_agree h₂ fun e r₁ r₂ hm₁ hm₂ => hag e r₁ r₂ (hq _ hm₁) hm₁ hm₂).2

/-- **A verify after an attach.** After a run of `CmdAdd` that returned nil, a run of the set-up
of `CmdCheck` with the same arguments – answered the same configuration and environment
arguments, the same answers where the bridge is resolved, and by the cache the record
`CmdAdd` saved – gives a configuration `N'` and a record `R` that pass `validateCache`; and when
`N'` has no tag or no trunk list, the VLAN checks of `validateOvs` pass on the state of the port
`CmdAdd` created, as the switch reports it. -/
theorem cmdCheck_accepts_cmdAdd
    (hA : Runs (cmdAdd getCRef isOvsHardwareOffloadEnabled args) evsA (.ok ()))
    (hC : Runs (checkSetup getCRef args) evsC (.ok (N', R)))
    (hconf : ∀ N₁ N₂, ⟨.loadConf args.stdinData, .ok N₁⟩ ∈ evsA →
      ⟨.loadConf args.stdinData, .ok N₂⟩ ∈ evsC → N₁ = N₂)
    (henv : ∀ e₁ e₂, ⟨.loadArgs args.args, .ok e₁⟩ ∈ evsA → ⟨.loadArgs args.args, .ok e₂⟩ ∈ evsC →
      e₁ = e₂)
    (hbr : ∀ c r₁ r₂, c.resolvesBridge = true → ⟨c, r₁⟩ ∈ evsA → ⟨c, r₂⟩ ∈ evsC → r₁ = r₂)
    (hcache : ∀ R₁ r, ⟨.saveCache (getCRef args.containerID args.ifName) R₁, .ok ()⟩ ∈ evsA →
      ⟨.loadConfFromCache (getCRef args.containerID args.ifName), r⟩ ∈ evsC → r = .ok R₁)
    (htag : N'.vlanTag = none ∨ N'.trunk = []) :
    validateCache R N' = .ok () ∧
      ∀ b host netns contIface ovn ofp tag trunks pt it uid,
        ⟨.createPort b host netns contIface ovn ofp tag trunks pt it uid, .ok ()⟩ ∈ evsA →
        checkVlan N'.vlanTag N'.trunk ⟨pt, if pt = "access" then some tag else none, trunks⟩ =
          .ok () := by
  obtain ⟨s, evs₁, h₁, hpre, hport⟩ := cmdAdd_ok_createPort hA
  have hsub : evs₁ ⊆ evsA := hpre.subset
  obtain ⟨env, N, evsE, evsB, pre, post, hE, hEsub, hf, hN, hsN, hv, hB, hBsub, rfl, -⟩ :=
    runs_addSetup_ok h₁
  obtain ⟨N₂, env₂, evsE₂, evsB₂, b, hN₂, hE₂, hEsub₂, hB₂, hBsub₂, rfl, hR⟩ := runs_checkSetup_ok hC
  obtain rfl := hconf N N₂ (hsub hN) hN₂
  obtain rfl := getEnvArgs_agree hE hE₂ fun e₁ e₂ h₁ h₂ => henv e₁ e₂ (hsub (hEsub h₁)) (hEsub₂ h₂)
  rw [hf] at hB₂
  obtain rfl := getBridgeName_agree hB hB₂ fun c r₁ r₂ hc h₁ h₂ => hbr c r₁ r₂ hc (hsub (hBsub h₁))
    (hBsub₂ h₂)
  obtain rfl := Except.ok.inj (hcache s.cache _ (hsub (by simp [AddSetup.cache])) hR)
  refine ⟨validateCache_eq_ok_iff.mpr ?_,
    fun b host netns contIface ovn ofp tag trunks pt it uid hm => ?_⟩
  · simp only [AddSetup.cache]
    rw [hsN]
    exact ⟨trivial, rfl, rfl, rfl⟩
  · obtain ⟨rfl, rfl, rfl⟩ := hport b host netns contIface ovn ofp tag trunks pt it uid _ hm
    exact checkVlan_portVlan hv htag

end Agree

/-- The answers of a verify of `attachArgs` after the attach `dualStackRun`: the configuration
`ipamConf` again, and the record that attach saved. -/
def checkAnswers : (c : Call) → c.Resp
  | .loadConf _ => .ok ipamConf
  | .newOvsDriver _ => .ok ()
  | .loadConfFromCache _ => .ok ⟨ipamConf, "", false⟩
  | c => c.fail

/-- The calls of the set-up of that verify. -/
def checkSetupRun : List Event :=
  [⟨.loadConf "{}", .ok ipamConf⟩,
   ⟨.newOvsDriver "", .ok ()⟩,
   ⟨.loadConfFromCache "c1-eth0", .ok ⟨ipamConf, "", false⟩⟩]

theorem cmdCheck_accepts_cmdAdd_dualStack :
    Runs (cmdAdd (fun containerID ifName => containerID ++ "-" ++ ifName) (fun _ => false) attachArgs)
      dualStackRun (.ok ()) ∧
    Runs (checkSetup (fun containerID ifName => containerID ++ "-" ++ ifName) attachArgs) checkSetupRun
      (.ok ({ ipamConf with brName := "br0" }, ⟨ipamConf, "", false⟩)) ∧
    (∀ N₁ N₂, ⟨.loadConf attachArgs.stdinData, .ok N₁⟩ ∈ dualStackRun →
      ⟨.loadConf attachArgs.stdinData, .ok N₂⟩ ∈ checkSetupRun → N₁ = N₂) ∧
    (∀ e₁ e₂, ⟨.loadArgs attachArgs.args, .ok e₁⟩ ∈ dualStackRun →
      ⟨.loadArgs attachArgs.args, .ok e₂⟩ ∈ checkSetupRun → e₁ = e₂) ∧
    (∀ c r₁ r₂, c.resolvesBridge = true → ⟨c, r₁⟩ ∈ dualStackRun → ⟨c, r₂⟩ ∈ checkSetupRun →
      r₁ = r₂) ∧
    (∀ R₁ r, ⟨.saveCache (attachArgs.containerID ++ "-" ++ attachArgs.ifName) R₁, .ok ()⟩ ∈
      dualStackRun → ⟨.loadConfFromCache (attachArgs.containerID ++ "-" ++ attachArgs.ifName), r⟩ ∈
        checkSetupRun → r = .ok R₁) ∧
    ({ ipamConf with brName := "br0" }.vlanTag = none ∨ { ipamConf with brName := "br0" }.trunk = []) ∧
    validateCache ⟨ipamConf, "", false⟩ { ipamConf with brName := "br0" } = .ok () ∧
      ∀ b host netns contIface ovn ofp tag trunks pt it uid,
        ⟨.createPort b host netns contIface ovn ofp tag trunks pt it uid, .ok ()⟩ ∈ dualStackRun →
        checkVlan { ipamConf with brName := "br0" }.vlanTag { ipamConf with brName := "br0" }.trunk
          ⟨pt, if pt = "access" then some tag else none, trunks⟩ = .ok () :=
  have hA : Runs (cmdAdd (fun containerID ifName => containerID ++ "-" ++ ifName) (fun _ => false)
      attachArgs) dualStackRun (.ok ()) := runs_trace dualStackAnswers _
  have hC : Runs (checkSetup (fun containerID ifName => containerID ++ "-" ++ ifName) attachArgs)
      checkSetupRun (.ok ({ ipamConf with brName := "br0" }, ⟨ipamConf, "", false⟩)) :=
    runs_trace checkAnswers _
  have hconf : ∀ N₁ N₂, ⟨.loadConf attachArgs.stdinData, .ok N₁⟩ ∈ dualStackRun →
      ⟨.loadConf attachArgs.stdinData, .ok N₂⟩ ∈ checkSetupRun → N₁ = N₂ := by
    intro N₁ N₂ h₁ h₂
    simp [dualStackRun, attachArgs] at h₁
    simp [checkSetupRun, attachArgs] at h₂
    rw [Except.ok.inj h₁, Except.ok.inj h₂]
  have henv : ∀ e₁ e₂, ⟨.loadArgs attachArgs.args, .ok e₁⟩ ∈ dualStackRun →
      ⟨.loadArgs attachArgs.args, .ok e₂⟩ ∈ checkSetupRun → e₁ = e₂ := by
    intro e₁ e₂ h₁
    simp [dualStackRun] at h₁
  have hbr : ∀ c r₁ r₂, c.resolvesBridge = true → ⟨c, r₁⟩ ∈ dualStackRun →
      ⟨c, r₂⟩ ∈ checkSetupRun → r₁ = r₂ := by
    intro c r₁ r₂ hc _ h₂
    simp only [checkSetupRun, List.mem_cons, List.mem_singleton, List.not_mem_nil, or_false,
      Sigma.mk.inj_iff] at h₂
    rcases h₂ with ⟨rfl, -⟩ | ⟨rfl, -⟩ | ⟨rfl, -⟩ <;> cases hc
  have hcache : ∀ R₁ r, ⟨.saveCache (attachArgs.containerID ++ "-" ++ attachArgs.ifName) R₁, .ok ()⟩ ∈
      dualStackRun → ⟨.loadConfFromCache (attachArgs.containerID ++ "-" ++ attachArgs.ifName), r⟩ ∈
        checkSetupRun → r = .ok R₁ := by
    intro R₁ r h₁ h₂
    simp [dualStackRun, attachArgs] at h₁
    simp [checkSetupRun, attachArgs] at h₂
    rw [h₁, h₂]
  ⟨hA, hC, hconf, henv, hbr, hcache, .inl rfl,
    cmdCheck_accepts_cmdAdd hA hC hconf henv hbr hcache (.inl rfl)⟩

/-! ### What a verify returning nil looked at -/

section Interfaces

variable {getCRef : String → String → String} {isOvsHardwareOffloadEnabled : String → Bool}
  {args : CmdArgs} {evs : List Event}

/-- **The interfaces a verify returning nil has validated.** In every run of `CmdCheck` that
returns nil, it loaded a configuration `N` and the record `R`; unless `R` marks a user-space
driver, the converted previous result lists an interface named `IfName` in the container's
namespace, which is not empty, and that interface passed the container-side validation; every
interface of the list of another name passed the host-side validation. -/
theorem cmdCheck_ok_interfaces
    (h : Runs (cmdCheck getCRef isOvsHardwareOffloadEnabled args) evs (.ok ())) :
    ∃ N R, ⟨.loadConf args.stdinData, .ok N⟩ ∈ evs ∧
      ⟨.loadConfFromCache (getCRef args.containerID args.ifName), .ok R⟩ ∈ evs ∧
      (R.userspaceMode = false → ∃ prev result, ⟨.newResultFromResult prev, .ok result⟩ ∈ evs ∧
        (∃ cont ∈ result.interfaces, cont.name = args.ifName ∧ cont.sandbox = args.netns ∧
          args.netns ≠ "" ∧ ∃ evsV, Runs (validateInterface args.netns cont false
            (isOvsHardwareOffloadEnabled N.deviceID)) evsV (.ok ()) ∧ evsV ⊆ evs) ∧
        ∀ intf ∈ result.interfaces, intf.name ≠ args.ifName →
          ∃ evsV, Runs (validateInterface "" intf true (isOvsHardwareOffloadEnabled N.deviceID))
            evsV (.ok ()) ∧ evsV ⊆ evs) := by
  obtain ⟨evsS, ⟨N', R⟩, evs₁, hS, h₁, rfl⟩ := runs_orReturn_ok h
  obtain ⟨N, -, -, -, b, hN, -, -, -, -, rfl, hR⟩ := runs_checkSetup_ok hS
  refine ⟨N, R, List.mem_append_left _ hN, List.mem_append_left _ hR, fun hus => ?_⟩
  obtain ⟨_, _, evs₂, -, h₂, rfl⟩ := runs_orReturn_ok h₁
  rw [if_neg (by simp [hus])] at h₂
  obtain ⟨_, _, evs₃, -, h₃, rfl⟩ := runs_orReturn_ok h₂
  split at h₃
  · cases (runs_ret.mp h₃).2
  obtain ⟨_, prev, evs₄, -, h₄, rfl⟩ := runs_orReturn_ok h₃
  obtain ⟨evsR, result, evs₅, hRes, h₅, rfl⟩ := runs_orReturn_ok h₄
  obtain ⟨evsF, ⟨cont, host⟩, evs₆, hF, h₆, rfl⟩ := runs_orReturn_ok h₅
  obtain ⟨-, h₆⟩ := runs_ite_error h₆
  obtain ⟨_, _, evs₇, -, h₇, rfl⟩ := runs_orReturn_ok h₆
  obtain ⟨_, _, evs₈, -, h₈, rfl⟩ := runs_orReturn_ok h₇
  obtain ⟨evsV, _, evs₉, hV, -, rfl⟩ := runs_orReturn_ok h₈
  obtain ⟨hcn, hcs, -⟩ := runs_validateInterface_ok hV
  obtain ⟨hc, hv⟩ := runs_findInterfaces hF
  rw [newResultFromResult, runs_call_ret] at hRes
  subst hRes
  refine ⟨prev, result, by simp, ?_, fun intf hi hne => ?_⟩
  · -- the container interface is not the empty one the loop started with, which has no name
    rcases hc with rfl | ⟨hm, hn, hs⟩
    · exact absurd rfl hcn
    · exact ⟨cont, hm, hn, hs, hs ▸ hcs rfl, evsV, hV, fun x hx => by simp [hx]⟩
  · obtain ⟨evs', hV', hsub⟩ := hv intf hi hne
    exact ⟨evs', hV', fun x hx => by simp [hsub hx]⟩

end Interfaces

/-- A previous result listing a host interface in a namespace, then `eth0` in another namespace,
then `eth0` in the container's. -/
def strayResult : Result :=
  ⟨[⟨"veth1", "", "/var/run/netns/other"⟩, ⟨"eth0", "", "/var/run/netns/elsewhere"⟩,
    ⟨"eth0", "", "/var/run/netns/n1"⟩], [], []⟩

/-- The configuration `bridgeConf`, handed a previous result. -/
def prevConf : NetConf := { bridgeConf with rawPrevResult := some "prevResult" }

/-- The answers of a verify of `attachArgs` with the previous result `strayResult`, every link
being a veth with no MAC. -/
def strayAnswers : (c : Call) → c.Resp
  | .loadConf _ => .ok prevConf
  | .loadConfFromCache _ => .ok ⟨bridgeConf, "", false⟩
  | .parsePrevResult _ | .newResultFromResult _ => .ok strayResult
  | .linkByName _ name => .ok ⟨name, "", true⟩
  | .isBridgePresent .. => .ok true
  | .findInterfacesWithError _ => .ok []
  | .getOFPortVlanState .. => .ok ⟨"trunk", none, []⟩
  | .newOvsDriver _ | .newOvsBridgeDriver .. | .getNS _ | .nsDo _ | .validateExpectedInterfaceIPs ..
  | .validateExpectedRoute .. => .ok ()
  | c => c.fail

/-- The calls of that verify. -/
def strayRun : List Event :=
  [⟨.loadConf "{}", .ok prevConf⟩,
   ⟨.newOvsDriver "", .ok ()⟩,
   ⟨.loadConfFromCache "c1-eth0", .ok ⟨bridgeConf, "", false⟩⟩,
   ⟨.parsePrevResult "prevResult", .ok strayResult⟩,
   ⟨.newResultFromResult strayResult, .ok strayResult⟩,
   ⟨.linkByName "" "veth1", .ok ⟨"veth1", "", true⟩⟩,
   ⟨.getNS "/var/run/netns/n1", .ok ()⟩,
   ⟨.nsDo "/var/run/netns/n1", .ok ()⟩,
   ⟨.linkByName "/var/run/netns/n1" "eth0", .ok ⟨"eth0", "", true⟩⟩,
   ⟨.validateExpectedInterfaceIPs "/var/run/netns/n1" "eth0" [], .ok ()⟩,
   ⟨.validateExpectedRoute "/var/run/netns/n1" [], .ok ()⟩,
   ⟨.newOvsBridgeDriver "br0" "", .ok ()⟩,
   ⟨.isBridgePresent "br0" "br0", .ok true⟩,
   ⟨.findInterfacesWithError "br0", .ok []⟩,
   ⟨.getOFPortVlanState "br0" "veth1", .ok ⟨"trunk", none, []⟩⟩]

theorem cmdCheck_ok_interfaces_stray :
    Runs (cmdCheck (fun containerID ifName => containerID ++ "-" ++ ifName) (fun _ => false)
      attachArgs) strayRun (.ok ()) ∧
    ∃ N R, ⟨.loadConf attachArgs.stdinData, .ok N⟩ ∈ strayRun ∧
      ⟨.loadConfFromCache (attachArgs.containerID ++ "-" ++ attachArgs.ifName), .ok R⟩ ∈ strayRun ∧
      (R.userspaceMode = false → ∃ prev result, ⟨.newResultFromResult prev, .ok result⟩ ∈ strayRun ∧
        (∃ cont ∈ result.interfaces, cont.name = attachArgs.ifName ∧
          cont.sandbox = attachArgs.netns ∧ attachArgs.netns ≠ "" ∧
          ∃ evsV, Runs (validateInterface attachArgs.netns cont false
            ((fun _ => false : String → Bool) N.deviceID)) evsV (.ok ()) ∧ evsV ⊆ strayRun) ∧
        ∀ intf ∈ result.interfaces, intf.name ≠ attachArgs.ifName →
          ∃ evsV, Runs (validateInterface "" intf true ((fun _ => false : String → Bool) N.deviceID))
            evsV (.ok ()) ∧ evsV ⊆ strayRun) :=
  have h : Runs (cmdCheck (fun containerID ifName => containerID ++ "-" ++ ifName) (fun _ => false)
      attachArgs) strayRun (.ok ()) := runs_trace strayAnswers _
  ⟨h, cmdCheck_ok_interfaces h⟩

/-- A verify returns nil on `strayResult`: its host interface `veth1` lies in a namespace, and the
`eth0` in another namespace is never looked up on the host. -/
theorem cmdCheck_accepts_stray_interfaces :
    Runs (cmdCheck (fun containerID ifName => containerID ++ "-" ++ ifName) (fun _ => false)
      attachArgs) strayRun (.ok ()) ∧
    ⟨.newResultFromResult strayResult, .ok strayResult⟩ ∈ strayRun ∧
    ⟨"veth1", "", "/var/run/netns/other"⟩ ∈ strayResult.interfaces ∧
    ⟨"eth0", "", "/var/run/netns/elsewhere"⟩ ∈ strayResult.interfaces ∧
    ∀ r, ⟨.linkByName "" "eth0", r⟩ ∉ strayRun := by
  refine ⟨runs_trace strayAnswers _, by simp [strayRun], by simp [strayResult],
    by simp [strayResult], fun r hr => ?_⟩
  simp [strayRun] at hr

/-! ### A verify only asks -/

section Queries

variable {getCRef : String → String → String} {isOvsHardwareOffloadEnabled : String → Bool}

theorem validateInterface_callsOnly (netns : String) (intf : Interface) (isHost hwOffload : Bool) :
    (validateInterface netns intf isHost hwOffload).CallsOnly fun c => c.isQuery = true := by
  unfold validateInterface
  refine .ite trivial (.bind (show (linkByName netns intf.name).CallsOnly _ from ⟨rfl, fun _ => trivial⟩)
    fun r => ?_)
  rcases r with _ | _
  · trivial
  · exact .ite trivial (.ite trivial (.ite trivial trivial))

theorem findInterfaces_callsOnly (args : CmdArgs) (hwOffload : Bool) (intfs : List Interface)
    (acc : Interface × Interface) :
    (findInterfaces args hwOffload acc intfs).CallsOnly fun c => c.isQuery = true := by
  induction intfs generalizing acc with
  | nil => trivial
  | cons intf rest ih =>
    unfold findInterfaces
    split
    · exact ih _
    · exact .orReturn (validateInterface_callsOnly _ _ _ _) fun _ => ih _

theorem validateOvs_callsOnly (netconf : NetConf) (hostIfname : String) :
    (validateOvs netconf hostIfname).CallsOnly fun c => c.isQuery = true := by
  unfold validateOvs
  exact .orReturn ⟨rfl, fun _ => trivial⟩ fun _ => .orReturn ⟨rfl, fun _ => trivial⟩ fun _ =>
    .ite trivial (.orReturn ⟨rfl, fun _ => trivial⟩ fun _ =>
    .ite trivial (.orReturn ⟨rfl, fun _ => trivial⟩ fun _ => trivial))

theorem cmdCheck_callsOnly (args : CmdArgs) :
    (cmdCheck getCRef isOvsHardwareOffloadEnabled args).CallsOnly fun c => c.isQuery = true := by
  unfold cmdCheck checkSetup
  refine .orReturn (.orReturn ⟨rfl, fun _ => trivial⟩ fun _ =>
    .orReturn (getEnvArgs_callsOnly rfl) fun _ => ?_) fun _ => ?_
  · exact .orReturn ⟨rfl, fun _ => trivial⟩ fun _ =>
      .orReturn (getBridgeName_callsOnly (fun _ => by rfl) (fun _ => by rfl) _ _ _) fun _ =>
      .orReturn ⟨rfl, fun _ => trivial⟩ fun _ => trivial
  refine .orReturn trivial fun _ => .ite trivial
    (.orReturn (.ite ⟨rfl, fun _ => trivial⟩ trivial) fun _ => ?_)
  split
  · trivial
  exact .orReturn ⟨rfl, fun _ => trivial⟩ fun _ => .orReturn ⟨rfl, fun _ => trivial⟩ fun _ =>
    .orReturn (findInterfaces_callsOnly _ _ _ _) fun ⟨_, _⟩ => .ite trivial
    (.orReturn ⟨rfl, fun _ => trivial⟩ fun _ => .orReturn ⟨rfl, fun _ => trivial⟩ fun _ =>
    .orReturn (validateInterface_callsOnly _ _ _ _) fun _ =>
    .orReturn ⟨rfl, fun _ => trivial⟩ fun _ => .orReturn ⟨rfl, fun _ => trivial⟩ fun _ =>
    validateOvs_callsOnly _ _)

/-- **A verify changes nothing.** Whatever its collaborators answer, and wherever it is cut
short, every call of `CmdCheck` only asks (`OvsCni.Call.isQuery`): it saves or drops no cache
record, creates or deletes no port, link or address, moves no virtual function, runs neither the
IPAM plugin's add nor its delete, and writes no result – so the cache store is left as it
was. -/
theorem cmdCheck_changes_nothing {args : CmdArgs} {evs : List Event}
    (h : Reaches (cmdCheck getCRef isOvsHardwareOffloadEnabled args) evs) :
    (∀ ev ∈ evs, ev.1.isQuery = true) ∧ ∀ st : Store, st.after evs = st := by
  have hq := h.calls _ (cmdCheck_callsOnly args)
  exact ⟨hq, fun _ => Store.after_of_forall fun ev hev => Call.writesCache_of_isQuery (hq ev hev)⟩

end Queries

theorem cmdCheck_changes_nothing_ipamCheck :
    Reaches (cmdCheck (fun containerID ifName => containerID ++ "-" ++ ifName) (fun _ => false)
      attachArgs) ((cmdCheck (fun containerID ifName => containerID ++ "-" ++ ifName)
        (fun _ => false) attachArgs).trace checkAnswers).1 ∧
    (∀ ev ∈ ((cmdCheck (fun containerID ifName => containerID ++ "-" ++ ifName) (fun _ => false)
      attachArgs).trace checkAnswers).1, ev.1.isQuery = true) ∧
    ∀ st : Store, st.after ((cmdCheck (fun containerID ifName => containerID ++ "-" ++ ifName)
      (fun _ => false) attachArgs).trace checkAnswers).1 = st :=
  have h := (runs_trace checkAnswers (cmdCheck (fun containerID ifName =>
    containerID ++ "-" ++ ifName) (fun _ => false) attachArgs)).reaches
  ⟨h, cmdCheck_changes_nothing h⟩

end OvsCni
