import OvsCni.CmdAdd

/-!
# What `CmdAdd` reports for the container

With no MAC asked for and no hardware offload, `CmdAdd` derives the container's MAC from an
address that IPAM gave: the first one of the converted result, whatever its family, handed to
`IPAddrToHWAddr` (`OvsCni.ipAddrToHWAddr`), which takes the IPv4 branch or the hash branch
by `To4` of that address alone. It sets the MAC on the container link and reports it for the
container interface, second in the printed result.

`OvsCni.cmdAdd_container_mac` states this of every run. In a dual-stack result that lists an
IPv6 address first, the MAC is therefore the hash of the IPv6 address, not the IPv4 octets
(`OvsCni.cmdAdd_dual_stack_mac`).

The addresses of the printed result are re-indexed twice: first against the list holding the
container interface alone, then against the final list by a match on the interface name, the
last match winning. When the container interface is named `IfName`, the last match is the
container interface, so every address ends pointing at index `1`, whether or not the host
interface carries the same name (`OvsCni.cmdAdd_reports_container_index`).
-/

namespace OvsCni

open Prog

/-! ### The MAC of the container -/

section Mac

variable {netns ifName : String} {contIface : Interface} {ipc : IPConfig} {rest : List IPConfig}
  {evs : List Event}

/-- With no MAC asked for and no offload, the only MAC set is the one derived from the first
address, and the container interface is reported with it. -/
theorem runs_assignContainerMac {r : Except String Interface}
    (h : Runs (assignContainerMac netns ifName "" false contIface (ipc :: rest)) evs r) :
    (∀ ev ∈ evs, ev.1.ofIpamBlock = true →
      ev.1 = .linkSetHardwareAddr netns ifName (ipAddrToHWAddr ipc.address)) ∧
    ∀ c, r = .ok c → c = { contIface with mac := (ipAddrToHWAddr ipc.address).string } ∧
      ⟨.linkSetHardwareAddr netns ifName (ipAddrToHWAddr ipc.address), .ok ()⟩ ∈ evs := by
  simp only [assignContainerMac, beq_self_eq_true, Bool.not_false, Bool.and_self, assignMacToLink,
    linkByName, linkSetHardwareAddr, orReturn, call_bind, ret_bind, runs_call] at h
  obtain ⟨r₁, evs₁, rfl, h₁⟩ := h
  rcases r₁ with e | l
  · obtain ⟨rfl, rfl⟩ := runs_ret.mp h₁
    exact ⟨by simp [Call.ofIpamBlock], nofun⟩
  obtain ⟨r₂, evs₂, rfl, h₂⟩ := runs_call.mp h₁
  rcases r₂ with e | ⟨⟩
  · obtain ⟨rfl, rfl⟩ := runs_ret.mp h₂
    exact ⟨by simp [Call.ofIpamBlock], nofun⟩
  obtain ⟨rfl, rfl⟩ := runs_ret.mp h₂
  exact ⟨by simp [Call.ofIpamBlock], fun c hc => ⟨(Except.ok.inj hc).symm, by simp⟩⟩

/-- The same for the whole closure run in the container's namespace: configuring the addresses
and sending the announcements set no other MAC, and the interface is reported as assigned. -/
theorem runs_configureContainer_mac {newResult : Result} {r : Except String Interface}
    (h : Runs (configureContainer netns ifName "" false contIface newResult) evs r)
    (hips : newResult.ips = ipc :: rest) :
    (∀ ev ∈ evs, ev.1.ofIpamBlock = true →
      ev.1 = .linkSetHardwareAddr netns ifName (ipAddrToHWAddr ipc.address)) ∧
    ∀ c, r = .ok c → c = { contIface with mac := (ipAddrToHWAddr ipc.address).string } ∧
      ⟨.linkSetHardwareAddr netns ifName (ipAddrToHWAddr ipc.address), .ok ()⟩ ∈ evs := by
  unfold configureContainer at h
  rw [hips] at h
  rcases runs_orReturn.mp h with ⟨e, h₁, rfl⟩ | ⟨evs₁, c, evs₂, h₁, h₂, rfl⟩
  · exact ⟨(runs_assignContainerMac h₁).1, nofun⟩
  obtain ⟨hA, hc⟩ := runs_assignContainerMac h₁
  obtain ⟨rfl, hmem⟩ := hc c rfl
  have hrest := h₂.calls (fun c => c.ofIpamBlock = false) <|
    .orReturn ⟨rfl, fun _ => trivial⟩ fun _ => .orReturn ⟨rfl, fun _ => trivial⟩ fun _ =>
      .bind (sendGarps_callsOnly (fun _ => by rfl) _) fun _ => trivial
  refine ⟨fun ev hev hb => ?_, fun c' hc' => ?_⟩
  · rcases List.mem_append.mp hev with hev | hev
    · exact hA ev hev hb
    · rw [hrest ev hev] at hb
      cases hb
  · subst hc'
    obtain ⟨_, _, _, -, h₃, rfl⟩ := runs_orReturn_ok h₂
    obtain ⟨_, _, _, -, h₄, rfl⟩ := runs_orReturn_ok h₃
    obtain ⟨_, _, _, -, h₅, rfl⟩ := runs_bind.mp h₄
    obtain ⟨rfl, hc'⟩ := runs_ret.mp h₅
    exact ⟨(Except.ok.inj hc'), List.mem_append_left _ hmem⟩

end Mac

/-- The MACs of a run of `CmdAdd` on `args`: every MAC set is set on the container link and is
the one derived from the first address of a converted IPAM result; and a printed result whose
first address is `ipc` reports the MAC derived from `ipc` for its second interface, and that MAC
was set. -/
def MacFromFirstAddress (args : CmdArgs) (evs : List Event) : Prop :=
  (∀ n i m r, ⟨.linkSetHardwareAddr n i m, r⟩ ∈ evs → ∃ r' nr ipc rest,
    ⟨.newResultFromResult r', .ok nr⟩ ∈ evs ∧ nr.ips = ipc :: rest ∧
    n = args.netns ∧ i = args.ifName ∧ m = ipAddrToHWAddr ipc.address) ∧
  (∀ result v r, ⟨.printResult result v, r⟩ ∈ evs → ∀ ipc rest, result.ips = ipc :: rest →
    ⟨.linkSetHardwareAddr args.netns args.ifName (ipAddrToHWAddr ipc.address), .ok ()⟩ ∈ evs ∧
    (result.interfaces.get? 1).map Interface.mac = some (ipAddrToHWAddr ipc.address).string)

section Frame

variable {args : CmdArgs} {evs evs₁ evs₂ : List Event}

/-- A run that neither sets a MAC nor prints a result says nothing against the MACs. -/
theorem macFromFirstAddress_of_quiet (h : ∀ ev ∈ evs, ev.1.ofIpamBlock = false) :
    MacFromFirstAddress args evs :=
  ⟨fun _ _ _ _ hm => (nomatch h _ hm), fun _ _ _ hm => nomatch h _ hm⟩

/-- The MACs of a run stay right when calls that neither set a MAC nor print a result come
before and after it. -/
theorem MacFromFirstAddress.append (h : MacFromFirstAddress args evs)
    (h₁ : ∀ ev ∈ evs₁, ev.1.ofIpamBlock = false) (h₂ : ∀ ev ∈ evs₂, ev.1.ofIpamBlock = false) :
    MacFromFirstAddress args (evs₁ ++ evs ++ evs₂) := by
  -- the calls that set a MAC or print a result are those of `evs`
  have hin : ∀ ev ∈ evs₁ ++ evs ++ evs₂, ev.1.ofIpamBlock = true → ev ∈ evs := by
    intro ev hm hb
    rcases List.mem_append.mp hm with hm | hm
    · rcases List.mem_append.mp hm with hm | hm
      · exact absurd ((h₁ ev hm).symm.trans hb) Bool.false_ne_true
      · exact hm
    · exact absurd ((h₂ ev hm).symm.trans hb) Bool.false_ne_true
  have hsub : evs ⊆ evs₁ ++ evs ++ evs₂ := fun _ hm => by simp [hm]
  refine ⟨fun n i m r hm => ?_, fun result v r hm ipc rest hips => ?_⟩
  · obtain ⟨r', nr, ipc, rest, hnr, hrest⟩ := h.1 n i m r (hin _ hm rfl)
    exact ⟨r', nr, ipc, rest, hsub hnr, hrest⟩
  · obtain ⟨hset, hrep⟩ := h.2 result v r (hin _ hm rfl) ipc rest hips
    exact ⟨hsub hset, hrep⟩

end Frame

section IpamMac

variable {isOvsHardwareOffloadEnabled : String → Bool} {args : CmdArgs} {s : AddSetup}
  {evs : List Event} {x : Exit} {inv : Bool}

/-- The MAC in the IPAM block, with no MAC asked for and no offload: every MAC set is the one
derived from the first address of the converted IPAM result, on the container link; and a printed
result with a first address `ipc` reports the container interface, second in its list, with the
MAC derived from `ipc`, which was set. -/
theorem runs_addIpam_mac (h : Runs (addIpam isOvsHardwareOffloadEnabled args s) evs (x, inv))
    (hmac : s.mac = "") (hoff : isOvsHardwareOffloadEnabled s.netconf.deviceID = false) :
    MacFromFirstAddress args evs := by
  unfold addIpam at h
  unfold MacFromFirstAddress
  split at h
  swap
  · obtain ⟨ret, evs₁, rfl, h₁⟩ := runs_call.mp h
    obtain ⟨rfl, -⟩ := runs_ret.mp h₁
    refine ⟨fun _ _ _ _ hm => by simp at hm, fun result v r hm ipc rest hips => ?_⟩
    simp only [List.mem_singleton, Sigma.mk.inj_iff, Call.printResult.injEq] at hm
    rw [hm.1.1] at hips
    cases hips
  obtain ⟨r₁, evs₁, rfl, h₁⟩ := runs_call.mp h
  rcases r₁ with e | r₁
  · obtain ⟨rfl, -⟩ := runs_ret.mp h₁
    exact ⟨fun _ _ _ _ hm => by simp at hm, fun _ _ _ hm => by simp at hm⟩
  obtain ⟨r₂, evs₂, rfl, h₂⟩ := runs_call.mp h₁
  rcases r₂ with e | nr
  · obtain ⟨rfl, -⟩ := runs_ret.mp h₂
    exact ⟨fun _ _ _ _ hm => by simp at hm, fun _ _ _ hm => by simp at hm⟩
  dsimp only [Prog.bind] at h₂
  split at h₂
  · obtain ⟨rfl, -⟩ := runs_ret.mp h₂
    exact ⟨fun _ _ _ _ hm => by simp at hm, fun _ _ _ hm => by simp at hm⟩
  rename_i hlen
  obtain ⟨ipc, rest, hnr⟩ : ∃ ipc rest, nr.ips = ipc :: rest :=
    List.exists_cons_of_ne_nil (by simpa [List.length_eq_zero] using hlen)
  have hnrmem : ⟨.newResultFromResult r₁, .ok nr⟩ ∈
      (⟨.ipamExecAdd s.netconf.ipam.type args.stdinData, .ok r₁⟩ ::
        ⟨.newResultFromResult r₁, .ok nr⟩ :: evs₂ : List Event) := by
    simp
  obtain ⟨evs₃, r₃, evs₄, hW, h₄, rfl⟩ := runs_bind.mp h₂
  have hWq := hW.calls (fun c => c.ofIpamBlock = false) (waitLinkUp_callsOnly rfl rfl)
  rcases r₃ with e | ⟨⟩
  · obtain ⟨rfl, -⟩ := runs_ret.mp h₄
    refine ⟨fun n i m r hm => ?_, fun result v r hm => ?_⟩ <;>
    · simp only [List.mem_cons, List.append_nil, Sigma.mk.inj_iff, reduceCtorEq, false_and,
        false_or] at hm
      exact nomatch hWq _ hm
  obtain ⟨evs₅, r₅, evs₆, hC, h₆, rfl⟩ := runs_bind.mp h₄
  rw [hmac, hoff] at hC
  rcases runs_orReturn.mp hC with ⟨e, hN, rfl⟩ | ⟨evsN, _, evsK, hN, hK, rfl⟩
  · obtain ⟨rfl, -⟩ := runs_ret.mp h₆
    obtain ⟨_, _, rfl, hN'⟩ := runs_call.mp hN
    obtain ⟨rfl, -⟩ := runs_ret.mp hN'
    refine ⟨fun n i m r hm => ?_, fun result v r hm => ?_⟩ <;>
    · simp only [List.mem_cons, List.mem_append, List.append_nil, List.mem_singleton,
        Sigma.mk.inj_iff, reduceCtorEq, false_and, false_or, or_false, List.not_mem_nil] at hm
      exact nomatch hWq _ hm
  obtain ⟨_, _, rfl, hN'⟩ := runs_call.mp hN
  obtain ⟨rfl, -⟩ := runs_ret.mp hN'
  obtain ⟨hKmac, hKok⟩ := runs_configureContainer_mac hK
    (show _ = ({ interface := some 0, address := ipc.address } : IPConfig) ::
      rest.map fun ipc => { ipc with interface := some 0 } by rw [hnr]; rfl)
  have hlsha : ∀ n i m r, ⟨.linkSetHardwareAddr n i m, r⟩ ∈ evsK → n = args.netns ∧
      i = args.ifName ∧ m = ipAddrToHWAddr ipc.address := fun n i m r hm => by
    simpa using hKmac _ hm rfl
  rcases r₅ with e | c
  · obtain ⟨rfl, -⟩ := runs_ret.mp h₆
    refine ⟨fun n i m r hm => ?_, fun result v r hm => ?_⟩ <;>
    simp only [List.mem_cons, List.mem_append, List.append_nil, List.mem_singleton,
      Sigma.mk.inj_iff, reduceCtorEq, false_and, false_or, or_false, List.not_mem_nil] at hm <;>
    rcases hm with hm | hm
    · exact nomatch hWq _ hm
    · obtain ⟨rfl, rfl, rfl⟩ := hlsha _ _ _ _ hm
      exact ⟨r₁, nr, ipc, rest, by simp, hnr, rfl, rfl, rfl⟩
    · exact nomatch hWq _ hm
    · exact nomatch hKmac _ hm rfl
  obtain ⟨rfl, hmemK⟩ := hKok c rfl
  obtain ⟨ret, evs₇, rfl, h₇⟩ := runs_call.mp h₆
  obtain ⟨rfl, -⟩ := runs_ret.mp h₇
  refine ⟨fun n i m r hm => ?_, fun result v r hm => ?_⟩ <;>
  simp only [List.mem_cons, List.mem_append, List.append_nil, List.mem_singleton,
    Sigma.mk.inj_iff, reduceCtorEq, false_and, false_or, or_false, List.not_mem_nil,
    Call.printResult.injEq] at hm
  · rcases hm with hm | hm
    · exact nomatch hWq _ hm
    · obtain ⟨rfl, rfl, rfl⟩ := hlsha _ _ _ _ hm
      exact ⟨r₁, nr, ipc, rest, by simp, hnr, rfl, rfl, rfl⟩
  · rcases hm with hm | hm | ⟨⟨rfl, -⟩, -⟩
    · exact nomatch hWq _ hm
    · exact nomatch hKmac _ hm rfl
    intro ipc' rest' hips
    obtain ⟨hif, had⟩ := fixIpIndices_interfaces_addresses args.ifName
      { interfaces := [s.hostIface, { s.contIface with mac := (ipAddrToHWAddr ipc.address).string }],
        ips := nr.ips.map fun ipc => { ipc with interface := some 0 }, routes := nr.routes }
    rw [hips, hnr] at had
    simp only [List.map_cons, List.cons.injEq] at had
    rw [had.1, hif]
    exact ⟨by simp [hmemK], rfl⟩

end IpamMac

/-! ### The runs of `CmdAdd` -/

section Runs

variable {getCRef : String → String → String} {isOvsHardwareOffloadEnabled : String → Bool}
  {args : CmdArgs} {evs : List Event} {res : Except String Unit}

/-- **The MAC of the container interface.** In every run of `CmdAdd` whose environment
arguments ask for no MAC and whose configuration names a device without hardware offload, the
MACs are those of `OvsCni.MacFromFirstAddress`: derived from the first address of the converted
IPAM result, set on the container link and reported for the container interface. -/
theorem cmdAdd_container_mac (h : Runs (cmdAdd getCRef isOvsHardwareOffloadEnabled args) evs res)
    (hmac : ∀ e, ⟨.loadArgs args.args, .ok e⟩ ∈ evs → e.mac = "")
    (hoff : ∀ N, ⟨.loadConf args.stdinData, .ok N⟩ ∈ evs →
      isOvsHardwareOffloadEnabled N.deviceID = false) :
    MacFromFirstAddress args evs := by
  have hS := fun {evs s} (h : Runs (addSetup getCRef isOvsHardwareOffloadEnabled args) evs s) =>
    fun ev hev => (h.calls _ (addSetup_callsOnly args) ev hev).2.2
  have hA := fun {evs s r} (h : Runs (addAttach args s) evs r) =>
    fun ev hev => (h.calls _ (addAttach_callsOnly s) ev hev).2.2.2
  rcases runs_cmdAdd h with ⟨e, h₁, -⟩ | ⟨s, evs₁, evs₂, h₁, rfl, ⟨e, h₂, -⟩ |
    ⟨evsA, evsI, evsR, x, inv, hA', hI, hR, rfl, -⟩⟩
  · exact macFromFirstAddress_of_quiet (hS h₁)
  · exact macFromFirstAddress_of_quiet fun ev hev =>
      (List.mem_append.mp hev).elim (hS h₁ ev) (hA h₂ ev)
  obtain ⟨env, N, evsE, -, -, -, hE, hEsub, hf, hN, hsN, -⟩ := runs_addSetup_ok h₁
  have hs : s.mac = "" := by
    rcases runs_getEnvArgs_ok hE with ⟨-, rfl, -⟩ | ⟨-, e, rfl, rfl⟩
    · exact (Prod.mk.inj hf.symm).1
    · rw [← (Prod.mk.inj hf).1]
      exact hmac e (List.mem_append_left _ (hEsub (List.mem_singleton_self _)))
  have ho : isOvsHardwareOffloadEnabled s.netconf.deviceID = false := by
    rw [hsN]
    exact hoff N (by simp [hN])
  have hR' := fun ev hev => (hR.calls _ (addRollback_callsOnly _ _ _ _ _ _ _) ev hev).2.2
  simpa only [List.append_assoc] using MacFromFirstAddress.append (runs_addIpam_mac hI hs ho)
    (fun ev hev => (List.mem_append.mp hev).elim (hS h₁ ev) (hA hA' ev)) hR'

end Runs


/-! ### A dual-stack result -/

/-- The address `fd00::1`. -/
def ipv6Addr : IP := [0xfd, 0, 0, 0, 0, 0, 0, 0, 0, 0, 0, 0, 0, 0, 0, 1]

/-- The address `10.0.0.5`. -/
def ipv4Addr : IP := [10, 0, 0, 5]

/-- The MAC derived from `fd00::1`, by the hash branch: `0a:58:cb:2a:2b:4d`. -/
theorem ipAddrToHWAddr_ipv6Addr : ipAddrToHWAddr ipv6Addr = [0x0A, 0x58, 0xcb, 0x2a, 0x2b, 0x4d] := by
  set_option maxRecDepth 20000 in rfl

/-- An IPAM result listing `fd00::1` before `10.0.0.5`. -/
def dualStackResult : Result := ⟨[], [⟨none, ipv6Addr⟩, ⟨none, ipv4Addr⟩], []⟩

/-- The configuration `bridgeConf` with the IPAM plugin `host-local`. -/
def ipamConf : NetConf := { bridgeConf with ipam := ⟨"host-local"⟩ }

/-- The answers of a run in which every call succeeds and IPAM gives `dualStackResult`. -/
def dualStackAnswers : (c : Call) → c.Resp
  | .loadConf _ => .ok ipamConf
  | .findInterfacesWithError _ => .ok []
  | .setupVeth _ contIfaceName _ _ => .ok (⟨"veth1", "", true⟩, ⟨contIfaceName, "", true⟩)
  | .linkByName _ name => .ok ⟨name, "", true⟩
  | .ipamExecAdd .. | .newResultFromResult _ => .ok dualStackResult
  | .newOvsDriver _ | .newOvsBridgeDriver .. | .getNS _ | .saveCache .. | .nsDo _ | .createPort ..
  | .linkSetUp .. | .linkSetHardwareAddr .. | .configureIface .. | .interfaceByName ..
  | .gratuitousArp .. | .printResult .. => .ok ()
  | c => c.fail

/-- The calls of `CmdAdd` for `attachArgs` with the IPAM result `dualStackResult`. -/
def dualStackRun : List Event :=
  [⟨.loadConf "{}", .ok ipamConf⟩,
   ⟨.newOvsDriver "", .ok ()⟩,
   ⟨.newOvsBridgeDriver "br0" "", .ok ()⟩,
   ⟨.findInterfacesWithError "br0", .ok []⟩,
   ⟨.getNS "/var/run/netns/n1", .ok ()⟩,
   ⟨.saveCache "c1-eth0" ⟨ipamConf, "", false⟩, .ok ()⟩,
   ⟨.nsDo "/var/run/netns/n1", .ok ()⟩,
   ⟨.setupVeth "/var/run/netns/n1" "eth0" 1500 "", .ok (⟨"veth1", "", true⟩, ⟨"eth0", "", true⟩)⟩,
   ⟨.linkByName "/var/run/netns/n1" "eth0", .ok ⟨"eth0", "", true⟩⟩,
   ⟨.linkSetUp "/var/run/netns/n1" "eth0", .ok ()⟩,
   ⟨.linkByName "" "veth1", .ok ⟨"veth1", "", true⟩⟩,
   ⟨.createPort "br0" "veth1" "/var/run/netns/n1" "eth0" "" 0 0 [] "trunk" "" "", .ok ()⟩,
   ⟨.linkByName "" "veth1", .ok ⟨"veth1", "", true⟩⟩,
   ⟨.linkSetUp "" "veth1", .ok ()⟩,
   ⟨.ipamExecAdd "host-local" "{}", .ok dualStackResult⟩,
   ⟨.newResultFromResult dualStackResult, .ok dualStackResult⟩,
   ⟨.nsDo "/var/run/netns/n1", .ok ()⟩,
   ⟨.linkByName "/var/run/netns/n1" "eth0", .ok ⟨"eth0", "", true⟩⟩,
   ⟨.linkSetHardwareAddr "/var/run/netns/n1" "eth0" (ipAddrToHWAddr ipv6Addr), .ok ()⟩,
   ⟨.configureIface "/var/run/netns/n1" "eth0"
      ⟨[⟨"eth0", (ipAddrToHWAddr ipv6Addr).string, "/var/run/netns/n1"⟩],
        [⟨some 0, ipv6Addr⟩, ⟨some 0, ipv4Addr⟩], []⟩, .ok ()⟩,
   ⟨.interfaceByName "/var/run/netns/n1" "eth0", .ok ()⟩,
   ⟨.gratuitousArp "/var/run/netns/n1" ipv4Addr "eth0", .ok ()⟩,
   ⟨.printResult
      ⟨[⟨"veth1", "", ""⟩, ⟨"eth0", (ipAddrToHWAddr ipv6Addr).string, "/var/run/netns/n1"⟩],
        [⟨some 1, ipv6Addr⟩, ⟨some 1, ipv4Addr⟩], []⟩ "0.4.0", .ok ()⟩]

/-- The result lists the IPv4 address `10.0.0.5`, yet the container link gets
`0a:58:cb:2a:2b:4d`, derived from `fd00::1`, listed first. -/
theorem cmdAdd_dual_stack_mac :
    Runs (cmdAdd (fun containerID ifName => containerID ++ "-" ++ ifName) (fun _ => false) attachArgs)
      dualStackRun (.ok ()) ∧
    ⟨.linkSetHardwareAddr "/var/run/netns/n1" "eth0" [0x0A, 0x58, 0xcb, 0x2a, 0x2b, 0x4d], .ok ()⟩ ∈
      dualStackRun := by
  refine ⟨runs_trace dualStackAnswers _, ?_⟩
  rw [← ipAddrToHWAddr_ipv6Addr]
  simp only [dualStackRun, List.mem_cons, true_or, or_true]

theorem cmdAdd_container_mac_dualStack :
    (∀ e, ⟨.loadArgs attachArgs.args, .ok e⟩ ∈ dualStackRun → e.mac = "") ∧
    (∀ N, ⟨.loadConf attachArgs.stdinData, .ok N⟩ ∈ dualStackRun →
      (fun _ => false : String → Bool) N.deviceID = false) ∧
    MacFromFirstAddress attachArgs dualStackRun :=
  have hmac : ∀ e, ⟨.loadArgs attachArgs.args, .ok e⟩ ∈ dualStackRun → e.mac = "" := by
    intro e he
    simp [dualStackRun] at he
  have h : Runs (cmdAdd (fun containerID ifName => containerID ++ "-" ++ ifName) (fun _ => false)
      attachArgs) dualStackRun (.ok ()) := runs_trace dualStackAnswers _
  ⟨hmac, fun _ _ => rfl, cmdAdd_container_mac h hmac fun _ _ => rfl⟩

/-! ### The interfaces and indices of the printed result -/

/-- The closure run in the container's namespace reports the container interface under its own
name and namespace; only its MAC may change. -/
theorem runs_configureContainer_iface {netns ifName mac : String} {offload : Bool}
    {contIface c : Interface} {newResult : Result} {evs : List Event}
    (h : Runs (configureContainer netns ifName mac offload contIface newResult) evs (.ok c)) :
    c.name = contIface.name ∧ c.sandbox = contIface.sandbox := by
  obtain ⟨evs₁, c', evs₂, h₁, h₂, rfl⟩ := runs_orReturn_ok h
  obtain ⟨_, _, _, -, h₃, rfl⟩ := runs_orReturn_ok h₂
  obtain ⟨_, _, _, -, h₄, rfl⟩ := runs_orReturn_ok h₃
  obtain ⟨_, _, _, -, h₅, rfl⟩ := runs_bind.mp h₄
  obtain ⟨rfl, ⟨⟩⟩ := runs_ret.mp h₅
  unfold assignContainerMac at h₁
  split at h₁
  · obtain ⟨_, _, _, -, h₆, rfl⟩ := runs_orReturn_ok h₁
    obtain ⟨_, _, _, -, h₇, rfl⟩ := runs_orReturn_ok h₆
    obtain ⟨rfl, ⟨⟩⟩ := runs_ret.mp h₇
    exact ⟨rfl, rfl⟩
  · obtain ⟨rfl, ⟨⟩⟩ := runs_ret.mp h₁
    exact ⟨rfl, rfl⟩

section Printed

variable {isOvsHardwareOffloadEnabled : String → Bool} {args : CmdArgs} {s : AddSetup}
  {evs : List Event} {x : Exit} {inv : Bool}

/-- **What an IPAM block returning nil printed**, when it ran the IPAM plugin: it converted the
plugin's result to `nr`, which has an address; its last call printed `nr` with the host interface
and the container interface as configured in the container, re-indexed by `fixIpIndices`, and no
call before printed anything. -/
theorem runs_addIpam_printed (h : Runs (addIpam isOvsHardwareOffloadEnabled args s) evs (x, inv))
    (hipam : s.netconf.ipam.type ≠ "" ∧ s.userspaceMode = false) (hret : x.ret = .ok ()) :
    ∃ r nr c pre, ⟨.newResultFromResult r, .ok nr⟩ ∈ pre ∧ nr.ips ≠ [] ∧
      c.name = s.contIface.name ∧ c.sandbox = s.contIface.sandbox ∧
      (∀ ev ∈ pre, ev.1.printsResult = false) ∧
      evs = pre ++ [⟨.printResult (fixIpIndices args.ifName
        ⟨[s.hostIface, c], nr.ips.map fun ipc => { ipc with interface := some 0 }, nr.routes⟩)
        s.netconf.cniVersion, .ok ()⟩] := by
  unfold addIpam at h
  rw [if_pos hipam] at h
  obtain ⟨r, evs₁, rfl, h₁⟩ := runs_call.mp h
  rcases r with e | r
  · obtain ⟨rfl, ⟨⟩⟩ := runs_ret.mp h₁
    cases hret
  obtain ⟨r₂, evs₂, rfl, h₂⟩ := runs_call.mp h₁
  rcases r₂ with e | nr
  · obtain ⟨rfl, ⟨⟩⟩ := runs_ret.mp h₂
    cases hret
  dsimp only [Prog.bind] at h₂
  split at h₂
  · obtain ⟨rfl, ⟨⟩⟩ := runs_ret.mp h₂
    cases hret
  rename_i hlen
  obtain ⟨evs₃, r₃, evs₄, hW, h₄, rfl⟩ := runs_bind.mp h₂
  rcases r₃ with e | ⟨⟩
  · obtain ⟨rfl, ⟨⟩⟩ := runs_ret.mp h₄
    cases hret
  obtain ⟨evs₅, r₅, evs₆, hC, h₆, rfl⟩ := runs_bind.mp h₄
  rcases r₅ with e | c
  · obtain ⟨rfl, ⟨⟩⟩ := runs_ret.mp h₆
    cases hret
  obtain ⟨ret, evs₇, rfl, h₇⟩ := runs_call.mp h₆
  obtain ⟨rfl, ⟨⟩⟩ := runs_ret.mp h₇
  cases hret
  obtain ⟨evsN, _, evsK, hN, hK, rfl⟩ := runs_orReturn_ok hC
  obtain ⟨w, _, rfl, hN'⟩ := runs_call.mp hN
  obtain ⟨rfl, -⟩ := runs_ret.mp hN'
  -- neither the wait for the port nor the container's configuration prints
  have hWq := hW.calls (fun c => c.printsResult = false) (waitLinkUp_callsOnly rfl rfl)
  have hKq := hK.calls (fun c => c.printsResult = false)
    (configureContainer_calls rfl (fun _ => rfl) (fun _ => rfl) rfl fun _ => rfl)
  obtain ⟨hn, hsb⟩ := runs_configureContainer_iface hK
  refine ⟨r, nr, c, ⟨.ipamExecAdd s.netconf.ipam.type args.stdinData, .ok r⟩ ::
    ⟨.newResultFromResult r, .ok nr⟩ :: (evs₃ ++ ⟨.nsDo args.netns, w⟩ :: evsK), by simp,
    fun h0 => hlen (by simp [h0]), hn, hsb, fun ev hev => ?_, by simp⟩
  simp only [List.mem_cons, List.mem_append] at hev
  rcases hev with rfl | rfl | hev | rfl | hev
  · rfl
  · rfl
  · exact hWq ev hev
  · rfl
  · exact hKq ev hev

end Printed

section Reported

variable {getCRef : String → String → String} {isOvsHardwareOffloadEnabled : String → Bool}
  {args : CmdArgs} {evs evs₁ : List Event} {s : AddSetup}

/-- **The interfaces and indices `CmdAdd` reports.** In a run of `CmdAdd` that returns nil, whose
set-up gave `s` – the IPAM plugin to be run, and a container interface named `IfName` returned by
the provisioner –, the converted IPAM result `nr` has an address, and the one result printed
lists exactly the host interface and the container interface, in that order, with the
addresses of `nr`, each pointing at index `1`, the container interface, whatever the number of
addresses and whatever the host interface is named. -/
theorem cmdAdd_reports_container_index
    (h : Runs (cmdAdd getCRef isOvsHardwareOffloadEnabled args) evs (.ok ()))
    (hs : Runs (addSetup getCRef isOvsHardwareOffloadEnabled args) evs₁ (.ok s)) (hpre : evs₁ <+: evs)
    (hipam : s.netconf.ipam.type ≠ "" ∧ s.userspaceMode = false)
    (hname : s.contIface.name = args.ifName) :
    ∃ r nr c, ⟨.newResultFromResult r, .ok nr⟩ ∈ evs ∧ nr.ips ≠ [] ∧ c.name = args.ifName ∧
      c.sandbox = s.contIface.sandbox ∧
      ∀ result v ret, ⟨.printResult result v, ret⟩ ∈ evs ↔
        result = ⟨[s.hostIface, c], nr.ips.map fun ipc => { ipc with interface := some 1 },
          nr.routes⟩ ∧ v = s.netconf.cniVersion ∧ ret = .ok () := by
  rcases runs_cmdAdd h with ⟨e, -, he⟩ | ⟨s', evs₁', evs₂, h₁, rfl, ⟨e, -, he⟩ |
    ⟨evsA, evsI, evsR, x, inv, hA, hI, hR, rfl, hret⟩⟩
  · cases he
  · cases he
  obtain ⟨rfl, ⟨⟩⟩ := Runs.eq_of_prefix hs h₁ hpre (List.prefix_append _ _)
  obtain ⟨r, nr, c, pre, hnr, hne, hcn, hcs, hpre', rfl⟩ := runs_addIpam_printed hI hipam hret.symm
  rw [fixIpIndices_pair _ _ (hcn.trans hname)]
  -- outside the IPAM block nothing prints
  have hS := hs.calls _ (addSetup_callsOnly args)
  have hA' := hA.calls _ (addAttach_callsOnly s)
  have hR' := hR.calls _ (addRollback_callsOnly _ _ _ _ _ _ _)
  refine ⟨r, nr, c, by simp [hnr], hne, hcn.trans hname, hcs, fun result v ret => ⟨fun hm => ?_, ?_⟩⟩
  · simp only [List.mem_append, List.mem_singleton] at hm
    rcases hm with hm | ((hm | hm | hm) | hm)
    · exact nomatch (hS _ hm).2.2
    · exact nomatch (hA' _ hm).2.2.2
    · exact nomatch hpre' _ hm
    · simpa only [Sigma.mk.inj_iff, Call.printResult.injEq, heq_iff_eq, List.map_map,
        Function.comp_def, and_assoc] using hm
    · exact nomatch (hR' _ hm).2.2
  · rintro ⟨rfl, rfl, rfl⟩
    simp

end Reported

/-- What the set-up of `CmdAdd` holds in the run `dualStackRun`. -/
def dualStackSetup : AddSetup :=
  ⟨"", "", "", ipamConf, ⟨"trunk", 0, []⟩, false, "", ⟨"veth1", "", ""⟩,
    ⟨"eth0", "", "/var/run/netns/n1"⟩⟩

theorem cmdAdd_reports_container_index_dualStack :
    Runs (cmdAdd (fun containerID ifName => containerID ++ "-" ++ ifName) (fun _ => false) attachArgs)
      dualStackRun (.ok ()) ∧
    Runs (addSetup (fun containerID ifName => containerID ++ "-" ++ ifName) (fun _ => false)
      attachArgs) (dualStackRun.take 11) (.ok dualStackSetup) ∧
    dualStackRun.take 11 <+: dualStackRun ∧
    (dualStackSetup.netconf.ipam.type ≠ "" ∧ dualStackSetup.userspaceMode = false) ∧
    dualStackSetup.contIface.name = attachArgs.ifName ∧
    ∃ r nr c, ⟨.newResultFromResult r, .ok nr⟩ ∈ dualStackRun ∧ nr.ips ≠ [] ∧
      c.name = attachArgs.ifName ∧ c.sandbox = dualStackSetup.contIface.sandbox ∧
      ∀ result v ret, ⟨.printResult result v, ret⟩ ∈ dualStackRun ↔
        result = ⟨[dualStackSetup.hostIface, c],
          nr.ips.map fun ipc => { ipc with interface := some 1 }, nr.routes⟩ ∧
          v = dualStackSetup.netconf.cniVersion ∧ ret = .ok () :=
  have h : Runs (cmdAdd (fun containerID ifName => containerID ++ "-" ++ ifName) (fun _ => false)
      attachArgs) dualStackRun (.ok ()) := runs_trace dualStackAnswers _
  have hs : Runs (addSetup (fun containerID ifName => containerID ++ "-" ++ ifName) (fun _ => false)
      attachArgs) (dualStackRun.take 11) (.ok dualStackSetup) :=
    runs_trace dualStackAnswers (addSetup (fun containerID ifName => containerID ++ "-" ++ ifName)
      (fun _ => false) attachArgs)
  have hipam : dualStackSetup.netconf.ipam.type ≠ "" ∧ dualStackSetup.userspaceMode = false :=
    ⟨by decide, rfl⟩
  ⟨h, hs, List.take_prefix _ _, hipam, rfl,
    cmdAdd_reports_container_index h hs (List.take_prefix _ _) hipam rfl⟩

end OvsCni
