import OvsCni.Helpers

/-!
# Detach: `CmdDel`

`CmdDel` loads the record `CmdAdd` saved for the container and its interface, and returns nil at
once when there is none. Otherwise it defers one closure – drop the record when its variable
`err` is nil – and undoes the attachment: the IPAM allocation, then, with a namespace, the port
tagged with the container interface and namespace and the container's link (or virtual
function), and last the sweep of the ports in error; with no namespace, the representor's port
and the virtual function with offload, or only the sweep.

What the deferred closure reads is `err`, not what `CmdDel` returns, and the two part on
several paths: `err` is shadowed by `if err := ...` when the port removal or a sweep fails,
which returns an error with `err` nil; and a namespace or link already gone returns nil with
`err` still holding that error. `OvsCni.delBody` therefore ends with an `OvsCni.Exit`, as the
IPAM block of `CmdAdd` does, and `OvsCni.cmdDel` runs `OvsCni.delCleanup` on its `err`.
`OvsCni.cmdDel_cleanup_disagrees` shows these are all the paths on which the two part: nil is
returned with the record kept only when the container was already gone, or with no namespace the
representor's port of a user-space function could not be removed; an error is returned with the
record dropped only when the removal of the port found, or a sweep, failed.

`OvsCni.cmdDel_removes_own` says what a run may remove or reset, whatever the collaborators
answer: only state the call owns, as `OvsCni.DelOwns` lists it, and no record of the cache
under another key – so no record of another container and interface, as long as `GetCRef` gives
it another key. The plugin's `GetCRef` joins the two with `-`, which does not: the interface
`b-c` of the container `a` and the interface `c` of the container `a-b` share a key, and the
detach of one drops the record of the other (`OvsCni.cmdDel_drops_colliding_record`).
`OvsCni.cmdDel_link_gone_keeps_cache` is a run returning nil that keeps the record.

A detach takes the bridge from its record as it is when the record names one: it then never asks
where a bridge is, and every call it makes to a bridge is to that one
(`OvsCni.cmdDel_onRecordedBridge`).
-/

namespace OvsCni

open Prog

/-- An error of `ns.WithNetNSPath` running `ip.DelLinkByName`: the namespace could not be opened
or entered, or the deletion failed. -/
inductive WithNetNSError where
  | getNS (err : NsError)
  | enter (err : String)
  | delLink (err : DelLinkError)
  deriving DecidableEq, Repr

/-- The text of the error. -/
def WithNetNSError.error : WithNetNSError → String
  | .getNS err => err.error
  | .enter err => err
  | .delLink err => err.error

/-- The errors `CmdDel` takes for a container already gone (line 641): the namespace path does
not exist (`ns.NSPathNotExistErr`), or the link was not found (`ip.ErrLinkNotFound`). -/
def WithNetNSError.isGone : WithNetNSError → Bool
  | .getNS (.pathNotExist _) | .delLink .linkNotFound => true
  | _ => false

/-- `ns.WithNetNSPath(netns, ...)` running `ip.DelLinkByName(ifName)` in the namespace. -/
def delContainerLink (netns ifName : String) : Plugin (Except WithNetNSError Unit) :=
  orReturn (getNS netns) (fun err => .error (.getNS err)) fun _ =>
  orReturn (nsDo netns) (fun err => .error (.enter err)) fun _ =>
  orReturn (delLinkByName netns ifName) (fun err => .error (.delLink err)) fun _ =>
  pure (.ok ())

/-- The exit `return err` right after `err` was set to the error. -/
def Exit.ofError (err : String) : Exit := ⟨.error err, .error err⟩

/-- The end of `CmdDel` (lines 654–661), `err` being as it stands: the sweep of the ports in
error, whose failure is returned without reaching `err`, then `err` returned. -/
def delFinish (bridgeName : String) (err : Except String Unit) : Plugin Exit :=
  orReturn (cleanPorts bridgeName) (fun e => ⟨.error e, err⟩) fun _ => pure ⟨err, err⟩

section CmdDel

variable (getCRef : String → String → String) (isOvsHardwareOffloadEnabled : String → Bool)

/-- Lines 578–608, with no namespace: with offload, the port of the representor removed – a
failure is only logged, but left in `err` – and the virtual function reset unless it is driven
from user space; without offload, the sweep, whose failure does not reach `err`. -/
def delNoNetns (args : CmdArgs) (cache : CachedNetConf) (bridgeName : String) : Plugin Exit :=
  if isOvsHardwareOffloadEnabled cache.netconf.deviceID then
    orReturn (getNetRepresentor cache.netconf.deviceID) Exit.ofError fun rep => do
    let err ← removeOvsPort bridgeName rep
    if !cache.userspaceMode then
      orReturn (resetVF args cache.netconf.deviceID cache.origIfName) Exit.ofError fun _ =>
      pure ⟨.ok (), .ok ()⟩
    else pure ⟨.ok (), err⟩
  else
    orReturn (cleanPorts bridgeName) (fun e => ⟨.error e, .ok ()⟩) fun _ => pure ⟨.ok (), .ok ()⟩

/-- Lines 627–652: with offload, the virtual function released, and reset when that fails;
without, the container's link deleted in its namespace, where a namespace or link already gone
ends `CmdDel` with nil – after the host link of the port found is deleted – but leaves the error
in `err`. Both go on with `delFinish`. -/
def delLink (args : CmdArgs) (cache : CachedNetConf) (bridgeName portName : String)
    (portFound : Bool) : Plugin Exit :=
  if isOvsHardwareOffloadEnabled cache.netconf.deviceID then
    if !cache.userspaceMode then do
      let err ← releaseVF args cache.origIfName
      match err with
      | .error _ => do
        let _ ← resetVF args cache.netconf.deviceID cache.origIfName
        delFinish bridgeName err
      | .ok () => delFinish bridgeName err
    else delFinish bridgeName (.ok ())
  else do
    match ← delContainerLink args.netns args.ifName with
    | .ok () => delFinish bridgeName (.ok ())
    | .error err =>
      if err.isGone then do
        (if portFound then do
          let _ ← delLinkByName "" portName
          pure ()
        else pure ())
        pure ⟨.ok (), .error err.error⟩
      else delFinish bridgeName (.error err.error)

/-- Lines 552–661 of `CmdDel`, once the cache record is loaded: what it returns, and the value
of `err` the deferred closure reads. -/
def delBody (args : CmdArgs) (cache : CachedNetConf) : Plugin Exit :=
  orReturn (getEnvArgs args.args) Exit.ofError fun envArgs =>
  let (_, ovnPort, _) := EnvArgs.fields envArgs
  orReturn (newOvsDriver cache.netconf.socketFile) Exit.ofError fun _ =>
  orReturn (getBridgeName cache.netconf.brName ovnPort cache.netconf.deviceID) Exit.ofError
    fun bridgeName =>
  orReturn (newOvsBridgeDriver bridgeName cache.netconf.socketFile) Exit.ofError fun _ =>
  orReturn (if cache.netconf.ipam.type ≠ "" then ipamExecDel cache.netconf.ipam.type args.stdinData
    else pure (.ok ())) Exit.ofError fun _ =>
  if args.netns = "" then delNoNetns isOvsHardwareOffloadEnabled args cache bridgeName else
  orReturn (getOvsPortForContIface bridgeName args.ifName args.netns)
    (fun err => ⟨.error ("Failed to obtain OVS port for given connection: " ++ err), .error err⟩)
    fun (portName, portFound) =>
  orReturn (if portFound then removeOvsPort bridgeName portName else pure (.ok ()))
    (fun err => ⟨.error err, .ok ()⟩) fun _ =>
  delLink isOvsHardwareOffloadEnabled args cache bridgeName portName portFound

/-- The closure `CmdDel` defers (lines 544–550): the cache record dropped when `err` is nil, a
failure being only logged. -/
def delCleanup (cRef : String) (err : Except String Unit) : Plugin Unit :=
  match err with
  | .ok () => do
    let _ ← cleanCache cRef
    pure ()
  | .error _ => pure ()

/-- `CmdDel`: detach the container from the network. With no cache record it returns nil at
once, nothing being deferred yet. -/
def cmdDel (args : CmdArgs) : Plugin (Except String Unit) := do
  let cRef := getCRef args.containerID args.ifName
  match ← loadConfFromCache cRef with
  | .error _ => pure (.ok ())
  | .ok cache =>
    let exit ← delBody isOvsHardwareOffloadEnabled args cache
    delCleanup cRef exit.err
    pure exit.ret

end CmdDel

/-! ### What a detach may remove -/

section Owns

variable (isOvsHardwareOffloadEnabled : String → Bool) (args : CmdArgs) (cRef : String)

/-- What `CmdDel` on `args` may change, given the events `evs` of its run. A call that removes
or resets state touches only what the call owns:
* the cache record under its key `cRef` – and no record is saved;
* a port the lookup by the container interface and namespace found on the bridge, a port whose
  interface the switch listed in error on the bridge, or, with no namespace, the port of the
  representor of the cached device with offload;
* the container's link in its namespace, or on the host the link of a port the lookup found;
* the cached virtual function, with offload;
* the IPAM allocation of its own configuration.
Every other call changes nothing. -/
def DelOwns (evs : List Event) : Call → Prop
  | .saveCache .. => False
  | .cleanCache key => key = cRef
  | .deletePort bridge portName =>
    ⟨.getOvsPortForContIface bridge args.ifName args.netns, .ok (portName, true)⟩ ∈ evs ∨
    (∃ ifaces, ⟨.findInterfacesWithError bridge, .ok ifaces⟩ ∈ evs ∧ portName ∈ ifaces) ∨
    (args.netns = "" ∧ ∃ cache, ⟨.loadConfFromCache cRef, .ok cache⟩ ∈ evs ∧
      isOvsHardwareOffloadEnabled cache.netconf.deviceID = true ∧
      ⟨.getNetRepresentor cache.netconf.deviceID, .ok portName⟩ ∈ evs)
  | .delLinkByName netns name => (netns = args.netns ∧ name = args.ifName) ∨
    (netns = "" ∧
      ∃ bridge, ⟨.getOvsPortForContIface bridge args.ifName args.netns, .ok (name, true)⟩ ∈ evs)
  | .resetVF a deviceID origIfName => a = args ∧ ∃ cache, ⟨.loadConfFromCache cRef, .ok cache⟩ ∈ evs ∧
    isOvsHardwareOffloadEnabled cache.netconf.deviceID = true ∧ deviceID = cache.netconf.deviceID ∧
      origIfName = cache.origIfName
  | .releaseVF a origIfName => a = args ∧ ∃ cache, ⟨.loadConfFromCache cRef, .ok cache⟩ ∈ evs ∧
    isOvsHardwareOffloadEnabled cache.netconf.deviceID = true ∧ origIfName = cache.origIfName
  | .ipamExecDel _ stdinData => stdinData = args.stdinData
  | _ => True

variable {isOvsHardwareOffloadEnabled args cRef}

theorem DelOwns.mono {evs evs' : List Event} (h : evs ⊆ evs') {c : Call}
    (hc : DelOwns isOvsHardwareOffloadEnabled args cRef evs c) :
    DelOwns isOvsHardwareOffloadEnabled args cRef evs' c := by
  cases c with
  | deletePort =>
    rcases hc with hc | ⟨ifaces, hi, hp⟩ | ⟨hn, cache, hl, ho, hr⟩
    · exact .inl (h hc)
    · exact .inr (.inl ⟨ifaces, h hi, hp⟩)
    · exact .inr (.inr ⟨hn, cache, h hl, ho, h hr⟩)
  | delLinkByName =>
    rcases hc with hc | ⟨hn, bridge, hb⟩
    · exact .inl hc
    · exact .inr ⟨hn, bridge, h hb⟩
  | resetVF => obtain ⟨ha, cache, hl, rest⟩ := hc; exact ⟨ha, cache, h hl, rest⟩
  | releaseVF => obtain ⟨ha, cache, hl, rest⟩ := hc; exact ⟨ha, cache, h hl, rest⟩
  | _ => exact hc

variable {pre : List Event} {bridge : String}

theorem deletePorts_callsAfter {ifaces : List String}
    (h : ∀ p ∈ ifaces, ∃ all, ⟨.findInterfacesWithError bridge, .ok all⟩ ∈ pre ∧ p ∈ all) :
    (deletePorts bridge ifaces).CallsAfter (DelOwns isOvsHardwareOffloadEnabled args cRef) pre := by
  induction ifaces generalizing pre with
  | nil => trivial
  | cons p ps ih =>
    refine .bind ⟨.inr (.inl (h p (List.mem_cons_self _ _))), fun _ => trivial⟩ fun _ _ _ =>
      ih fun q hq => ?_
    obtain ⟨all, hm, hq'⟩ := h q (List.mem_cons_of_mem _ hq)
    exact ⟨all, by simp [hm], hq'⟩

theorem cleanPorts_callsAfter :
    (cleanPorts bridge).CallsAfter (DelOwns isOvsHardwareOffloadEnabled args cRef) pre :=
  .orReturn ⟨trivial, fun _ => trivial⟩ fun evs ifaces h => by
    obtain ⟨_, _, rfl, h'⟩ := runs_call.mp h
    obtain ⟨rfl, rfl⟩ := runs_ret.mp h'
    exact .bind (deletePorts_callsAfter fun p hp => ⟨ifaces, by simp, hp⟩) fun _ _ _ => trivial

theorem delFinish_callsAfter {err : Except String Unit} :
    (delFinish bridge err).CallsAfter (DelOwns isOvsHardwareOffloadEnabled args cRef) pre :=
  .orReturn cleanPorts_callsAfter fun _ _ _ => trivial

theorem delContainerLink_callsAfter :
    (delContainerLink args.netns args.ifName).CallsAfter
      (DelOwns isOvsHardwareOffloadEnabled args cRef) pre :=
  .orReturn ⟨trivial, fun _ => trivial⟩ fun _ _ _ => .orReturn ⟨trivial, fun _ => trivial⟩
    fun _ _ _ => .orReturn ⟨.inl ⟨rfl, rfl⟩, fun _ => trivial⟩ fun _ _ _ => trivial

variable {cache : CachedNetConf}

theorem delNoNetns_callsAfter (hn : args.netns = "")
    (hc : ⟨.loadConfFromCache cRef, .ok cache⟩ ∈ pre) :
    (delNoNetns isOvsHardwareOffloadEnabled args cache bridge).CallsAfter
      (DelOwns isOvsHardwareOffloadEnabled args cRef) pre := by
  unfold delNoNetns
  by_cases hoff : isOvsHardwareOffloadEnabled cache.netconf.deviceID = true
  · rw [if_pos hoff]
    refine .orReturn ⟨trivial, fun _ => trivial⟩ fun evs rep h => ?_
    obtain ⟨_, _, rfl, h'⟩ := runs_call.mp h
    obtain ⟨rfl, rfl⟩ := runs_ret.mp h'
    refine .bind ⟨.inr (.inr ⟨hn, cache, by simp [hc], hoff, by simp⟩), fun _ => trivial⟩
      fun _ _ _ => ?_
    split
    · exact .orReturn ⟨⟨rfl, cache, by simp [hc], hoff, rfl, rfl⟩, fun _ => trivial⟩
        fun _ _ _ => trivial
    · trivial
  · rw [if_neg hoff]
    exact .orReturn cleanPorts_callsAfter fun _ _ _ => trivial

theorem delLink_callsAfter {portName : String} {portFound : Bool}
    (hc : ⟨.loadConfFromCache cRef, .ok cache⟩ ∈ pre)
    (hp : portFound = true →
      ∃ bridge', ⟨.getOvsPortForContIface bridge' args.ifName args.netns, .ok (portName, true)⟩ ∈
        pre) :
    (delLink isOvsHardwareOffloadEnabled args cache bridge portName portFound).CallsAfter
      (DelOwns isOvsHardwareOffloadEnabled args cRef) pre := by
  unfold delLink
  by_cases hoff : isOvsHardwareOffloadEnabled cache.netconf.deviceID = true
  · rw [if_pos hoff]
    split
    · refine .bind ⟨⟨rfl, cache, hc, hoff, rfl⟩, fun _ => trivial⟩ fun _ err _ => ?_
      split
      · exact .bind ⟨⟨rfl, cache, by simp [hc], hoff, rfl, rfl⟩, fun _ => trivial⟩
          fun _ _ _ => delFinish_callsAfter
      · exact delFinish_callsAfter
    · exact delFinish_callsAfter
  · rw [if_neg hoff]
    refine .bind delContainerLink_callsAfter fun evs r _ => ?_
    split
    · exact delFinish_callsAfter
    · split
      · refine .bind ?_ fun _ _ _ => trivial
        split
        · obtain ⟨bridge', hb⟩ := hp ‹_›
          exact .bind ⟨.inr ⟨rfl, bridge', by simp [hb]⟩, fun _ => trivial⟩ fun _ _ _ => trivial
        · trivial
      · exact delFinish_callsAfter

theorem delBody_callsAfter (hc : ⟨.loadConfFromCache cRef, .ok cache⟩ ∈ pre) :
    (delBody isOvsHardwareOffloadEnabled args cache).CallsAfter
      (DelOwns isOvsHardwareOffloadEnabled args cRef) pre := by
  have free : ∀ {α} {p : Plugin α} {pre}, p.CallsOnly (fun c => ∀ evs,
      DelOwns isOvsHardwareOffloadEnabled args cRef evs c) →
      p.CallsAfter (DelOwns isOvsHardwareOffloadEnabled args cRef) pre :=
    fun hp => hp.callsAfter fun pre _ h => h pre
  unfold delBody
  refine .orReturn (free (getEnvArgs_callsOnly fun _ => trivial)) fun _ _ _ => ?_
  refine .orReturn ⟨trivial, fun _ => trivial⟩ fun _ _ _ => ?_
  refine .orReturn (free (getBridgeName_callsOnly (fun _ _ => trivial) (fun _ _ => trivial) _ _ _))
    fun _ bridge _ => ?_
  refine .orReturn ⟨trivial, fun _ => trivial⟩ fun _ _ _ => ?_
  refine .orReturn (by split; exacts [free ⟨fun _ => rfl, fun _ => trivial⟩, free trivial])
    fun _ _ _ => ?_
  split
  · exact delNoNetns_callsAfter ‹_› (by simp [hc])
  refine .orReturn ⟨trivial, fun _ => trivial⟩ fun evs ⟨portName, portFound⟩ h => ?_
  obtain ⟨_, _, rfl, h'⟩ := runs_call.mp h
  obtain ⟨rfl, rfl⟩ := runs_ret.mp h'
  refine .orReturn ?_ fun _ _ _ => delLink_callsAfter (by simp [hc]) fun hf => ⟨bridge, by simp [hf]⟩
  split
  · exact ⟨.inl (by simp [‹portFound = true›]), fun _ => trivial⟩
  · trivial

end Owns

section Runs

variable {getCRef : String → String → String} {isOvsHardwareOffloadEnabled : String → Bool}
  {args : CmdArgs} {evs : List Event} {res : Except String Unit}

theorem cmdDel_callsAfter :
    (cmdDel getCRef isOvsHardwareOffloadEnabled args).CallsAfter
      (DelOwns isOvsHardwareOffloadEnabled args (getCRef args.containerID args.ifName)) [] := by
  refine ⟨trivial, fun r => ?_⟩
  rcases r with _ | cache
  · trivial
  have hb : (delBody isOvsHardwareOffloadEnabled args cache).CallsAfter
      (DelOwns isOvsHardwareOffloadEnabled args (getCRef args.containerID args.ifName))
      ([] ++ [⟨.loadConfFromCache (getCRef args.containerID args.ifName), .ok cache⟩]) :=
    delBody_callsAfter (by simp)
  refine hb.bind fun _ x _ => .bind ?_ fun _ _ _ => trivial
  unfold delCleanup
  split
  · exact .bind ⟨rfl, fun _ => trivial⟩ fun _ _ _ => trivial
  · trivial

/-- **What a detach removes**, whatever its collaborators answer: every call of a run of
`CmdDel` changes only what `OvsCni.DelOwns` gives it – so the cache records under every other
key are left as they were, and with them the record of every other container and interface that
`GetCRef` keeps apart from the detach's own. -/
theorem cmdDel_removes_own (h : Runs (cmdDel getCRef isOvsHardwareOffloadEnabled args) evs res) :
    (∀ ev ∈ evs, DelOwns isOvsHardwareOffloadEnabled args (getCRef args.containerID args.ifName) evs
      ev.1) ∧
    (∀ (st : Store) key, key ≠ getCRef args.containerID args.ifName → st.after evs key = st key) ∧
    ∀ (st : Store) containerID ifName,
      (getCRef containerID ifName = getCRef args.containerID args.ifName →
        containerID = args.containerID ∧ ifName = args.ifName) →
      (containerID, ifName) ≠ (args.containerID, args.ifName) →
      st.after evs (getCRef containerID ifName) = st (getCRef containerID ifName) := by
  have hown := h.callsAfter cmdDel_callsAfter fun _ _ _ h => DelOwns.mono h
  simp only [List.nil_append] at hown
  have hkeys : ∀ (st : Store) key, key ≠ getCRef args.containerID args.ifName →
      st.after evs key = st key := fun st key hk => by
    refine Store.after_of_cleans (fun ev hev hw => ?_) hk
    have hev := hown ev hev
    obtain ⟨c, r⟩ := ev
    cases c <;> simp only [Call.writesCache, reduceCtorEq] at hw
    · exact hev.elim
    · exact congrArg Call.cleanCache hev
  refine ⟨hown, hkeys, fun st containerID ifName hsep hne => hkeys st _ fun hk => hne ?_⟩
  rw [(hsep hk).1, (hsep hk).2]

end Runs

/-! ### The port of the attachment -/

section Port

variable {getCRef : String → String → String} {isOvsHardwareOffloadEnabled : String → Bool}
  {args : CmdArgs} {cache : CachedNetConf} {evs : List Event} {x : Exit}

/-- **The runs of `CmdDel`**: the load of the cache record fails and nil is returned, or the
record is loaded, the body runs, and the deferred closure reads its `err`. -/
theorem runs_cmdDel {res : Except String Unit}
    (h : Runs (cmdDel getCRef isOvsHardwareOffloadEnabled args) evs res) :
    (∃ e, evs = [⟨.loadConfFromCache (getCRef args.containerID args.ifName), .error e⟩] ∧
      res = .ok ()) ∨
    ∃ cache evsB x evsC,
      evs = ⟨.loadConfFromCache (getCRef args.containerID args.ifName), .ok cache⟩ :: (evsB ++ evsC) ∧
      Runs (delBody isOvsHardwareOffloadEnabled args cache) evsB x ∧
      Runs (delCleanup (getCRef args.containerID args.ifName) x.err) evsC () ∧ res = x.ret := by
  obtain ⟨r, evs', rfl, h'⟩ := runs_call.mp h
  rcases r with e | cache <;> dsimp only [Prog.bind] at h'
  · obtain ⟨rfl, rfl⟩ := runs_ret.mp h'
    exact .inl ⟨e, rfl, rfl⟩
  obtain ⟨evsB, x, evs₂, hB, h₂, rfl⟩ := runs_bind.mp h'
  obtain ⟨evsC, _, evs₃, hC, h₃, rfl⟩ := runs_bind.mp h₂
  obtain ⟨rfl, rfl⟩ := runs_ret.mp h₃
  exact .inr ⟨cache, evsB, x, evsC, by simp, hB, hC, rfl⟩

/-- With a namespace and a cached bridge, a detach whose environment arguments parse, whose
drivers are made, whose IPAM delete and port lookup succeed looks the port up on the cached
bridge by the container interface and namespace, and removes the port it finds. -/
theorem delBody_deletes_port (h : Runs (delBody isOvsHardwareOffloadEnabled args cache) evs x)
    (hb : cache.netconf.brName ≠ "") (hn : args.netns ≠ "")
    (henv : ∀ e, ⟨.loadArgs args.args, .error e⟩ ∉ evs)
    (hdrv : ∀ s e, ⟨.newOvsDriver s, .error e⟩ ∉ evs)
    (hbdrv : ∀ b s e, ⟨.newOvsBridgeDriver b s, .error e⟩ ∉ evs)
    (hipam : ∀ t s e, ⟨.ipamExecDel t s, .error e⟩ ∉ evs)
    (hlook : ∀ b i n e, ⟨.getOvsPortForContIface b i n, .error e⟩ ∉ evs) :
    ∃ p f, ⟨.getOvsPortForContIface cache.netconf.brName args.ifName args.netns, .ok (p, f)⟩ ∈ evs ∧
      (f = true → ∃ r, ⟨.deletePort cache.netconf.brName p, r⟩ ∈ evs) := by
  unfold delBody at h
  rcases runs_orReturn.mp h with ⟨e, h₁, -⟩ | ⟨evs₁, env, evs₂, -, h₂, rfl⟩
  · exact absurd (runs_getEnvArgs_error h₁) (henv e)
  generalize EnvArgs.fields env = t at h₂
  obtain ⟨_, ovnPort, _⟩ := t
  rcases runs_orReturn.mp h₂ with ⟨e, h₃, -⟩ | ⟨evs₃, _, evs₄, -, h₄, rfl⟩
  · rw [newOvsDriver, runs_call_ret] at h₃
    exact absurd (by simp [h₃]) (hdrv cache.netconf.socketFile e)
  rw [getBridgeName_of_ne_empty hb] at h₄
  rcases runs_orReturn.mp h₄ with ⟨e, h₅, -⟩ | ⟨evs₅, b, evs₆, h₅, h₆, rfl⟩
  · cases (runs_ret.mp h₅).2
  obtain ⟨rfl, ⟨⟩⟩ := runs_ret.mp h₅
  rcases runs_orReturn.mp h₆ with ⟨e, h₇, -⟩ | ⟨evs₇, _, evs₈, -, h₈, rfl⟩
  · rw [newOvsBridgeDriver, runs_call_ret] at h₇
    exact absurd (by simp [h₇]) (hbdrv cache.netconf.brName cache.netconf.socketFile e)
  rcases runs_orReturn.mp h₈ with ⟨e, h₉, -⟩ | ⟨evs₉, _, evs₁₀, -, h₁₀, rfl⟩
  · split at h₉
    · rw [ipamExecDel, runs_call_ret] at h₉
      exact absurd (by simp [h₉]) (hipam cache.netconf.ipam.type args.stdinData e)
    · cases (runs_ret.mp h₉).2
  rw [if_neg hn] at h₁₀
  rcases runs_orReturn.mp h₁₀ with ⟨e, h₁₁, -⟩ | ⟨evs₁₁, ⟨p, f⟩, evs₁₂, h₁₁, h₁₂, rfl⟩
  · rw [getOvsPortForContIface, runs_call_ret] at h₁₁
    exact absurd (by simp [h₁₁]) (hlook cache.netconf.brName args.ifName args.netns e)
  rw [getOvsPortForContIface, runs_call_ret] at h₁₁
  subst h₁₁
  refine ⟨p, f, by simp, fun hf => ?_⟩
  subst hf
  rcases runs_orReturn.mp h₁₂ with ⟨e, h₁₃, -⟩ | ⟨evs₁₃, _, evs₁₄, h₁₃, -, rfl⟩ <;>
    simp only [if_true, removeOvsPort, deletePort, runs_call_ret] at h₁₃
  · exact ⟨.error e, by simp [h₁₃]⟩
  · exact ⟨.ok (), by simp [h₁₃]⟩

end Port

/-! ### The bridge of a detach -/

section Bridge

variable {getCRef : String → String → String} {isOvsHardwareOffloadEnabled : String → Bool}
  {args : CmdArgs} {cache : CachedNetConf} {bridge : String}

theorem delFinish_calls {P : Call → Prop} {err : Except String Unit}
    (hf : P (.findInterfacesWithError bridge)) (hd : ∀ p, P (.deletePort bridge p)) :
    (delFinish bridge err).CallsOnly P :=
  .orReturn (cleanPorts_callsOnly hf hd) fun _ => trivial

theorem delNoNetns_calls {P : Call → Prop} (hr : P (.getNetRepresentor cache.netconf.deviceID))
    (hv : P (.resetVF args cache.netconf.deviceID cache.origIfName))
    (hf : P (.findInterfacesWithError bridge)) (hd : ∀ p, P (.deletePort bridge p)) :
    (delNoNetns isOvsHardwareOffloadEnabled args cache bridge).CallsOnly P := by
  unfold delNoNetns
  split
  · refine .orReturn ⟨hr, fun _ => trivial⟩ fun _ => .bind ⟨hd _, fun _ => trivial⟩ fun _ => ?_
    split
    · exact .orReturn ⟨hv, fun _ => trivial⟩ fun _ => trivial
    · trivial
  · exact delFinish_calls hf hd

theorem delLink_calls {P : Call → Prop} {portName : String} {portFound : Bool}
    (hrel : P (.releaseVF args cache.origIfName))
    (hv : P (.resetVF args cache.netconf.deviceID cache.origIfName)) (hg : P (.getNS args.netns))
    (hn : P (.nsDo args.netns)) (hl : P (.delLinkByName args.netns args.ifName))
    (hh : P (.delLinkByName "" portName)) (hf : P (.findInterfacesWithError bridge))
    (hd : ∀ p, P (.deletePort bridge p)) :
    (delLink isOvsHardwareOffloadEnabled args cache bridge portName portFound).CallsOnly P := by
  unfold delLink
  split
  · split
    · refine .bind ⟨hrel, fun _ => trivial⟩ fun err => ?_
      split
      · exact .bind ⟨hv, fun _ => trivial⟩ fun _ => delFinish_calls hf hd
      · exact delFinish_calls hf hd
    · exact delFinish_calls hf hd
  · refine .bind (.orReturn ⟨hg, fun _ => trivial⟩ fun _ => .orReturn ⟨hn, fun _ => trivial⟩
      fun _ => .orReturn ⟨hl, fun _ => trivial⟩ fun _ => trivial) fun r => ?_
    split
    · exact delFinish_calls hf hd
    · split
      · refine .bind ?_ fun _ => trivial
        split
        · exact .bind ⟨hh, fun _ => trivial⟩ fun _ => trivial
        · trivial
      · exact delFinish_calls hf hd

/-- The calls of the body of `CmdDel`: the parse of the environment arguments, the drivers, the
resolution of the bridge, the IPAM delete, the representor, its reset and release, the lookup of
the port, the namespace and the deletion of links, the sweep, and the removal of ports. -/
theorem delBody_calls {P : Call → Prop}
    (hb : ∀ ovnPort, (getBridgeName cache.netconf.brName ovnPort cache.netconf.deviceID).CallsOnly P)
    (henv : P (.loadArgs args.args)) (hdrv : P (.newOvsDriver cache.netconf.socketFile))
    (hbd : ∀ b, P (.newOvsBridgeDriver b cache.netconf.socketFile))
    (hi : P (.ipamExecDel cache.netconf.ipam.type args.stdinData))
    (hr : P (.getNetRepresentor cache.netconf.deviceID))
    (hlook : ∀ b, P (.getOvsPortForContIface b args.ifName args.netns))
    (hrel : P (.releaseVF args cache.origIfName))
    (hv : P (.resetVF args cache.netconf.deviceID cache.origIfName)) (hg : P (.getNS args.netns))
    (hn : P (.nsDo args.netns)) (hl : P (.delLinkByName args.netns args.ifName))
    (hh : ∀ p, P (.delLinkByName "" p)) (hf : ∀ b, P (.findInterfacesWithError b))
    (hd : ∀ b p, P (.deletePort b p)) :
    (delBody isOvsHardwareOffloadEnabled args cache).CallsOnly P := by
  unfold delBody
  refine .orReturn (getEnvArgs_callsOnly henv) fun _ => .orReturn ⟨hdrv, fun _ => trivial⟩ fun _ => ?_
  refine .orReturn (hb _) fun _ => .orReturn ⟨hbd _, fun _ => trivial⟩ fun _ =>
    .orReturn (by split; exacts [⟨hi, fun _ => trivial⟩, trivial]) fun _ => ?_
  split
  · exact delNoNetns_calls hr hv (hf _) (hd _)
  refine .orReturn ⟨hlook _, fun _ => trivial⟩ fun ⟨_, _⟩ =>
    .orReturn (by split; exacts [⟨hd _ _, fun _ => trivial⟩, trivial]) fun _ =>
      delLink_calls hrel hv hg hn hl (hh _) (hf _) (hd _)

/-- A call that asks no one where a bridge is, and works on the bridge `bridge` if on any. -/
def Call.OnBridge (bridge : String) (c : Call) : Prop :=
  c.resolvesBridge = false ∧ ∀ b, c.bridge = some b → b = bridge

theorem Call.OnBridge.of_none {c : Call} (hr : c.resolvesBridge = false) (hb : c.bridge = none) :
    c.OnBridge bridge :=
  ⟨hr, fun _ h => nomatch hb.symm.trans h⟩

theorem Call.OnBridge.of_some {c : Call} (hr : c.resolvesBridge = false)
    (hb : c.bridge = some bridge) : c.OnBridge bridge :=
  ⟨hr, fun _ h => (Option.some.inj (hb.symm.trans h)).symm⟩

/-- **A detach works on the bridge its record names**: with a record naming a bridge, the body
of `CmdDel` asks neither the SR-IOV state nor the switch database where a bridge is, and every
call it makes to a bridge is to that one. -/
theorem delBody_onRecordedBridge (hb : cache.netconf.brName ≠ "") :
    (delBody isOvsHardwareOffloadEnabled args cache).CallsOnly
      (Call.OnBridge cache.netconf.brName) := by
  unfold delBody
  refine .orReturn (getEnvArgs_callsOnly (.of_none rfl rfl)) fun _ =>
    .orReturn ⟨.of_none rfl rfl, fun _ => trivial⟩ fun _ => ?_
  rw [getBridgeName_of_ne_empty hb, orReturn_pure_ok]
  refine .orReturn ⟨.of_some rfl rfl, fun _ => trivial⟩ fun _ =>
    .orReturn (by split; exacts [⟨.of_none rfl rfl, fun _ => trivial⟩, trivial]) fun _ => ?_
  split
  · exact delNoNetns_calls (.of_none rfl rfl) (.of_none rfl rfl) (.of_some rfl rfl)
      fun _ => .of_some rfl rfl
  refine .orReturn ⟨.of_some rfl rfl, fun _ => trivial⟩ fun ⟨_, _⟩ =>
    .orReturn (by split; exacts [⟨.of_some rfl rfl, fun _ => trivial⟩, trivial]) fun _ =>
      delLink_calls (.of_none rfl rfl) (.of_none rfl rfl) (.of_none rfl rfl) (.of_none rfl rfl)
        (.of_none rfl rfl) (.of_none rfl rfl) (.of_some rfl rfl) fun _ => .of_some rfl rfl

/-- The body of `CmdDel` reads no record of the cache: the record is loaded once, first. -/
theorem delBody_readsNothing :
    (delBody isOvsHardwareOffloadEnabled args cache).CallsOnly fun c => c.readsCache = false :=
  delBody_calls (fun _ => getBridgeName_callsOnly (fun _ => by rfl) (fun _ => by rfl) _ _ _) rfl rfl
    (fun _ => rfl) rfl rfl (fun _ => rfl) rfl rfl rfl rfl rfl (fun _ => rfl) (fun _ => rfl)
    fun _ _ => rfl

theorem delCleanup_calls {P : Call → Prop} {cRef : String} {err : Except String Unit}
    (h : P (.cleanCache cRef)) : (delCleanup cRef err).CallsOnly P := by
  unfold delCleanup
  split
  exacts [.bind ⟨h, fun _ => trivial⟩ fun _ => trivial, trivial]

/-- The body of `CmdDel` writes nothing to the cache: only its deferred closure drops the
record. -/
theorem delBody_writesNothing :
    (delBody isOvsHardwareOffloadEnabled args cache).CallsOnly fun c => c.writesCache = false :=
  delBody_calls (fun _ => getBridgeName_callsOnly (fun _ => by rfl) (fun _ => by rfl) _ _ _) rfl rfl
    (fun _ => rfl) rfl rfl (fun _ => rfl) rfl rfl rfl rfl rfl (fun _ => rfl) (fun _ => rfl)
    fun _ _ => rfl

/-- **A detach works on the bridge of the record it loaded**, complete or cut short: the record
it loads is the one of its own container and interface, and when the record names a bridge, the
detach asks neither the SR-IOV state nor the switch database where a bridge is, and every call
it makes to a bridge is to that one. -/
theorem cmdDel_onRecordedBridge {evs : List Event}
    (h : Reaches (cmdDel getCRef isOvsHardwareOffloadEnabled args) evs) {key : String}
    {R : CachedNetConf} (hR : ⟨.loadConfFromCache key, .ok R⟩ ∈ evs) :
    key = getCRef args.containerID args.ifName ∧
      (R.netconf.brName ≠ "" → ∀ ev ∈ evs, ev.1.OnBridge R.netconf.brName) := by
  rcases reaches_call.mp h with rfl | ⟨r, evs', rfl, h'⟩
  · cases hR
  rcases r with e | cache <;> dsimp only [Prog.bind] at h'
  · obtain rfl : evs' = [] := reaches_ret.mp h'
    simp at hR
  rcases List.mem_cons.mp hR with he | hR'
  · cases he
    refine ⟨rfl, fun hb ev hev => ?_⟩
    rcases List.mem_cons.mp hev with rfl | hev
    · exact .of_none rfl rfl
    · exact h'.calls _ ((delBody_onRecordedBridge hb).bind fun _ =>
        .bind (delCleanup_calls (.of_none rfl rfl)) fun _ => trivial) ev hev
  · cases h'.calls _ (delBody_readsNothing.bind fun _ =>
      .bind (delCleanup_calls rfl) fun _ => trivial) _ hR'

/-- **The cut runs of `CmdDel`**: it loads the record of its container and interface first and
never again, and stops at once when the load fails. -/
theorem reaches_cmdDel {evs : List Event}
    (h : Reaches (cmdDel getCRef isOvsHardwareOffloadEnabled args) evs) :
    evs = [] ∨ ∃ r rest,
      evs = ⟨.loadConfFromCache (getCRef args.containerID args.ifName), r⟩ :: rest ∧
        (∀ ev ∈ rest, ev.1.readsCache = false) ∧ ∀ e, r = .error e → rest = [] := by
  rcases reaches_call.mp h with rfl | ⟨r, rest, rfl, h'⟩
  · exact .inl rfl
  refine .inr ⟨r, rest, rfl, ?_, fun e he => ?_⟩
  · rcases r with e | cache <;> dsimp only [Prog.bind] at h'
    · simp [reaches_ret.mp h']
    · exact h'.calls _
        (delBody_readsNothing.bind fun _ => .bind (delCleanup_calls rfl) fun _ => trivial)
  · subst he
    exact reaches_ret.mp h'

end Bridge

/-! ### A link already gone -/

/-- The answers of a detach of `attachArgs` whose link has already gone from the namespace: the
record of `bridgeConf` is loaded, the port `veth1` is found and removed, and the deletion of
`eth0` reports that the link was not found. -/
def linkGoneAnswers : (c : Call) → c.Resp
  | .loadConfFromCache _ => .ok ⟨bridgeConf, "", false⟩
  | .getOvsPortForContIface .. => .ok ("veth1", true)
  | .delLinkByName netns _ => if netns = "" then .ok () else .error .linkNotFound
  | .newOvsDriver _ | .newOvsBridgeDriver .. | .deletePort .. | .getNS _ | .nsDo _ => .ok ()
  | c => c.fail

/-- The calls of that detach: it returns nil and never drops the record. -/
def linkGoneRun : List Event :=
  [⟨.loadConfFromCache "c1-eth0", .ok ⟨bridgeConf, "", false⟩⟩,
   ⟨.newOvsDriver "", .ok ()⟩,
   ⟨.newOvsBridgeDriver "br0" "", .ok ()⟩,
   ⟨.getOvsPortForContIface "br0" "eth0" "/var/run/netns/n1", .ok ("veth1", true)⟩,
   ⟨.deletePort "br0" "veth1", .ok ()⟩,
   ⟨.getNS "/var/run/netns/n1", .ok ()⟩,
   ⟨.nsDo "/var/run/netns/n1", .ok ()⟩,
   ⟨.delLinkByName "/var/run/netns/n1" "eth0", .error .linkNotFound⟩,
   ⟨.delLinkByName "" "veth1", .ok ()⟩]

/-- A detach that finds the container's link gone returns nil, yet leaves the cache as it was:
the record stays, and the next detach does the work again. -/
theorem cmdDel_link_gone_keeps_cache :
    Runs (cmdDel (fun containerID ifName => containerID ++ "-" ++ ifName) (fun _ => false) attachArgs)
      linkGoneRun (.ok ()) ∧ ∀ st : Store, st.after linkGoneRun = st :=
  ⟨runs_trace linkGoneAnswers _, fun _ => Store.after_of_forall (by decide)⟩

theorem cmdDel_removes_own_linkGone :
    Runs (cmdDel (fun containerID ifName => containerID ++ "-" ++ ifName) (fun _ => false) attachArgs)
      linkGoneRun (.ok ()) ∧
    (∀ ev ∈ linkGoneRun, DelOwns (fun _ => false) attachArgs
      (attachArgs.containerID ++ "-" ++ attachArgs.ifName) linkGoneRun ev.1) ∧
    (∀ (st : Store) key, key ≠ attachArgs.containerID ++ "-" ++ attachArgs.ifName →
      st.after linkGoneRun key = st key) ∧
    ∀ (st : Store) containerID ifName,
      (containerID ++ "-" ++ ifName = attachArgs.containerID ++ "-" ++ attachArgs.ifName →
        containerID = attachArgs.containerID ∧ ifName = attachArgs.ifName) →
      (containerID, ifName) ≠ (attachArgs.containerID, attachArgs.ifName) →
      st.after linkGoneRun (containerID ++ "-" ++ ifName) = st (containerID ++ "-" ++ ifName) :=
  have h : Runs (cmdDel (fun containerID ifName => containerID ++ "-" ++ ifName) (fun _ => false)
      attachArgs) linkGoneRun (.ok ()) := runs_trace linkGoneAnswers _
  ⟨h, cmdDel_removes_own h⟩

/-- The arguments of a detach of the interface `b-c` of the container `a`, with no namespace. -/
def collidingArgs : CmdArgs := ⟨"a", "", "b-c", "", "{}"⟩

/-- The answers of a detach that loads the record of `bridgeConf`, and whose sweep finds no
interface in error. -/
def sweepAnswers : (c : Call) → c.Resp
  | .loadConfFromCache _ => .ok ⟨bridgeConf, "", false⟩
  | .findInterfacesWithError _ => .ok []
  | .newOvsDriver _ | .newOvsBridgeDriver .. | .cleanCache _ => .ok ()
  | c => c.fail

/-- The calls of the detach of `collidingArgs` under those answers: it sweeps and drops the
record under its key `a-b-c`. -/
def collidingRun : List Event :=
  [⟨.loadConfFromCache "a-b-c", .ok ⟨bridgeConf, "", false⟩⟩,
   ⟨.newOvsDriver "", .ok ()⟩,
   ⟨.newOvsBridgeDriver "br0" "", .ok ()⟩,
   ⟨.findInterfacesWithError "br0", .ok []⟩,
   ⟨.cleanCache "a-b-c", .ok ()⟩]

/-- Under the `GetCRef` that joins the container and the interface with `-`, the interface `b-c`
of the container `a` and the interface `c` of the container `a-b` share the key `a-b-c`: the
detach of the first drops the record of the second. -/
theorem cmdDel_drops_colliding_record :
    Runs (cmdDel (fun containerID ifName => containerID ++ "-" ++ ifName) (fun _ => false)
      collidingArgs) collidingRun (.ok ()) ∧
    ("a-b", "c") ≠ (collidingArgs.containerID, collidingArgs.ifName) ∧
    ∀ st : Store, st.after collidingRun ("a-b" ++ "-" ++ "c") = none :=
  ⟨runs_trace sweepAnswers _, by decide, fun _ => rfl⟩

/-! ### What a detach returns, and what it drops

The deferred closure drops the record when `err` is nil, and `CmdDel` returns something else
than `err` on a few paths only. `OvsCni.delBody_exit` names them: nil is returned with `err` set
when the container's namespace or link was already gone or – with no namespace – the removal of
the representor's port of a user-space function failed (`OvsCni.NilKeepsRecord`); an error is
returned with `err` nil when the removal of the port the lookup found failed, or a sweep did
(`OvsCni.ErrorDropsRecord`). -/

section Exit

variable {getCRef : String → String → String} {isOvsHardwareOffloadEnabled : String → Bool}
  {args : CmdArgs} {cache : CachedNetConf} {evs : List Event} {x : Exit}

/-- The paths of a run `evs` of the body of `CmdDel` returning nil with `err` set, so that the
record stays: no namespace at the container's path, no link of its interface name there, or –
with no namespace, with offload and a virtual function driven from user space – the switch
failing to remove the representor's port. -/
def NilKeepsRecord (isOvsHardwareOffloadEnabled : String → Bool) (args : CmdArgs)
    (cache : CachedNetConf) (evs : List Event) : Prop :=
  (∃ e, ⟨.getNS args.netns, .error (.pathNotExist e)⟩ ∈ evs) ∨
    ⟨.delLinkByName args.netns args.ifName, .error .linkNotFound⟩ ∈ evs ∨
    args.netns = "" ∧ isOvsHardwareOffloadEnabled cache.netconf.deviceID = true ∧
      cache.userspaceMode = true ∧ ∃ bridge rep e, ⟨.getNetRepresentor cache.netconf.deviceID,
        .ok rep⟩ ∈ evs ∧ ⟨.deletePort bridge rep, .error e⟩ ∈ evs

/-- The paths of a run `evs` of the body of `CmdDel` returning the error `e` with `err` nil, so
that the record is dropped: the switch failing, with `e`, to remove the port its lookup by the
container interface and namespace found, or failing to list the interfaces in error for a
sweep. -/
def ErrorDropsRecord (args : CmdArgs) (e : String) (evs : List Event) : Prop :=
  (∃ bridge p, ⟨.getOvsPortForContIface bridge args.ifName args.netns, .ok (p, true)⟩ ∈ evs ∧
      ⟨.deletePort bridge p, .error e⟩ ∈ evs) ∨
    ∃ bridge e', ⟨.findInterfacesWithError bridge, .error e'⟩ ∈ evs ∧ e = "clean ports: " ++ e'

/-- An exit `x` ending the run `evs` of the body of `CmdDel` returns what disagrees with `err`
only on the paths of `OvsCni.NilKeepsRecord` and `OvsCni.ErrorDropsRecord`: on every other
exit, nil is returned exactly when `err` is nil. -/
def DelExit (isOvsHardwareOffloadEnabled : String → Bool) (args : CmdArgs) (cache : CachedNetConf)
    (evs : List Event) (x : Exit) : Prop :=
  (x.ret = .ok () → x.err ≠ .ok () → NilKeepsRecord isOvsHardwareOffloadEnabled args cache evs) ∧
    ∀ e, x.ret = .error e → x.err = .ok () → ErrorDropsRecord args e evs

theorem NilKeepsRecord.mono {evs' : List Event} (h : evs ⊆ evs')
    (hk : NilKeepsRecord isOvsHardwareOffloadEnabled args cache evs) :
    NilKeepsRecord isOvsHardwareOffloadEnabled args cache evs' := by
  rcases hk with ⟨e, he⟩ | he | ⟨hn, ho, hu, b, rep, e, hr, hd⟩
  exacts [.inl ⟨e, h he⟩, .inr (.inl (h he)), .inr (.inr ⟨hn, ho, hu, b, rep, e, h hr, h hd⟩)]

theorem ErrorDropsRecord.mono {evs' : List Event} {e : String} (h : evs ⊆ evs')
    (hd : ErrorDropsRecord args e evs) : ErrorDropsRecord args e evs' := by
  rcases hd with ⟨b, p, hl, hr⟩ | ⟨b, e', hf, he⟩
  exacts [.inl ⟨b, p, h hl, h hr⟩, .inr ⟨b, e', h hf, he⟩]

theorem DelExit.mono {evs' : List Event} (hx : DelExit isOvsHardwareOffloadEnabled args cache evs x)
    (h : evs ⊆ evs') : DelExit isOvsHardwareOffloadEnabled args cache evs' x :=
  ⟨fun h₁ h₂ => (hx.1 h₁ h₂).mono h, fun e h₁ h₂ => (hx.2 e h₁ h₂).mono h⟩

/-- An exit returning what `err` holds is one of the agreeing exits. -/
theorem DelExit.same (r : Except String Unit) :
    DelExit isOvsHardwareOffloadEnabled args cache evs ⟨r, r⟩ :=
  ⟨fun h₁ h₂ => absurd h₁ h₂, fun _ h₁ h₂ => nomatch h₁.symm.trans h₂⟩

/-- An exit with an error both in what it returns and in `err` is one of the agreeing exits. -/
theorem DelExit.of_errors {e e' : String} :
    DelExit isOvsHardwareOffloadEnabled args cache evs ⟨.error e, .error e'⟩ :=
  ⟨nofun, fun _ _ h => nomatch h⟩

/-- A step `if err != nil { return err }` of the body parts nothing itself. -/
theorem DelExit.orReturn {α : Type} {p : Plugin (Except String α)} {k : α → Plugin Exit}
    (h : Runs (orReturn p Exit.ofError k) evs x)
    (hk : ∀ a evs₂, Runs (k a) evs₂ x → DelExit isOvsHardwareOffloadEnabled args cache evs₂ x) :
    DelExit isOvsHardwareOffloadEnabled args cache evs x := by
  rcases runs_orReturn.mp h with ⟨_, -, rfl⟩ | ⟨_, a, evs₂, -, h₂, rfl⟩
  · exact DelExit.of_errors
  · exact (hk a evs₂ h₂).mono (List.subset_append_right _ _)

/-- The last sweep keeps `err`, and returns it unless the sweep fails. -/
theorem delFinish_exit {bridge : String} {err : Except String Unit}
    (h : Runs (delFinish bridge err) evs x) :
    x.err = err ∧ DelExit isOvsHardwareOffloadEnabled args cache evs x := by
  rcases runs_orReturn.mp h with ⟨e, h₁, rfl⟩ | ⟨_, _, evs₂, -, h₂, rfl⟩
  · refine ⟨rfl, nofun, fun e' he _ => .inr ⟨bridge, ?_⟩⟩
    rcases runs_cleanPorts h₁ with ⟨e₀, rfl, he₀⟩ | ⟨_, _, -, -, hne⟩
    · exact ⟨e₀, List.mem_singleton_self _, (Except.error.inj he).symm.trans (Except.error.inj he₀)⟩
    · cases hne
  · obtain ⟨rfl, rfl⟩ := runs_ret.mp h₂
    exact ⟨rfl, .same _⟩

/-- A failed deletion of the container's link taken for a container already gone is one of the
two failures that say so. -/
theorem runs_delContainerLink_gone {err : WithNetNSError}
    (h : Runs (delContainerLink args.netns args.ifName) evs (.error err)) (hg : err.isGone = true) :
    (∃ e, ⟨.getNS args.netns, .error (.pathNotExist e)⟩ ∈ evs) ∨
      ⟨.delLinkByName args.netns args.ifName, .error .linkNotFound⟩ ∈ evs := by
  rcases runs_orReturn.mp h with ⟨e, h₁, he⟩ | ⟨evs₁, _, evs₂, -, h₂, rfl⟩
  · rw [getNS, runs_call_ret] at h₁
    cases he
    rcases e with m | m
    · exact .inl ⟨m, by simp [h₁]⟩
    · cases hg
  rcases runs_orReturn.mp h₂ with ⟨e, -, he⟩ | ⟨evs₃, _, evs₄, h₃, h₄, rfl⟩
  · cases he
    cases hg
  rcases runs_orReturn.mp h₄ with ⟨e, h₅, he⟩ | ⟨_, _, _, -, h₆, -⟩
  · rw [delLinkByName, runs_call_ret] at h₅
    cases he
    rcases e with _ | m
    · exact .inr (by simp [h₅])
    · cases hg
  · cases (runs_ret.mp h₆).2

theorem delNoNetns_exit {bridge : String} (hn : args.netns = "")
    (h : Runs (delNoNetns isOvsHardwareOffloadEnabled args cache bridge) evs x) :
    DelExit isOvsHardwareOffloadEnabled args cache evs x := by
  unfold delNoNetns at h
  split at h
  · rename_i ho
    rcases runs_orReturn.mp h with ⟨_, -, rfl⟩ | ⟨evs₁, rep, evs₂, h₁, h₂, rfl⟩
    · exact DelExit.of_errors
    rw [getNetRepresentor, runs_call_ret] at h₁
    subst h₁
    obtain ⟨evs₃, r, evs₄, h₃, h₄, rfl⟩ := runs_bind.mp h₂
    rw [removeOvsPort, deletePort, runs_call_ret] at h₃
    subst h₃
    split at h₄ <;> rename_i hu
    · refine (DelExit.orReturn h₄ fun _ _ h₅ => ?_).mono fun _ h => by simp [h]
      obtain ⟨rfl, rfl⟩ := runs_ret.mp h₅
      exact .same _
    · obtain ⟨rfl, rfl⟩ := runs_ret.mp h₄
      refine ⟨fun _ hr => .inr (.inr ⟨hn, ho, by simpa using hu, bridge, rep, ?_⟩), nofun⟩
      rcases r with e | ⟨⟩
      · exact ⟨e, by simp, by simp⟩
      · exact absurd rfl hr
  · exact (delFinish_exit h).2

theorem delLink_exit {bridge portName : String} {portFound : Bool}
    (h : Runs (delLink isOvsHardwareOffloadEnabled args cache bridge portName portFound) evs x) :
    DelExit isOvsHardwareOffloadEnabled args cache evs x := by
  unfold delLink at h
  split at h
  · split at h
    · obtain ⟨evs₁, err, evs₂, -, h₂, rfl⟩ := runs_bind.mp h
      split at h₂
      · obtain ⟨evs₃, _, evs₄, -, h₄, rfl⟩ := runs_bind.mp h₂
        exact (delFinish_exit h₄).2.mono fun _ h => by simp [h]
      · exact (delFinish_exit h₂).2.mono fun _ h => by simp [h]
    · exact (delFinish_exit h).2
  · obtain ⟨evs₁, r, evs₂, h₁, h₂, rfl⟩ := runs_bind.mp h
    split at h₂
    · exact (delFinish_exit h₂).2.mono fun _ h => by simp [h]
    split at h₂
    · -- the container is gone: nil, with the error left in `err`
      obtain ⟨evs₃, _, evs₄, -, h₄, rfl⟩ := runs_bind.mp h₂
      obtain ⟨rfl, rfl⟩ := runs_ret.mp h₄
      refine ⟨fun _ _ => ?_, nofun⟩
      rcases runs_delContainerLink_gone h₁ ‹_› with ⟨e, he⟩ | he
      exacts [.inl ⟨e, by simp [he]⟩, .inr (.inl (by simp [he]))]
    · exact (delFinish_exit h₂).2.mono fun _ h => by simp [h]

/-- **The exits of the body of `CmdDel`**: whatever its collaborators answer, what it returns
and the `err` its deferred closure reads part only on the paths of `OvsCni.NilKeepsRecord` and
`OvsCni.ErrorDropsRecord`. -/
theorem delBody_exit (h : Runs (delBody isOvsHardwareOffloadEnabled args cache) evs x) :
    DelExit isOvsHardwareOffloadEnabled args cache evs x := by
  unfold delBody at h
  refine DelExit.orReturn h fun env evs₂ h₂ => ?_
  generalize EnvArgs.fields env = t at h₂
  obtain ⟨_, ovnPort, _⟩ := t
  refine DelExit.orReturn h₂ fun _ evs₃ h₃ => DelExit.orReturn h₃ fun bridge evs₄ h₄ =>
    DelExit.orReturn h₄ fun _ evs₅ h₅ => DelExit.orReturn h₅ fun _ evs₆ h₆ => ?_
  split at h₆
  · exact delNoNetns_exit ‹_› h₆
  rcases runs_orReturn.mp h₆ with ⟨_, -, rfl⟩ | ⟨evs₇, ⟨p, f⟩, evs₈, h₇, h₈, rfl⟩
  · exact DelExit.of_errors
  rw [getOvsPortForContIface, runs_call_ret] at h₇
  subst h₇
  rcases runs_orReturn.mp h₈ with ⟨e, h₉, rfl⟩ | ⟨evs₉, _, evs₁₀, -, h₁₀, rfl⟩
  · -- the removal of the port found failed: the error, with `err` nil
    refine ⟨nofun, fun e' he _ => .inl ⟨bridge, p, ?_⟩⟩
    split at h₉
    · subst f
      rw [removeOvsPort, deletePort, runs_call_ret] at h₉
      cases he
      simp [h₉]
    · cases (runs_ret.mp h₉).2
  · exact (delLink_exit h₁₀).mono fun _ h => by simp [h]

/-- **When a detach's answer and its cleanup part.** Whatever its collaborators answer, a run of
`CmdDel` returning nil without dropping the record of its container and interface found no
record, or found one and met a container already gone – no namespace at its path, or no link of
its interface name there – or, with no namespace, with offload and a virtual function driven from
user space, the switch failing to remove the representor's port. A run returning an error `e`
and dropping the record met the switch failing with `e` to remove the port its lookup found, or
failing to list the interfaces in error for a sweep. On every other run the record is dropped
exactly when nil is returned. -/
theorem cmdDel_cleanup_disagrees {res : Except String Unit}
    (h : Runs (cmdDel getCRef isOvsHardwareOffloadEnabled args) evs res) :
    (res = .ok () → (∀ r, ⟨.cleanCache (getCRef args.containerID args.ifName), r⟩ ∉ evs) →
      (∃ e, evs = [⟨.loadConfFromCache (getCRef args.containerID args.ifName), .error e⟩]) ∨
        ∃ cache, ⟨.loadConfFromCache (getCRef args.containerID args.ifName), .ok cache⟩ ∈ evs ∧
          NilKeepsRecord isOvsHardwareOffloadEnabled args cache evs) ∧
      ∀ e, res = .error e →
        (∃ r, ⟨.cleanCache (getCRef args.containerID args.ifName), r⟩ ∈ evs) →
        ErrorDropsRecord args e evs := by
  rcases runs_cmdDel h with ⟨e, rfl, rfl⟩ | ⟨cache, evsB, x, evsC, rfl, hB, hC, rfl⟩
  · exact ⟨fun _ _ => .inl ⟨e, rfl⟩, fun _ he => nomatch he⟩
  have hx : DelExit isOvsHardwareOffloadEnabled args cache
      (⟨.loadConfFromCache (getCRef args.containerID args.ifName), .ok cache⟩ :: (evsB ++ evsC)) x :=
    (delBody_exit hB).mono fun _ h => by simp [h]
  unfold delCleanup at hC
  split at hC <;> rename_i herr
  · -- `err` is nil: the record is dropped
    obtain ⟨_, r, _, hc, -, rfl⟩ := runs_bind.mp hC
    rw [cleanCache, runs_call_ret] at hc
    subst hc
    exact ⟨fun _ hno => absurd (by simp) (hno r), fun e he _ => hx.2 e he herr⟩
  · -- `err` is set: the body writes nothing to the cache, and nothing follows it
    obtain ⟨rfl, -⟩ := runs_ret.mp hC
    refine ⟨fun hr _ => .inr ⟨cache, by simp, hx.1 hr (by rw [herr]; nofun)⟩, fun e _ ⟨r, hr⟩ => ?_⟩
    rcases List.mem_cons.mp hr with hr | hr
    · cases hr
    · have := hB.calls _ delBody_writesNothing _ (by simpa using hr)
      cases this

theorem cmdDel_cleanup_disagrees_linkGone :
    Runs (cmdDel (fun containerID ifName => containerID ++ "-" ++ ifName) (fun _ => false) attachArgs)
      linkGoneRun (.ok ()) ∧
    ((.ok () : Except String Unit) = .ok () →
      (∀ r, ⟨.cleanCache (attachArgs.containerID ++ "-" ++ attachArgs.ifName), r⟩ ∉ linkGoneRun) →
      (∃ e, linkGoneRun =
        [⟨.loadConfFromCache (attachArgs.containerID ++ "-" ++ attachArgs.ifName), .error e⟩]) ∨
        ∃ cache, ⟨.loadConfFromCache (attachArgs.containerID ++ "-" ++ attachArgs.ifName),
          .ok cache⟩ ∈ linkGoneRun ∧ NilKeepsRecord (fun _ => false) attachArgs cache linkGoneRun) ∧
    ∀ e, (.ok () : Except String Unit) = .error e →
      (∃ r, ⟨.cleanCache (attachArgs.containerID ++ "-" ++ attachArgs.ifName), r⟩ ∈ linkGoneRun) →
      ErrorDropsRecord attachArgs e linkGoneRun :=
  have h : Runs (cmdDel (fun containerID ifName => containerID ++ "-" ++ ifName) (fun _ => false)
      attachArgs) linkGoneRun (.ok ()) := runs_trace linkGoneAnswers _
  ⟨h, cmdDel_cleanup_disagrees h⟩

end Exit

end OvsCni
