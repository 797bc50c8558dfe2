import OvsCni.System

/-!
# What an invocation may remove

The invocations of the plugin share the switch and the kernel with each other. An attach
sweeps the ports whose interfaces are in error and, when it fails after its port was put on the
bridge, removes the port it looks up by its container interface and namespace; a detach removes
the port it looks up, the container's link or the host link of that port, with no namespace the
port of the representor, and sweeps too; a verify only asks.

`OvsCni.DelOwns` lists, for the arguments of one invocation and the calls it made before, what
a removal may take. Every removal of every verb is one it lists, and so, in every log – the
invocations run as separate processes, their calls interleaved in any order, each possibly
killed – every call removing a port or a link was made by an invocation owning it
(`OvsCni.Log.removes_own`):

* a port is removed only when the invocation's own lookup by its container interface and
  namespace found it on that bridge, when the switch had listed its interface in error on that
  bridge, or – a detach with no namespace, with offload – when it is the representor of the
  device its cache record names;
* a link is removed only when it is the container's link in the invocation's own namespace
  under its own interface name, or on the host the link of a port its lookup found.

The representor is taken from the record under the detach's own key, which is its own
attachment's only when no other container and interface has that key: when the cache answers
each load with what it holds and `GetCRef` keeps the detach's container and interface apart from
the other attaches' (`OvsCni.Log.KeySeparates`), the record was saved by an attach of the same
container and interface. The plugin's `GetCRef`, which joins the two with `-`, does not keep every
pair apart (`OvsCni.cmdDel_drops_colliding_record`). Under that condition the ports and links of
one attachment are removed only by the invocations on that attachment, or by a sweep once the
switch reports them in error. The lookup comes before the removal among the invocation's own
calls; that the port found is still that attachment's when the removal reaches the switch is up
to the switch, which the model leaves open.
-/

namespace OvsCni

open Prog

/-- What a call of the invocation on `args` may remove, given the calls `hist` it made before:
a call removing a port or a link removes only what `OvsCni.DelOwns` gives that invocation. -/
def RemovesOwn (isOvsHardwareOffloadEnabled : String → Bool) (args : CmdArgs) (cRef : String)
    (hist : List Event) (c : Call) : Prop :=
  c.removes = true → DelOwns isOvsHardwareOffloadEnabled args cRef hist c

section Attach

variable {getCRef : String → String → String} {isOvsHardwareOffloadEnabled : String → Bool}
  {isOvs : String → Bool} {args : CmdArgs} {cRef : String} {pre : List Event}

/-- A program that removes nothing removes only what it owns. -/
theorem CallsOnly.removesOwn {α : Type} {p : Plugin α}
    (hp : p.CallsOnly fun c => c.removes = false) : p.CallsAfter (RemovesOwn isOvs args cRef) pre :=
  hp.callsAfter fun _ _ h h' => by rw [h] at h'; cases h'

/-- The set-up of `CmdAdd` removes only the ports its sweep found in error. -/
theorem addSetup_removesOwn :
    (addSetup getCRef isOvsHardwareOffloadEnabled args).CallsAfter (RemovesOwn isOvs args cRef)
      pre := by
  unfold addSetup
  refine .orReturn (CallsOnly.removesOwn (getEnvArgs_callsOnly rfl)) fun _ _ _ => ?_
  split
  refine .orReturn (CallsOnly.removesOwn ⟨rfl, fun _ => trivial⟩) fun _ _ _ =>
    .orReturn (CallsOnly.removesOwn trivial) fun _ _ _ =>
    .orReturn (CallsOnly.removesOwn ⟨rfl, fun _ => trivial⟩) fun _ _ _ =>
    .orReturn (CallsOnly.removesOwn
      (getBridgeName_callsOnly (fun _ => by rfl) (fun _ => by rfl) _ _ _))
      fun _ _ _ =>
    .orReturn (CallsOnly.removesOwn ⟨rfl, fun _ => trivial⟩) fun _ _ _ =>
    .orReturn (CallsOnly.removesOwn ?_) fun _ _ _ =>
    .orReturn (cleanPorts_callsAfter.mono fun _ _ h _ => h) fun _ _ _ =>
    .orReturn (CallsOnly.removesOwn ⟨rfl, fun _ => trivial⟩) fun _ _ _ =>
    .orReturn (CallsOnly.removesOwn ?_) fun _ _ _ =>
    .orReturn (CallsOnly.removesOwn ⟨rfl, fun _ => trivial⟩) fun _ _ _ =>
    .orReturn (CallsOnly.removesOwn ?_) fun _ ⟨_, _⟩ _ => trivial
  all_goals split
  exacts [⟨rfl, fun _ => trivial⟩, trivial, ⟨rfl, fun _ => trivial⟩, trivial, ⟨rfl, fun _ => trivial⟩,
    setupVeth_callsOnly rfl rfl (fun _ _ => rfl) rfl]

/-- The closures `CmdAdd` defers remove only the port its lookup by the container interface and
namespace found. -/
theorem addRollback_removesOwn {bridge type stdinData : String} {ipamInvoked : Bool}
    {err : Except String Unit} :
    (addRollback bridge args.ifName args.netns type stdinData ipamInvoked err).CallsAfter
      (RemovesOwn isOvs args cRef) pre := by
  unfold addRollback
  split
  · trivial
  refine .bind (CallsOnly.removesOwn ?_) fun _ _ _ => ⟨nofun, fun r => ?_⟩
  · split
    · exact .bind ⟨rfl, fun _ => trivial⟩ fun _ => trivial
    · trivial
  dsimp only [Prog.bind]
  split
  · exact .bind ⟨fun _ => .inl (by simp [*]), fun _ => trivial⟩ fun _ _ _ => trivial
  · trivial

/-- **What an attach removes**: whatever its collaborators answer, `CmdAdd` removes only the
ports its sweep found in error on the bridge and the port its rollback found tagged with the
container interface and namespace; it removes no link. -/
theorem cmdAdd_removesOwn (args : CmdArgs) (pre : List Event) :
    (cmdAdd getCRef isOvsHardwareOffloadEnabled args).CallsAfter (RemovesOwn isOvs args cRef)
      pre :=
  .orReturn addSetup_removesOwn fun _ _ _ =>
  .orReturn (CallsOnly.removesOwn (attachIfaceToBridge_callsOnly rfl rfl rfl)) fun _ _ _ =>
  .bind (CallsOnly.removesOwn (addIpam_calls rfl (fun _ => rfl) rfl rfl rfl rfl (fun _ => rfl)
    (fun _ => rfl) rfl (fun _ => rfl) fun _ => rfl)) fun _ _ _ =>
  .bind addRollback_removesOwn fun _ _ _ => trivial

end Attach

section Log

variable {getCRef : String → String → String} {isOvsHardwareOffloadEnabled : String → Bool}

/-- Every verb removes only what its invocation owns. -/
theorem Verb.handler_removesOwn (v : Verb) (args : CmdArgs) :
    (v.handler getCRef isOvsHardwareOffloadEnabled args).CallsAfter
      (RemovesOwn isOvsHardwareOffloadEnabled args (getCRef args.containerID args.ifName)) [] := by
  cases v with
  | add => exact cmdAdd_removesOwn args []
  | del => exact cmdDel_callsAfter.mono fun _ _ h _ => h
  | check =>
    exact (cmdCheck_callsOnly args).callsAfter fun _ _ hq hr => by
      rw [Call.removes_of_isQuery hq] at hr
      cases hr

/-- `GetCRef` keeps the container and interface of invocation `i` apart from those of every
attach of the log: an attach whose key is that of `i` is on the same container and
interface. -/
def Log.KeySeparates (L : Log getCRef isOvsHardwareOffloadEnabled) (i : Nat) : Prop :=
  ∀ j, (L.invocation j).1 = .add →
    getCRef (L.invocation j).2.containerID (L.invocation j).2.ifName =
      getCRef (L.invocation i).2.containerID (L.invocation i).2.ifName →
    (L.invocation j).2.containerID = (L.invocation i).2.containerID ∧
      (L.invocation j).2.ifName = (L.invocation i).2.ifName

/-- **No invocation removes what another owns.** In every log of the plugin – attaches, detaches
and verifies, their calls interleaved in any order, each possibly killed – every call removing a
port or a link was made by an invocation owning what it removed, as `OvsCni.DelOwns` lists it
for that invocation's arguments and the calls it had made before that one: a port its own lookup
by its container interface and namespace had found on that bridge, a port whose interface the
switch had listed in error on that bridge, or, for a detach with no namespace and offload, the
representor of the device of the record it loaded under its own key; a link in its own namespace
under its own interface name, or on the host the link of a port its lookup had found.

The record under its own key is its own attachment's when the cache answers each load with what
it holds and `GetCRef` keeps its container and interface apart from the other attaches'
(`OvsCni.Log.KeySeparates`): every record it loaded before the removal was then saved by an
attach of the same container and interface. -/
theorem Log.removes_own (L : Log getCRef isOvsHardwareOffloadEnabled) {i : Nat} {ev : Event}
    (hm : (i, ev) ∈ L.calls) (hr : ev.1.removes = true) :
    ∃ before after, ownCalls i L.calls = before ++ ev :: after ∧
      DelOwns isOvsHardwareOffloadEnabled (L.invocation i).2
        (getCRef (L.invocation i).2.containerID (L.invocation i).2.ifName) before ev.1 ∧
      (servesLoads (fun _ => none) (L.calls.map Prod.snd) = true → L.KeySeparates i →
        ∀ R, ⟨.loadConfFromCache (getCRef (L.invocation i).2.containerID
          (L.invocation i).2.ifName), .ok R⟩ ∈ before →
        ∃ j, (L.invocation j).1 = .add ∧
          (L.invocation j).2.containerID = (L.invocation i).2.containerID ∧
          (L.invocation j).2.ifName = (L.invocation i).2.ifName ∧
          ∃ r, ⟨.saveCache (getCRef (L.invocation i).2.containerID (L.invocation i).2.ifName) R,
            r⟩ ∈ ownCalls j L.calls) := by
  obtain ⟨before, after, hsplit⟩ := List.append_of_mem (mem_ownCalls hm)
  refine ⟨before, after, hsplit,
    Reaches.callsAfter_of_eq (L.reaches i) (Verb.handler_removesOwn _ _) hsplit hr,
    fun hserve hsep R hR => ?_⟩
  have hload : ⟨.loadConfFromCache _, .ok R⟩ ∈ ownCalls i L.calls :=
    hsplit ▸ List.mem_append_left _ hR
  obtain ⟨j, hadd, hkey, hsave, -⟩ := L.load_saved hserve (mem_ownCalls_iff.mp hload)
  exact ⟨j, hadd, (hsep j hadd hkey.symm).1, (hsep j hadd hkey.symm).2, hsave⟩

end Log

theorem removes_own_linkGone :
    ((1 : Nat), (⟨.deletePort "br0" "veth1", .ok ()⟩ : Event)) ∈ attachDetachLog.calls ∧
    servesLoads (fun _ => none) (attachDetachLog.calls.map Prod.snd) = true ∧
    attachDetachLog.KeySeparates 1 ∧
    ∃ before after, ownCalls 1 attachDetachLog.calls =
        before ++ ⟨.deletePort "br0" "veth1", .ok ()⟩ :: after ∧
      DelOwns (fun _ => false) attachArgs (attachArgs.containerID ++ "-" ++ attachArgs.ifName) before
        (.deletePort "br0" "veth1") ∧
      (servesLoads (fun _ => none) (attachDetachLog.calls.map Prod.snd) = true →
        attachDetachLog.KeySeparates 1 →
        ∀ R, ⟨.loadConfFromCache (attachArgs.containerID ++ "-" ++ attachArgs.ifName), .ok R⟩ ∈
          before →
        ∃ j, (attachDetachLog.invocation j).1 = .add ∧
          (attachDetachLog.invocation j).2.containerID = attachArgs.containerID ∧
          (attachDetachLog.invocation j).2.ifName = attachArgs.ifName ∧
          ∃ r, ⟨.saveCache (attachArgs.containerID ++ "-" ++ attachArgs.ifName) R, r⟩ ∈
            ownCalls j attachDetachLog.calls) :=
  have hm : ((1 : Nat), (⟨.deletePort "br0" "veth1", .ok ()⟩ : Event)) ∈ attachDetachLog.calls := by
    simp [attachDetachLog, linkGoneRun]
  ⟨hm, by decide, fun j _ _ => by cases j <;> exact ⟨rfl, rfl⟩,
    Log.removes_own attachDetachLog hm rfl⟩

end OvsCni
