import OvsCni.Recovery
import OvsCni.CmdCheck

/-!
# The cache over many invocations

The container runtime runs the plugin once per verb – attach, detach, verify – and each run is
a process of its own: several may run at once, for different containers or interfaces, and any
of them may be killed. What one run leaves for the next is in the cache store and the switch
database. This file looks at the cache across all of them.

A log of the plugin (`OvsCni.Log`) is any number of invocations, each a verb and its
arguments, with the calls of all of them interleaved in any order; each invocation made the
calls of a run of its handler, cut wherever it was killed. The store after the log is the
store after its calls, taken in the order of the log.

Two things make the cache what the detach relies on, and they are shown of every such log.

* Only an attach saves, and it saves under the key of its own container and interface a record
  whose bridge is the one its `getBridgeName` resolved from the configuration on its standard
  input and the `OvnPort` of its environment arguments (`OvsCni.BridgeResolved`,
  `OvsCni.cmdAdd_savesResolved`); a detach only drops
  the record of its own key and a verify does not write at all. So the record under a key is
  what the invocations of that key leave there, whatever the others do and however their calls
  interleave (`OvsCni.Log.record_of_own_invocations`).
* Hence every record the cache holds after any log was saved by an attach under its own key,
  and names the bridge that attach resolved – never the empty bridge, as long as the switch
  database never named it (`OvsCni.Log.records_from_attach`).

A detach given such a record takes the bridge from it as it is
(`OvsCni.cmdDel_onRecordedBridge`). So in a log where the cache answers each load with what it
holds at that point, no detach asks the SR-IOV state or the switch database where a bridge is,
and every call a detach makes to a bridge is to the one the attach that saved its record
resolved (`OvsCni.Log.del_takes_recorded_bridge`), whatever the switch says by then.

Once a record is dropped, a later detach of the same container and interface – no attach of
them having run in between – finds nothing: its load fails and it stops there with nil
(`OvsCni.Log.del_after_drop`). A detach that returned an error after dropping the record, which
`OvsCni.cmdDel_cleanup_disagrees` allows when the removal of its port or a sweep failed, is
therefore retried for nothing. A verify started after the drop passes only if an attach of the
same container and interface saved a record again before the verify loaded it
(`OvsCni.Log.check_after_drop`).
-/

namespace OvsCni

open Prog

/-! ### What a saved record holds -/

/-- The bridge `b` is the one the `getBridgeName` of an attach on the arguments `args` resolved,
among the calls `hist` it made: the result of `getBridgeName` run on the bridge and `DeviceID`
of the configuration it loaded from its standard input and on the `OvnPort` of the environment
arguments it parsed. -/
def BridgeResolved (args : CmdArgs) (hist : List Event) (b : String) : Prop :=
  ∃ envArgs evsE N evsB, Runs (getEnvArgs args.args) evsE (.ok envArgs) ∧ evsE ⊆ hist ∧
    ⟨.loadConf args.stdinData, .ok N⟩ ∈ hist ∧
    Runs (getBridgeName N.brName (EnvArgs.fields envArgs).2.1 N.deviceID) evsB (.ok b) ∧ evsB ⊆ hist

theorem BridgeResolved.mono {args : CmdArgs} {h₁ h₂ : List Event} {b : String}
    (hb : BridgeResolved args h₁ b) (hsub : h₁ ⊆ h₂) : BridgeResolved args h₂ b :=
  let ⟨envArgs, evsE, N, evsB, hE, hE₁, hN, hB, hB₁⟩ := hb
  ⟨envArgs, evsE, N, evsB, hE, hE₁.trans hsub, hsub hN, hB, hB₁.trans hsub⟩

/-- A bridge resolved among calls in which the switch database never named the empty bridge is
not empty. -/
theorem BridgeResolved.ne_empty {args : CmdArgs} {hist : List Event} {b : String}
    (hb : BridgeResolved args hist b)
    (hne : ∀ u, ⟨.findBridgeByInterface u, .ok ""⟩ ∉ hist) : b ≠ "" :=
  let ⟨_, _, _, _, _, _, _, hB, hB₁⟩ := hb
  getBridgeName_ne_empty hB fun u hu => hne u (hB₁ hu)

/-- What a call of an attach on `args` writing to the cache writes, given the calls made before
it: it saves, under the key `cRef`, a record whose bridge that attach resolved among those calls.
A call that does not write satisfies it. -/
def SavesResolved (args : CmdArgs) (cRef : String) (hist : List Event) (c : Call) : Prop :=
  c.writesCache = true → ∃ R, c = .saveCache cRef R ∧ BridgeResolved args hist R.netconf.brName

theorem SavesResolved.mono {args : CmdArgs} {cRef : String} {h₁ h₂ : List Event} {c : Call}
    (hsub : h₁ ⊆ h₂) (h : SavesResolved args cRef h₁ c) : SavesResolved args cRef h₂ c :=
  fun hw => (h hw).imp fun _ hR => ⟨hR.1, hR.2.mono hsub⟩

section Attach

variable {getCRef : String → String → String} {isOvsHardwareOffloadEnabled : String → Bool}
  {cRef : String}

/-- A program that writes nothing to the cache saves nothing unresolved. -/
theorem CallsOnly.savesResolved {α : Type} {p : Plugin α} {args : CmdArgs} {pre : List Event}
    (hp : p.CallsOnly fun c => c.writesCache = false) :
    p.CallsAfter (SavesResolved args cRef) pre :=
  hp.callsAfter fun _ _ hw hw' => by rw [hw] at hw'; cases hw'

/-- **The set-up of `CmdAdd` saves the record under its own key, after resolving its bridge**
from the configuration and the environment arguments it parsed. -/
theorem addSetup_savesResolved (args : CmdArgs) (pre : List Event) :
    (addSetup getCRef isOvsHardwareOffloadEnabled args).CallsAfter
      (SavesResolved args (getCRef args.containerID args.ifName)) pre := by
  unfold addSetup
  refine .orReturn (CallsOnly.savesResolved (getEnvArgs_callsOnly rfl)) fun evsE envArgs hE => ?_
  generalize hf : EnvArgs.fields envArgs = t
  obtain ⟨_, ovnPort, _⟩ := t
  refine .orReturn (CallsOnly.savesResolved ⟨rfl, fun _ => trivial⟩) fun evsN N hN =>
    .orReturn (CallsOnly.savesResolved trivial) fun _ _ _ =>
    .orReturn (CallsOnly.savesResolved ⟨rfl, fun _ => trivial⟩) fun _ _ _ =>
    .orReturn (CallsOnly.savesResolved
      (getBridgeName_callsOnly (fun _ => by rfl) (fun _ => by rfl) _ _ _))
      fun evsB _ hB => ?_
  refine .orReturn (CallsOnly.savesResolved ⟨rfl, fun _ => trivial⟩) fun _ _ _ =>
    .orReturn (CallsOnly.savesResolved ?_) fun _ _ _ =>
    .orReturn (CallsOnly.savesResolved (cleanPorts_callsOnly rfl fun _ => rfl)) fun _ _ _ =>
    .orReturn (CallsOnly.savesResolved ⟨rfl, fun _ => trivial⟩) fun _ _ _ =>
    .orReturn (CallsOnly.savesResolved ?_) fun _ _ _ =>
    .orReturn ⟨fun _ => ?_, fun _ => trivial⟩ fun _ _ _ =>
    .orReturn (CallsOnly.savesResolved ?_) fun _ ⟨_, _⟩ _ => trivial
  · split
    exacts [⟨rfl, fun _ => trivial⟩, trivial]
  · split
    exacts [⟨rfl, fun _ => trivial⟩, trivial]
  · rw [loadConf, runs_call_ret] at hN
    subst hN
    exact ⟨_, rfl, envArgs, evsE, N, evsB, hE,
      fun _ h => by simp only [List.mem_append, h, true_or, or_true],
      by simp only [List.mem_append, List.mem_singleton, true_or, or_true],
      by rwa [hf], fun _ h => by simp only [List.mem_append, h, true_or, or_true]⟩
  · split
    exacts [⟨rfl, fun _ => trivial⟩, setupVeth_callsOnly rfl rfl (fun _ _ => rfl) rfl]

/-- **`CmdAdd` saves only its own record, with the bridge it resolved.** Whatever the
collaborators answer, a call of `CmdAdd` saving a record saves it under the key of the
container and interface, and the record's bridge is the result of the run of `getBridgeName` on
the configuration and the environment arguments it parsed; nothing after the set-up writes to
the cache. -/
theorem cmdAdd_savesResolved (args : CmdArgs) (pre : List Event) :
    (cmdAdd getCRef isOvsHardwareOffloadEnabled args).CallsAfter
      (SavesResolved args (getCRef args.containerID args.ifName)) pre := by
  refine .orReturn (addSetup_savesResolved args pre) fun _ s _ => CallsOnly.savesResolved ?_
  refine .orReturn ((addAttach_callsOnly s).mono fun _ hc => hc.2.2.1) fun _ =>
    .bind ((addIpam_callsOnly args s).mono fun _ hc => hc.2.2) fun _ =>
    .bind ((addRollback_callsOnly _ _ _ _ _ _ _).mono fun _ hc => hc.2.1) fun _ => trivial

end Attach

/-- A detach, complete or cut short, saves no record. -/
theorem cmdDel_saves_nothing {getCRef : String → String → String}
    {isOvsHardwareOffloadEnabled : String → Bool} {args : CmdArgs} {evs : List Event}
    (h : Reaches (cmdDel getCRef isOvsHardwareOffloadEnabled args) evs) :
    ∀ key R r, ⟨.saveCache key R, r⟩ ∉ evs := fun _ _ _ hm =>
  h.callsAfter cmdDel_callsAfter (fun _ _ _ hsub hc => DelOwns.mono hsub hc) _ hm

/-! ### Invocations, interleaved -/

/-- The verb the container runtime runs the plugin with. -/
inductive Verb where
  /-- Attach: `CmdAdd`. -/
  | add
  /-- Detach: `CmdDel`. -/
  | del
  /-- Verify: `CmdCheck`. -/
  | check
  deriving DecidableEq, Repr

/-- The handler the plugin runs for a verb. -/
def Verb.handler (getCRef : String → String → String)
    (isOvsHardwareOffloadEnabled : String → Bool) : Verb → CmdArgs → Plugin (Except String Unit)
  | .add => cmdAdd getCRef isOvsHardwareOffloadEnabled
  | .del => cmdDel getCRef isOvsHardwareOffloadEnabled
  | .check => cmdCheck getCRef isOvsHardwareOffloadEnabled

/-- The calls of invocation `i` in a log of calls, each tagged with the invocation that made
it. -/
def ownCalls (i : Nat) (log : List (Nat × Event)) : List Event :=
  log.filterMap fun x => if x.1 = i then some x.2 else none

theorem mem_ownCalls {i : Nat} {ev : Event} {log : List (Nat × Event)} (h : (i, ev) ∈ log) :
    ev ∈ ownCalls i log :=
  List.mem_filterMap.mpr ⟨_, h, if_pos rfl⟩

/-- An invocation makes none of the calls of another. -/
theorem ownCalls_map_of_ne {i j : Nat} (h : j ≠ i) (evs : List Event) :
    ownCalls i (evs.map (Prod.mk j)) = [] := by
  simp [ownCalls, h]

/-- A log of the plugin: invocations, each of a verb on its arguments, run as separate
processes; the calls of all of them, with their answers, interleave in any order, and each
invocation made the calls of a run of its handler, cut wherever it was killed. -/
structure Log (getCRef : String → String → String) (isOvsHardwareOffloadEnabled : String → Bool)
    where
  /-- The verb and the arguments of each invocation. -/
  invocation : Nat → Verb × CmdArgs
  /-- The calls of all the invocations, in the order they were made, each tagged with the
  invocation that made it. -/
  calls : List (Nat × Event)
  /-- Each invocation made the calls of a cut run of its handler. -/
  reaches : ∀ i, Reaches ((invocation i).1.handler getCRef isOvsHardwareOffloadEnabled
    (invocation i).2) (ownCalls i calls)

section Log

variable {getCRef : String → String → String} {isOvsHardwareOffloadEnabled : String → Bool}

/-- What each call saving a record in a log saves: the invocation that made it is an attach, the
key is that of its container and interface, and the bridge is the one that invocation
resolved. -/
theorem Log.saveCache_from_attach (L : Log getCRef isOvsHardwareOffloadEnabled) {i : Nat}
    {key : String} {R : CachedNetConf} {r : Except String Unit}
    (hm : (i, (⟨.saveCache key R, r⟩ : Event)) ∈ L.calls) :
    (L.invocation i).1 = .add ∧
      key = getCRef (L.invocation i).2.containerID (L.invocation i).2.ifName ∧
      BridgeResolved (L.invocation i).2 (ownCalls i L.calls) R.netconf.brName := by
  have hown := mem_ownCalls hm
  have hi := L.reaches i
  generalize L.invocation i = inv at hi ⊢
  obtain ⟨verb, args⟩ := inv
  cases verb with
  | add =>
    have h := hi.callsAfter (cmdAdd_savesResolved args []) (fun _ _ _ hsub hc => hc.mono hsub)
      _ hown rfl
    rw [List.nil_append] at h
    obtain ⟨_, hc, hb⟩ := h
    cases hc
    exact ⟨rfl, rfl, hb⟩
  | del => exact absurd hown (cmdDel_saves_nothing hi key R r)
  | check => cases Call.writesCache_of_isQuery (hi.calls _ (cmdCheck_callsOnly args) _ hown)

/-- Every call of a log that saves or drops a record does so under the key of the invocation
that made it. -/
theorem Log.writes_own_key (L : Log getCRef isOvsHardwareOffloadEnabled) {j : Nat} {ev : Event}
    (hm : (j, ev) ∈ L.calls) {key : String}
    (hw : (∃ R, ev.1 = .saveCache key R) ∨ ev.1 = .cleanCache key) :
    key = getCRef (L.invocation j).2.containerID (L.invocation j).2.ifName := by
  have hown := mem_ownCalls hm
  have hj := L.reaches j
  generalize L.invocation j = inv at hj ⊢
  obtain ⟨verb, args⟩ := inv
  have hwc : ev.1.writesCache = true := by rcases hw with ⟨R, hc⟩ | hc <;> rw [hc] <;> rfl
  cases verb with
  | add =>
    obtain ⟨R', hc, -⟩ := hj.callsAfter (cmdAdd_savesResolved args [])
      (fun _ _ _ hsub hc => hc.mono hsub) _ hown hwc
    rcases hw with ⟨R, hc'⟩ | hc' <;> rw [hc'] at hc <;> cases hc
    rfl
  | del =>
    have hown' := hj.callsAfter cmdDel_callsAfter (fun _ _ _ hsub hc => DelOwns.mono hsub hc) _ hown
    rcases hw with ⟨R, hc⟩ | hc <;> rw [hc] at hown'
    · exact hown'.elim
    · exact hown'
  | check =>
    rw [Call.writesCache_of_isQuery (hj.calls _ (cmdCheck_callsOnly args) _ hown)] at hwc
    cases hwc

/-- **Invocations of other attachments leave a record alone.** After any log of the plugin, the
record under a key is the one the invocations of that key alone leave there: dropping from the
log every call of the invocations whose container and interface have another key – whatever
they did, wherever they were killed and however their calls interleaved with the others –
changes nothing under that key. -/
theorem Log.record_of_own_invocations (L : Log getCRef isOvsHardwareOffloadEnabled) (st : Store)
    (key : String) :
    st.after ((L.calls.filter fun x =>
        getCRef (L.invocation x.1).2.containerID (L.invocation x.1).2.ifName = key).map Prod.snd)
        key =
      st.after (L.calls.map Prod.snd) key := by
  refine Store.after_filter _ _ _ (fun x hx hp => ⟨fun R hs => ?_, fun hc => ?_⟩) rfl
  · exact absurd (L.writes_own_key hx (.inl ⟨R, hs⟩)).symm (of_decide_eq_false hp)
  · exact absurd (L.writes_own_key hx (.inr hc)).symm (of_decide_eq_false hp)

/-- A record of the cache after a log, which was empty before, was saved by an attach
invocation under its own key, with the bridge that invocation resolved. -/
theorem Log.record_saved (L : Log getCRef isOvsHardwareOffloadEnabled) {key : String}
    {R : CachedNetConf} (h : Store.after (fun _ => none) (L.calls.map Prod.snd) key = some R) :
    ∃ i, (L.invocation i).1 = .add ∧
      key = getCRef (L.invocation i).2.containerID (L.invocation i).2.ifName ∧
      (∃ r, ⟨.saveCache key R, r⟩ ∈ ownCalls i L.calls) ∧
      BridgeResolved (L.invocation i).2 (ownCalls i L.calls) R.netconf.brName := by
  rcases Store.after_eq_some h with h₀ | ⟨r, hm⟩
  · cases h₀
  obtain ⟨⟨i, _⟩, hm, hev⟩ := List.mem_map.mp hm
  cases hev
  obtain ⟨hadd, hkey, hb⟩ := L.saveCache_from_attach hm
  exact ⟨i, hadd, hkey, ⟨r, mem_ownCalls hm⟩, hb⟩

/-- **Every record in the cache was saved by an attach, under its own key, with the bridge it
resolved.** After any log of the plugin – attaches, detaches and verifies, interleaved in any
order, each possibly killed – every record of the cache, which was empty before, was saved by an
attach invocation under the key of its container and interface, and names the bridge that
invocation's `getBridgeName` resolved from the configuration and the environment arguments it
was given; when the switch database never named the empty bridge to that invocation, the bridge
is not empty. -/
theorem Log.records_from_attach (L : Log getCRef isOvsHardwareOffloadEnabled) {key : String}
    {R : CachedNetConf} (h : Store.after (fun _ => none) (L.calls.map Prod.snd) key = some R) :
    ∃ i, (L.invocation i).1 = .add ∧
      key = getCRef (L.invocation i).2.containerID (L.invocation i).2.ifName ∧
      (∃ r, ⟨.saveCache key R, r⟩ ∈ ownCalls i L.calls) ∧
      BridgeResolved (L.invocation i).2 (ownCalls i L.calls) R.netconf.brName ∧
      ((∀ u, ⟨.findBridgeByInterface u, .ok ""⟩ ∉ ownCalls i L.calls) → R.netconf.brName ≠ "") :=
  let ⟨i, hadd, hkey, hsave, hb⟩ := L.record_saved h
  ⟨i, hadd, hkey, hsave, hb, hb.ne_empty⟩

end Log

/-- An attach of `attachArgs`, invocation `0`, killed right after it saved its record. -/
def killedAttachLog : Log (fun containerID ifName => containerID ++ "-" ++ ifName) (fun _ => false)
    where
  invocation _ := (.add, attachArgs)
  calls := (linkDownRun.take 6).map (Prod.mk 0)
  reaches i := by
    by_cases hi : i = 0
    · subst hi
      exact .call _ (.call _ (.call _ (.call _ (.call _ (.call _ (.nil _))))))
    · rw [ownCalls_map_of_ne (Ne.symm hi)]
      exact .nil _

theorem records_from_attach_killed :
    Store.after (fun _ => none) (killedAttachLog.calls.map Prod.snd) "c1-eth0" =
      some ⟨bridgeConf, "", false⟩ ∧
    ∃ i, (killedAttachLog.invocation i).1 = .add ∧
      "c1-eth0" = (fun containerID ifName => containerID ++ "-" ++ ifName)
        (killedAttachLog.invocation i).2.containerID (killedAttachLog.invocation i).2.ifName ∧
      (∃ r, ⟨.saveCache "c1-eth0" ⟨bridgeConf, "", false⟩, r⟩ ∈ ownCalls i killedAttachLog.calls) ∧
      BridgeResolved (killedAttachLog.invocation i).2 (ownCalls i killedAttachLog.calls)
        bridgeConf.brName ∧
      ((∀ u, ⟨.findBridgeByInterface u, .ok ""⟩ ∉ ownCalls i killedAttachLog.calls) →
        bridgeConf.brName ≠ "") :=
  have h : Store.after (fun _ => none) (killedAttachLog.calls.map Prod.snd) "c1-eth0" =
      some ⟨bridgeConf, "", false⟩ := rfl
  ⟨h, Log.records_from_attach killedAttachLog h⟩

/-! ### A detach served from the cache -/

theorem mem_ownCalls_iff {i : Nat} {ev : Event} {log : List (Nat × Event)} :
    ev ∈ ownCalls i log ↔ (i, ev) ∈ log := by
  simp [ownCalls]

theorem ownCalls_append (i : Nat) (l₁ l₂ : List (Nat × Event)) :
    ownCalls i (l₁ ++ l₂) = ownCalls i l₁ ++ ownCalls i l₂ :=
  List.filterMap_append _ _ _

theorem ownCalls_map_self (i : Nat) (evs : List Event) : ownCalls i (evs.map (Prod.mk i)) = evs := by
  simp [ownCalls, Function.comp_def]

theorem ownCalls_map (i j : Nat) (evs : List Event) :
    ownCalls i (evs.map (Prod.mk j)) = if j = i then evs else [] := by
  split
  · subst ‹j = i›; exact ownCalls_map_self j evs
  · exact ownCalls_map_of_ne ‹_› evs

/-- A log cut after its first calls `pre` is a log. -/
def Log.cut {getCRef : String → String → String} {isOvsHardwareOffloadEnabled : String → Bool}
    (L : Log getCRef isOvsHardwareOffloadEnabled) (pre post : List (Nat × Event))
    (h : L.calls = pre ++ post) : Log getCRef isOvsHardwareOffloadEnabled where
  invocation := L.invocation
  calls := pre
  reaches i := by
    have hi := L.reaches i
    rw [h, ownCalls_append] at hi
    exact hi.append_left

/-- The key and the record a call loaded from the cache, if it is a load that succeeded. -/
def Event.loaded : Event → Option (String × CachedNetConf)
  | ⟨.loadConfFromCache key, .ok R⟩ => some (key, R)
  | _ => none

/-- Whether the cache store, from `st` on, answers each load of the calls `evs` that succeeds
with the record it holds at that point. -/
def servesLoads (st : Store) : List Event → Bool
  | [] => true
  | ev :: evs =>
    (match ev.loaded with
      | some (key, R) => st key == some R
      | none => true) && servesLoads (st.apply ev) evs

/-- A load served by the store is answered the record the store holds after the calls before
it. -/
theorem servesLoads_load {st : Store} {pre post : List Event} {key : String} {R : CachedNetConf}
    (h : servesLoads st (pre ++ ⟨.loadConfFromCache key, .ok R⟩ :: post) = true) :
    st.after pre key = some R := by
  induction pre generalizing st with
  | nil =>
    simp only [List.nil_append, servesLoads, Event.loaded, Bool.and_eq_true, beq_iff_eq] at h
    exact h.1
  | cons ev pre ih =>
    simp only [List.cons_append, servesLoads, Bool.and_eq_true] at h
    exact ih h.2

section Served

variable {getCRef : String → String → String} {isOvsHardwareOffloadEnabled : String → Bool}

/-- In a log whose cache answers each load with the record it holds, from empty, a record an
invocation loads was saved under that key by an attach invocation of that key, with the bridge
that attach resolved. -/
theorem Log.load_saved (L : Log getCRef isOvsHardwareOffloadEnabled)
    (hserve : servesLoads (fun _ => none) (L.calls.map Prod.snd) = true) {i : Nat} {key : String}
    {R : CachedNetConf} (hm : (i, ⟨.loadConfFromCache key, .ok R⟩) ∈ L.calls) :
    ∃ j, (L.invocation j).1 = .add ∧
      key = getCRef (L.invocation j).2.containerID (L.invocation j).2.ifName ∧
      (∃ r, ⟨.saveCache key R, r⟩ ∈ ownCalls j L.calls) ∧
      BridgeResolved (L.invocation j).2 (ownCalls j L.calls) R.netconf.brName := by
  obtain ⟨pre, post, hsplit⟩ := List.append_of_mem hm
  have hst : Store.after (fun _ => none) (pre.map Prod.snd) key = some R :=
    servesLoads_load (by simpa [hsplit] using hserve)
  have hsub : ∀ j, ownCalls j pre ⊆ ownCalls j L.calls := fun j => by
    rw [hsplit, ownCalls_append]
    exact List.subset_append_left _ _
  obtain ⟨j, hadd, hkey, ⟨r, hsave⟩, hb⟩ := (L.cut pre _ hsplit).record_saved hst
  exact ⟨j, hadd, hkey, ⟨r, hsub j hsave⟩, hb.mono (hsub j)⟩

/-- **A detach served from the cache works on the bridge the attach resolved.** In every log of
the plugin in which the cache answers each load with the record it holds at that point, and the
switch database never names the empty bridge, a detach asks neither the SR-IOV state nor the
switch database where a bridge is; and every record it loads is the one under the key of its own
container and interface, saved there by an attach of that key with the bridge that attach
resolved, which is not empty – and every call of the detach to a bridge is to that bridge. -/
theorem Log.del_takes_recorded_bridge (L : Log getCRef isOvsHardwareOffloadEnabled)
    (hserve : servesLoads (fun _ => none) (L.calls.map Prod.snd) = true)
    (hne : ∀ x ∈ L.calls, ∀ u, x.2 ≠ ⟨.findBridgeByInterface u, .ok ""⟩) {i : Nat}
    (hi : (L.invocation i).1 = .del) :
    (∀ ev ∈ ownCalls i L.calls, ev.1.resolvesBridge = false) ∧
    ∀ key R, ⟨.loadConfFromCache key, .ok R⟩ ∈ ownCalls i L.calls →
      key = getCRef (L.invocation i).2.containerID (L.invocation i).2.ifName ∧
      (∃ j, (L.invocation j).1 = .add ∧
        key = getCRef (L.invocation j).2.containerID (L.invocation j).2.ifName ∧
        (∃ r, ⟨.saveCache key R, r⟩ ∈ ownCalls j L.calls) ∧
        BridgeResolved (L.invocation j).2 (ownCalls j L.calls) R.netconf.brName) ∧
      R.netconf.brName ≠ "" ∧ ∀ ev ∈ ownCalls i L.calls, ev.1.OnBridge R.netconf.brName := by
  have hd := L.reaches i
  rw [hi] at hd
  -- the bridge of a record the detach loads is the one the attach that saved it resolved
  have hbr : ∀ key R, ⟨.loadConfFromCache key, .ok R⟩ ∈ ownCalls i L.calls →
      R.netconf.brName ≠ "" := fun _ _ hm =>
    let ⟨_, _, _, _, hb⟩ := L.load_saved hserve (mem_ownCalls_iff.mp hm)
    hb.ne_empty fun u hu => hne _ (mem_ownCalls_iff.mp hu) u rfl
  refine ⟨fun ev hev => ?_, fun key R hm => ?_⟩
  · -- a detach that loaded no record made no call but the failed load
    rcases reaches_cmdDel hd with h₀ | ⟨r, rest, hsplit, -, herr⟩
    · rw [h₀] at hev
      cases hev
    rcases r with e | R
    · rw [hsplit, herr e rfl, List.mem_singleton] at hev
      rw [hev]
      rfl
    · have hm : ⟨.loadConfFromCache _, .ok R⟩ ∈ ownCalls i L.calls :=
        hsplit ▸ List.mem_cons_self _ _
      exact ((cmdDel_onRecordedBridge hd hm).2 (hbr _ R hm) ev hev).1
  · obtain ⟨hkey, hon⟩ := cmdDel_onRecordedBridge hd hm
    exact ⟨hkey, L.load_saved hserve (mem_ownCalls_iff.mp hm), hbr key R hm, hon (hbr key R hm)⟩

end Served

/-! ### A detach after the record was dropped -/

section Dropped

variable {getCRef : String → String → String} {isOvsHardwareOffloadEnabled : String → Bool}

/-- After a call dropped the record under `key`, a load of `key` served from the cache is
answered with an error, unless an attach of that key made a call in between. -/
theorem Log.load_after_drop (L : Log getCRef isOvsHardwareOffloadEnabled) {st : Store}
    (hserve : servesLoads st (L.calls.map Prod.snd) = true) {i j : Nat} {key : String}
    {pre₁ pre₂ post : List (Nat × Event)} {r : Except String CachedNetConf}
    (hsplit : L.calls = pre₁ ++ (i, ⟨.cleanCache key, .ok ()⟩) :: pre₂ ++
      (j, ⟨.loadConfFromCache key, r⟩) :: post)
    (hnoadd : ∀ x ∈ pre₂, (L.invocation x.1).1 = .add →
      getCRef (L.invocation x.1).2.containerID (L.invocation x.1).2.ifName ≠ key) :
    ∃ e, r = .error e := by
  -- nothing is saved under `key` after the drop: the store holds nothing there at the load
  have hnone : st.after ((pre₁ ++ (i, ⟨.cleanCache key, .ok ()⟩) :: pre₂).map Prod.snd) key =
      none := by
    rw [List.map_append, List.map_cons, Store.after_append, Store.after_cons]
    cases hR : ((st.after (pre₁.map Prod.snd)).apply ⟨.cleanCache key, .ok ()⟩).after
        (pre₂.map Prod.snd) key with
    | none => rfl
    | some R =>
      rcases Store.after_eq_some hR with h₀ | ⟨r', hm⟩
      · simp [Store.apply] at h₀
      obtain ⟨x, hx, hxe⟩ := List.mem_map.mp hm
      have hxL : (x.1, (⟨.saveCache key R, r'⟩ : Event)) ∈ L.calls := by
        rw [hsplit, ← hxe]
        simp [hx]
      obtain ⟨hadd, hk, -⟩ := L.saveCache_from_attach hxL
      exact absurd hk.symm (hnoadd x hx hadd)
  rcases r with e | R
  · exact ⟨e, rfl⟩
  rw [hsplit, List.map_append] at hserve
  have := servesLoads_load hserve
  rw [hnone] at this
  cases this

/-- **A detach after the record was dropped finds nothing to undo.** In every log in which the
cache answers each load with what it holds at that point, once a call has dropped the record
under `key`, a detach whose container and interface have that key and whose load comes later –
no attach of that key having made a call in between – has its load answered with an error,
makes no other call, and returns nil if it completes. A detach retried after one that dropped
the record, even one that returned an error, therefore does nothing. -/
theorem Log.del_after_drop (L : Log getCRef isOvsHardwareOffloadEnabled) {st : Store}
    (hserve : servesLoads st (L.calls.map Prod.snd) = true) {i j : Nat} {key : String}
    (hj : (L.invocation j).1 = .del)
    (hkey : getCRef (L.invocation j).2.containerID (L.invocation j).2.ifName = key)
    {pre₁ pre₂ post : List (Nat × Event)} {r : Except String CachedNetConf}
    (hsplit : L.calls = pre₁ ++ (i, ⟨.cleanCache key, .ok ()⟩) :: pre₂ ++
      (j, ⟨.loadConfFromCache key, r⟩) :: post)
    (hnoadd : ∀ x ∈ pre₂, (L.invocation x.1).1 = .add →
      getCRef (L.invocation x.1).2.containerID (L.invocation x.1).2.ifName ≠ key) :
    (∃ e, r = .error e) ∧ ownCalls j L.calls = [⟨.loadConfFromCache key, r⟩] ∧
      ∀ res, Runs ((L.invocation j).1.handler getCRef isOvsHardwareOffloadEnabled
        (L.invocation j).2) (ownCalls j L.calls) res → res = .ok () := by
  obtain ⟨e, rfl⟩ := L.load_after_drop hserve hsplit hnoadd
  -- the load is the detach's first call, and it stops there
  have hown : ownCalls j L.calls = ownCalls j (pre₁ ++ (i, ⟨.cleanCache key, .ok ()⟩) :: pre₂) ++
      ⟨.loadConfFromCache key, .error e⟩ :: ownCalls j post := by
    rw [hsplit, ownCalls_append]
    simp [ownCalls]
  have hd := L.reaches j
  rw [hj] at hd
  rcases reaches_cmdDel hd with h0 | ⟨r₀, rest, h₀, hrest, hstop⟩
  · simp [hown] at h0
  rw [hown, hkey] at h₀
  have hone : ownCalls j L.calls = [⟨.loadConfFromCache key, .error e⟩] := by
    rcases hpre : ownCalls j (pre₁ ++ (i, ⟨.cleanCache key, .ok ()⟩) :: pre₂) with _ | ⟨a, A⟩
    · rw [hpre, List.nil_append] at h₀
      obtain ⟨h₁, rfl⟩ := List.cons.inj h₀
      obtain rfl : r₀ = .error e := by cases h₁; rfl
      rw [hown, hpre, hstop e rfl]
      rfl
    · rw [hpre] at h₀
      obtain ⟨-, rfl⟩ := List.cons.inj h₀
      cases hrest _ (List.mem_append_right _ (List.mem_cons_self _ _))
  refine ⟨⟨e, rfl⟩, hone, fun res hres => ?_⟩
  rw [hj, hone] at hres
  rcases runs_cmdDel hres with ⟨_, -, rfl⟩ | ⟨_, _, _, _, h₁, -⟩
  · rfl
  · cases (List.cons.inj h₁).1

/-- **A verify after the record was dropped fails, unless the attachment was made again.** In
every log in which the cache answers each load with what it holds at that point, a verify that
made no call before a call dropping the record under the key of its container and interface
returns nil only if it loaded a record, and an attach of that key made a call between the drop
and that load. -/
theorem Log.check_after_drop (L : Log getCRef isOvsHardwareOffloadEnabled) {st : Store}
    (hserve : servesLoads st (L.calls.map Prod.snd) = true) {i j : Nat} {key : String}
    (hj : (L.invocation j).1 = .check)
    (hkey : getCRef (L.invocation j).2.containerID (L.invocation j).2.ifName = key)
    {pre post : List (Nat × Event)} (hsplit : L.calls = pre ++ (i, ⟨.cleanCache key, .ok ()⟩) :: post)
    (hlater : ∀ x ∈ pre, x.1 ≠ j)
    (hok : Runs ((L.invocation j).1.handler getCRef isOvsHardwareOffloadEnabled (L.invocation j).2)
      (ownCalls j L.calls) (.ok ())) :
    ∃ R mid post', post = mid ++ (j, ⟨.loadConfFromCache key, .ok R⟩) :: post' ∧
      ∃ x ∈ mid, (L.invocation x.1).1 = .add ∧
        getCRef (L.invocation x.1).2.containerID (L.invocation x.1).2.ifName = key := by
  rw [hj] at hok
  obtain ⟨R, hR⟩ := cmdCheck_ok_loads hok
  rw [hkey, mem_ownCalls_iff, hsplit] at hR
  -- the verify's load comes after the drop
  have hpost : (j, (⟨.loadConfFromCache key, .ok R⟩ : Event)) ∈ post := by
    rcases List.mem_append.mp hR with hm | hm
    · exact absurd rfl (hlater _ hm)
    rcases List.mem_cons.mp hm with he | hm
    · simp at he
    · exact hm
  obtain ⟨mid, post', rfl⟩ := List.append_of_mem hpost
  refine ⟨R, mid, post', rfl, ?_⟩
  by_contra hno
  push_neg at hno
  have hsplit' : L.calls = pre ++ (i, ⟨.cleanCache key, .ok ()⟩) :: mid ++
      (j, ⟨.loadConfFromCache key, .ok R⟩) :: post' := by
    simp [hsplit]
  obtain ⟨e, he⟩ := L.load_after_drop hserve hsplit' hno
  cases he

end Dropped

/-- The answers of a detach of `attachArgs` that undoes everything: the record of `bridgeConf`
is loaded, the port `veth1` found and removed, the container's link deleted, no interface is in
error, and the record is dropped. -/
def detachAnswers : (c : Call) → c.Resp
  | .loadConfFromCache _ => .ok ⟨bridgeConf, "", false⟩
  | .getOvsPortForContIface .. => .ok ("veth1", true)
  | .findInterfacesWithError _ => .ok []
  | .delLinkByName .. => .ok ()
  | .newOvsDriver _ | .newOvsBridgeDriver .. | .deletePort .. | .getNS _ | .nsDo _
  | .cleanCache _ => .ok ()
  | c => c.fail

/-- The calls of that detach, but the last: the drop of the record. -/
def detachBodyRun : List Event :=
  [⟨.loadConfFromCache "c1-eth0", .ok ⟨bridgeConf, "", false⟩⟩,
   ⟨.newOvsDriver "", .ok ()⟩,
   ⟨.newOvsBridgeDriver "br0" "", .ok ()⟩,
   ⟨.getOvsPortForContIface "br0" "eth0" "/var/run/netns/n1", .ok ("veth1", true)⟩,
   ⟨.deletePort "br0" "veth1", .ok ()⟩,
   ⟨.getNS "/var/run/netns/n1", .ok ()⟩,
   ⟨.nsDo "/var/run/netns/n1", .ok ()⟩,
   ⟨.delLinkByName "/var/run/netns/n1" "eth0", .ok ()⟩,
   ⟨.findInterfacesWithError "br0", .ok []⟩]

/-- An attach of `attachArgs` whose host link stays down, invocation `0`; a detach of the same
attachment undoing everything, invocation `1`; and the detach retried, invocation `2`, its load
failing. -/
def retryLog : Log (fun containerID ifName => containerID ++ "-" ++ ifName) (fun _ => false) where
  invocation
    | 0 => (.add, attachArgs)
    | _ => (.del, attachArgs)
  calls := linkDownRun.map (Prod.mk 0) ++
    (detachBodyRun ++ [(⟨.cleanCache "c1-eth0", .ok ()⟩ : Event)]).map (Prod.mk 1) ++
    [(2, (⟨.loadConfFromCache "c1-eth0", .error ""⟩ : Event))]
  reaches i := by
    simp only [ownCalls_append, ownCalls_map]
    rcases (by omega : i = 0 ∨ i = 1 ∨ i = 2 ∨ 2 < i) with rfl | rfl | rfl | h
    · simpa using (runs_trace linkDownAnswers _).reaches
    · simpa using (runs_trace detachAnswers _).reaches
    · simpa [ownCalls] using .call _ (.nil _)
    · simp [ownCalls, show 0 ≠ i by omega, show 1 ≠ i by omega, show 2 ≠ i by omega]
      exact .nil _

theorem del_after_drop_retry :
    servesLoads (fun _ => none) (retryLog.calls.map Prod.snd) = true ∧
    retryLog.calls = linkDownRun.map (Prod.mk 0) ++ detachBodyRun.map (Prod.mk 1) ++
      (1, (⟨.cleanCache "c1-eth0", .ok ()⟩ : Event)) :: [] ++
      (2, (⟨.loadConfFromCache "c1-eth0", .error ""⟩ : Event)) :: [] ∧
    (∃ e, (.error "" : Except String CachedNetConf) = .error e) ∧
    ownCalls 2 retryLog.calls = [⟨.loadConfFromCache "c1-eth0", .error ""⟩] ∧
    ∀ res, Runs ((retryLog.invocation 2).1.handler (fun containerID ifName =>
      containerID ++ "-" ++ ifName) (fun _ => false) (retryLog.invocation 2).2)
      (ownCalls 2 retryLog.calls) res → res = .ok () :=
  have hserve : servesLoads (fun _ => none) (retryLog.calls.map Prod.snd) = true := by decide
  have hsplit : retryLog.calls = linkDownRun.map (Prod.mk 0) ++ detachBodyRun.map (Prod.mk 1) ++
      (1, (⟨.cleanCache "c1-eth0", .ok ()⟩ : Event)) :: [] ++
      (2, (⟨.loadConfFromCache "c1-eth0", .error ""⟩ : Event)) :: [] := rfl
  ⟨hserve, hsplit, Log.del_after_drop retryLog hserve (by rfl) (by rfl) hsplit (by simp)⟩

/-- An attach of `attachArgs` whose host link stays down, invocation `0`; a detach of the same
attachment undoing everything, invocation `1`; the same attach made again, invocation `2`; and a
verify of the attachment, invocation `3`, passing on `strayResult`. -/
def recheckLog : Log (fun containerID ifName => containerID ++ "-" ++ ifName) (fun _ => false) where
  invocation
    | 0 | 2 => (.add, attachArgs)
    | 1 => (.del, attachArgs)
    | _ => (.check, attachArgs)
  calls := linkDownRun.map (Prod.mk 0) ++
    (detachBodyRun ++ [(⟨.cleanCache "c1-eth0", .ok ()⟩ : Event)]).map (Prod.mk 1) ++
    linkDownRun.map (Prod.mk 2) ++ strayRun.map (Prod.mk 3)
  reaches i := by
    simp only [ownCalls_append, ownCalls_map]
    rcases (by omega : i = 0 ∨ i = 1 ∨ i = 2 ∨ i = 3 ∨ 3 < i) with rfl | rfl | rfl | rfl | h
    · simpa using (runs_trace linkDownAnswers _).reaches
    · simpa using (runs_trace detachAnswers _).reaches
    · simpa using (runs_trace linkDownAnswers _).reaches
    · simpa using (runs_trace strayAnswers _).reaches
    · simp only [show 0 ≠ i by omega, show 1 ≠ i by omega, show 2 ≠ i by omega, show 3 ≠ i by omega,
        if_false, List.append_nil]
      exact .nil _

theorem check_after_drop_recheck :
    servesLoads (fun _ => none) (recheckLog.calls.map Prod.snd) = true ∧
    recheckLog.calls = linkDownRun.map (Prod.mk 0) ++ detachBodyRun.map (Prod.mk 1) ++
      (1, (⟨.cleanCache "c1-eth0", .ok ()⟩ : Event)) ::
        (linkDownRun.map (Prod.mk 2) ++ strayRun.map (Prod.mk 3)) ∧
    (∀ x ∈ linkDownRun.map (Prod.mk 0) ++ detachBodyRun.map (Prod.mk 1), x.1 ≠ 3) ∧
    Runs ((recheckLog.invocation 3).1.handler (fun containerID ifName => containerID ++ "-" ++ ifName)
      (fun _ => false) (recheckLog.invocation 3).2) (ownCalls 3 recheckLog.calls) (.ok ()) ∧
    ∃ R mid post', linkDownRun.map (Prod.mk 2) ++ strayRun.map (Prod.mk 3) =
        mid ++ (3, ⟨.loadConfFromCache "c1-eth0", .ok R⟩) :: post' ∧
      ∃ x ∈ mid, (recheckLog.invocation x.1).1 = .add ∧
        (recheckLog.invocation x.1).2.containerID ++ "-" ++ (recheckLog.invocation x.1).2.ifName =
          "c1-eth0" :=
  have hserve : servesLoads (fun _ => none) (recheckLog.calls.map Prod.snd) = true := by decide
  have hsplit : recheckLog.calls = linkDownRun.map (Prod.mk 0) ++ detachBodyRun.map (Prod.mk 1) ++
      (1, (⟨.cleanCache "c1-eth0", .ok ()⟩ : Event)) ::
        (linkDownRun.map (Prod.mk 2) ++ strayRun.map (Prod.mk 3)) := by
    simp [recheckLog]
  have hlater : ∀ x ∈ linkDownRun.map (Prod.mk 0) ++ detachBodyRun.map (Prod.mk 1), x.1 ≠ 3 := by
    simp only [List.mem_append, List.mem_map]
    rintro _ (⟨_, _, rfl⟩ | ⟨_, _, rfl⟩) <;> nofun
  have hok : Runs ((recheckLog.invocation 3).1.handler (fun containerID ifName =>
      containerID ++ "-" ++ ifName) (fun _ => false) (recheckLog.invocation 3).2)
      (ownCalls 3 recheckLog.calls) (.ok ()) := by
    simp only [recheckLog, ownCalls_append, ownCalls_map_self,
      ownCalls_map_of_ne (by decide : (0 : Nat) ≠ 3), ownCalls_map_of_ne (by decide : (1 : Nat) ≠ 3),
      ownCalls_map_of_ne (by decide : (2 : Nat) ≠ 3), List.nil_append]
    exact runs_trace strayAnswers _
  ⟨hserve, hsplit, hlater, hok, Log.check_after_drop recheckLog hserve (by rfl) (by rfl) hsplit hlater hok⟩

/-- An attach of `attachArgs` whose host link stays down, invocation `0`, then a detach of the
same attachment whose link is already gone, invocation `1`. -/
def attachDetachLog : Log (fun containerID ifName => containerID ++ "-" ++ ifName) (fun _ => false)
    where
  invocation
    | 0 => (.add, attachArgs)
    | _ => (.del, attachArgs)
  calls := linkDownRun.map (Prod.mk 0) ++ linkGoneRun.map (Prod.mk 1)
  reaches i := by
    rw [ownCalls_append]
    by_cases h0 : i = 0
    · subst h0
      rw [ownCalls_map_self, ownCalls_map_of_ne one_ne_zero, List.append_nil]
      exact (runs_trace linkDownAnswers _).reaches
    by_cases h1 : i = 1
    · subst h1
      rw [ownCalls_map_self, ownCalls_map_of_ne zero_ne_one, List.nil_append]
      exact (runs_trace linkGoneAnswers _).reaches
    rw [ownCalls_map_of_ne (Ne.symm h0), ownCalls_map_of_ne (Ne.symm h1)]
    exact .nil _

theorem del_takes_recorded_bridge_linkGone :
    servesLoads (fun _ => none) (attachDetachLog.calls.map Prod.snd) = true ∧
    (∀ x ∈ attachDetachLog.calls, ∀ u, x.2 ≠ ⟨.findBridgeByInterface u, .ok ""⟩) ∧
    (attachDetachLog.invocation 1).1 = .del ∧
    (∀ ev ∈ ownCalls 1 attachDetachLog.calls, ev.1.resolvesBridge = false) ∧
    ∀ key R, ⟨.loadConfFromCache key, .ok R⟩ ∈ ownCalls 1 attachDetachLog.calls →
      key = (fun containerID ifName => containerID ++ "-" ++ ifName)
        (attachDetachLog.invocation 1).2.containerID (attachDetachLog.invocation 1).2.ifName ∧
      (∃ j, (attachDetachLog.invocation j).1 = .add ∧
        key = (fun containerID ifName => containerID ++ "-" ++ ifName)
          (attachDetachLog.invocation j).2.containerID (attachDetachLog.invocation j).2.ifName ∧
        (∃ r, ⟨.saveCache key R, r⟩ ∈ ownCalls j attachDetachLog.calls) ∧
        BridgeResolved (attachDetachLog.invocation j).2 (ownCalls j attachDetachLog.calls)
          R.netconf.brName) ∧
      R.netconf.brName ≠ "" ∧ ∀ ev ∈ ownCalls 1 attachDetachLog.calls, ev.1.OnBridge R.netconf.brName :=
  have hserve : servesLoads (fun _ => none) (attachDetachLog.calls.map Prod.snd) = true := by
    decide
  have hne : ∀ x ∈ attachDetachLog.calls, ∀ u, x.2 ≠ ⟨.findBridgeByInterface u, .ok ""⟩ := by
    intro x hx u h
    have hq : ∀ x ∈ attachDetachLog.calls, x.2.1.resolvesBridge = false := by decide
    have := hq x hx
    rw [h] at this
    cases this
  have hi : (attachDetachLog.invocation 1).1 = .del := rfl
  ⟨hserve, hne, hi, Log.del_takes_recorded_bridge attachDetachLog hserve hne hi⟩

end OvsCni
