import OvsCni.AddRollback
import OvsCni.CmdDel

/-!
# Recovering from a killed attach

`CmdAdd` saves the cache record before it creates the host port, and nothing it does after the
save writes to the cache. So wherever a run of `CmdAdd` stops once a port is on a bridge –
returning an error, or killed – the record of the attachment is in the cache and names that
bridge. A later `CmdDel` of the same container, interface and namespace takes the bridge from
the record as it is, without asking the switch or the SR-IOV state, looks the port up there by
the container interface and namespace, and removes it.

`OvsCni.cmdAdd_record_before_port` is the first half, over every cut run of `CmdAdd`;
`OvsCni.cmdAdd_killed_recoverable` puts it together with the runs of `CmdDel`.
-/

namespace OvsCni

open Prog

section Recovery

variable {getCRef : String → String → String} {isOvsHardwareOffloadEnabled : String → Bool}
  {args : CmdArgs} {evs : List Event}

/-- **The cut runs of `CmdAdd`**: cut in the set-up, or after a set-up that ended well, the rest
creating ports only on the bridge the set-up resolved and writing nothing to the cache. -/
theorem reaches_cmdAdd (h : Reaches (cmdAdd getCRef isOvsHardwareOffloadEnabled args) evs) :
    Reaches (addSetup getCRef isOvsHardwareOffloadEnabled args) evs ∨
      ∃ s evs₁ evs₂, Runs (addSetup getCRef isOvsHardwareOffloadEnabled args) evs₁ (.ok s) ∧
        evs = evs₁ ++ evs₂ ∧ ∀ ev ∈ evs₂,
          (ev.1.portBridge = some s.netconf.brName ∨ ev.1.portBridge = none) ∧
            ev.1.writesCache = false := by
  rcases reaches_orReturn.mp h with h₁ | ⟨evs₁, s, evs₂, h₁, h₂, rfl⟩
  · exact .inl h₁
  refine .inr ⟨s, evs₁, evs₂, h₁, rfl, h₂.calls (fun c =>
    (c.portBridge = some s.netconf.brName ∨ c.portBridge = none) ∧ c.writesCache = false) ?_⟩
  refine .orReturn ((addAttach_callsOnly s).mono fun c hc => ⟨hc.1, hc.2.2.1⟩) fun _ => ?_
  refine .bind ((addIpam_callsOnly args s).mono fun c hc => ⟨.inr hc.1, hc.2.2⟩) fun _ => ?_
  exact .bind ((addRollback_callsOnly _ _ _ _ _ _ _).mono fun c hc => ⟨.inr hc.1, hc.2.1⟩)
    fun _ => trivial

/-- **The record is saved before the port.** Wherever a run of `CmdAdd` stops after it created
a port on the bridge `b`, the cache – whatever it held before – holds under the attachment's
key the record `CmdAdd` saved, which names `b`; and `b` is what `getBridgeName` resolved. -/
theorem cmdAdd_record_before_port {b host netns contIface ovn pt it uid : String} {ofp tag : Nat}
    {trunks : List Nat} {r : Except String Unit}
    (h : Reaches (cmdAdd getCRef isOvsHardwareOffloadEnabled args) evs)
    (hport : ⟨.createPort b host netns contIface ovn ofp tag trunks pt it uid, r⟩ ∈ evs) (st : Store) :
    ∃ (s : AddSetup) (N : NetConf) (ovnPort : String) (evsB : List Event),
      st.after evs (getCRef args.containerID args.ifName) = some s.cache ∧
      s.netconf.brName = b ∧ Runs (getBridgeName N.brName ovnPort N.deviceID) evsB (.ok b) ∧
      evsB ⊆ evs := by
  rcases reaches_cmdAdd h with h₁ | ⟨s, evs₁, evs₂, h₁, rfl, h₂⟩
  · exact nomatch addSetup_creates_no_port h₁ hport
  obtain ⟨-, N, -, evsB, pre, post, -, -, -, -, -, -, hB, hBsub, rfl, hpost⟩ := runs_addSetup_ok h₁
  have hb : s.netconf.brName = b := by
    rcases List.mem_append.mp hport with hp | hp
    · exact nomatch addSetup_creates_no_port h₁.reaches hp
    · rcases (h₂ _ hp).1 with hb | hb
      · exact (Option.some.inj hb).symm
      · cases hb
  refine ⟨s, N, _, evsB, ?_, hb, hb ▸ hB, fun _ h => List.mem_append_left _ (hBsub h)⟩
  rw [Store.after_append, Store.after_of_forall fun ev hev => (h₂ ev hev).2, Store.after_append,
    Store.after_cons, Store.after_of_forall hpost]
  simp [Store.apply]

/-- **A killed attach is recoverable.** Wherever a run of `CmdAdd` stops once its `CreatePort`
put the port tagged with the container interface and namespace on the bridge `b` – the switch
database never naming an empty bridge –, the cache holds the attachment's record naming `b`, and
`b` is not empty. A later `CmdDel` of the same container, interface and non-empty namespace,
answered that record by the cache, whose environment arguments parse, whose drivers are made and
whose IPAM delete and port lookup succeed, whatever its own environment arguments and the
offload state, looks the port up on `b` and removes the port it finds. -/
theorem cmdAdd_killed_recoverable {b host ovn pt it uid : String} {ofp tag : Nat}
    {trunks : List Nat} (st : Store) (hA : Reaches (cmdAdd getCRef isOvsHardwareOffloadEnabled args) evs)
    (hne : ∀ u, ⟨.findBridgeByInterface u, .ok ""⟩ ∉ evs)
    (hport : ⟨.createPort b host args.netns args.ifName ovn ofp tag trunks pt it uid, .ok ()⟩ ∈ evs) :
    (∃ R, st.after evs (getCRef args.containerID args.ifName) = some R ∧ R.netconf.brName = b) ∧
      b ≠ "" ∧
      ∀ (isOvsHardwareOffloadEnabled' : String → Bool) (args' : CmdArgs) evsD res,
        args'.containerID = args.containerID → args'.ifName = args.ifName →
        args'.netns = args.netns → args.netns ≠ "" →
        Runs (cmdDel getCRef isOvsHardwareOffloadEnabled' args') evsD res →
        (∀ r R, ⟨.loadConfFromCache (getCRef args.containerID args.ifName), r⟩ ∈ evsD →
          st.after evs (getCRef args.containerID args.ifName) = some R → r = .ok R) →
        (∀ e, ⟨.loadArgs args'.args, .error e⟩ ∉ evsD) →
        (∀ s e, ⟨.newOvsDriver s, .error e⟩ ∉ evsD) →
        (∀ b s e, ⟨.newOvsBridgeDriver b s, .error e⟩ ∉ evsD) →
        (∀ t s e, ⟨.ipamExecDel t s, .error e⟩ ∉ evsD) →
        (∀ b i n e, ⟨.getOvsPortForContIface b i n, .error e⟩ ∉ evsD) →
        ∃ p f, ⟨.getOvsPortForContIface b args.ifName args.netns, .ok (p, f)⟩ ∈ evsD ∧
          (f = true → ∃ r, ⟨.deletePort b p, r⟩ ∈ evsD) := by
  obtain ⟨s, N, _, evsB, hst, hbr, hB, hBsub⟩ := cmdAdd_record_before_port hA hport st
  have hb : b ≠ "" := getBridgeName_ne_empty hB fun u hu => hne u (hBsub hu)
  refine ⟨⟨s.cache, hst, hbr⟩, hb,
    fun _ args' evsD _ hC hI hN hNe hD hserve henv hdrv hbdrv hipam hlook => ?_⟩
  have hload : ∀ r, ⟨.loadConfFromCache (getCRef args'.containerID args'.ifName), r⟩ ∈ evsD →
      r = .ok s.cache := fun r hr => hserve r s.cache (by rwa [hC, hI] at hr) hst
  rcases runs_cmdDel hD with ⟨e, rfl, -⟩ | ⟨cache, evsB', x, evsC, rfl, hBd, -, -⟩
  · cases hload _ (List.mem_singleton_self _)
  obtain rfl := Except.ok.inj (hload _ (List.mem_cons_self _ _))
  have hsub : evsB' ⊆ ⟨.loadConfFromCache (getCRef args'.containerID args'.ifName), .ok s.cache⟩ ::
      (evsB' ++ evsC) := fun _ h => by simp [h]
  obtain ⟨p, f, hp, hdel⟩ := delBody_deletes_port hBd (hbr ▸ hb) (hN ▸ hNe)
    (fun e h => henv e (hsub h)) (fun s e h => hdrv s e (hsub h)) (fun b s e h => hbdrv b s e (hsub h))
    (fun t s e h => hipam t s e (hsub h)) (fun b i n e h => hlook b i n e (hsub h))
  rw [hI, hN, show s.cache.netconf.brName = b from hbr] at hp
  rw [show s.cache.netconf.brName = b from hbr] at hdel
  exact ⟨p, f, hsub hp, fun hf => (hdel hf).imp fun _ h => hsub h⟩

end Recovery

theorem cmdAdd_killed_recoverable_linkDown :
    Reaches (cmdAdd (fun containerID ifName => containerID ++ "-" ++ ifName) (fun _ => false)
      attachArgs) linkDownRun ∧
    (∀ u, ⟨.findBridgeByInterface u, .ok ""⟩ ∉ linkDownRun) ∧
    ⟨.createPort "br0" "veth1" attachArgs.netns attachArgs.ifName "" 0 0 [] "trunk" "" "", .ok ()⟩ ∈
      linkDownRun ∧
    ((∃ R : CachedNetConf, Store.after (fun _ => none) linkDownRun
        (attachArgs.containerID ++ "-" ++ attachArgs.ifName) = some R ∧ R.netconf.brName = "br0") ∧
      "br0" ≠ "" ∧
      ∀ (isOvsHardwareOffloadEnabled' : String → Bool) (args' : CmdArgs) evsD res,
        args'.containerID = attachArgs.containerID → args'.ifName = attachArgs.ifName →
        args'.netns = attachArgs.netns → attachArgs.netns ≠ "" →
        Runs (cmdDel (fun containerID ifName => containerID ++ "-" ++ ifName)
          isOvsHardwareOffloadEnabled' args') evsD res →
        (∀ r R, ⟨.loadConfFromCache (attachArgs.containerID ++ "-" ++ attachArgs.ifName), r⟩ ∈ evsD →
          Store.after (fun _ => none) linkDownRun
            (attachArgs.containerID ++ "-" ++ attachArgs.ifName) = some R → r = .ok R) →
        (∀ e, ⟨.loadArgs args'.args, .error e⟩ ∉ evsD) →
        (∀ s e, ⟨.newOvsDriver s, .error e⟩ ∉ evsD) →
        (∀ b s e, ⟨.newOvsBridgeDriver b s, .error e⟩ ∉ evsD) →
        (∀ t s e, ⟨.ipamExecDel t s, .error e⟩ ∉ evsD) →
        (∀ b i n e, ⟨.getOvsPortForContIface b i n, .error e⟩ ∉ evsD) →
        ∃ p f, ⟨.getOvsPortForContIface "br0" attachArgs.ifName attachArgs.netns, .ok (p, f)⟩ ∈ evsD ∧
          (f = true → ∃ r, ⟨.deletePort "br0" p, r⟩ ∈ evsD)) :=
  have hA : Runs (cmdAdd (fun containerID ifName => containerID ++ "-" ++ ifName) (fun _ => false)
      attachArgs) linkDownRun (.error "link down") := runs_trace linkDownAnswers _
  have hne : ∀ u, ⟨.findBridgeByInterface u, .ok ""⟩ ∉ linkDownRun := by
    intro u hu
    simp [linkDownRun] at hu
  have hport : ⟨.createPort "br0" "veth1" attachArgs.netns attachArgs.ifName "" 0 0 [] "trunk" "" "",
      .ok ()⟩ ∈ linkDownRun := by
    simp [linkDownRun, attachArgs]
  ⟨hA.reaches, hne, hport, cmdAdd_killed_recoverable (fun _ => none) hA.reaches hne hport⟩

end OvsCni
