import OvsCni.Types

/-!
# The VLAN settings of a port, set and checked

`CmdAdd` decides how the host port carries VLANs from the configuration's tag and trunk list,
and `validateOvs`, in `CmdCheck`, compares what the switch reports for the port against the
same configuration. The two are written as two different case splits over the configuration:

* `CmdAdd` (`OvsCni.portVlan`) makes a **trunk** port whenever the tag is absent or a trunk
  list is given – the trunk list wins over a tag – and an access port with the tag otherwise;
* `validateOvs` (`OvsCni.checkVlan`) checks the tag whenever the configuration has one, asking
  for an access port then, and checks the trunk list, asking for a trunk port when it is not
  empty.

What the switch reports for a port created with given settings is `OvsCni.PortVlan.state`: the
mode, the tag when the mode is access, and the trunk list.

Two places where the case splits do not line up are pinned down here.
`OvsCni.checkVlan_portVlan` shows that the check accepts what `CmdAdd` created unless the
configuration has both a tag and a trunk list, where `CmdAdd` drops the tag and the check then
reports a tag mismatch (`OvsCni.checkVlan_rejects_tag_with_trunk`). `OvsCni.checkVlan_sound`
shows the converse: what the check accepts is what `CmdAdd` creates, except that with neither a
tag nor a trunk list the mode is never looked at (`OvsCni.checkVlan_ignores_mode`).
-/

namespace OvsCni

/-- The VLAN settings `CmdAdd` gives the port it creates: `portType`, `vlanTagNum` and
`trunks`. -/
structure PortVlan where
  /-- `access` or `trunk`. -/
  portType : String
  /-- The tag; `0` when none is set. -/
  vlanTagNum : Nat
  /-- The trunk VLANs. -/
  trunks : List Nat
  deriving DecidableEq, Repr

/-- The VLAN settings of `CmdAdd` (lines 280–294 of the source): a trunk port when the tag is
absent or a trunk list is given, with the trunk VLANs of `splitVlanIds`; an access port with
the tag otherwise. -/
def portVlan (vlanTag : Option Nat) (trunk : List Trunk) : Except String PortVlan :=
  if vlanTag = none ∨ trunk.length > 0 then
    if trunk.length > 0 then
      match splitVlanIds trunk with
      | .error err => .error err
      | .ok trunkVlanIds => .ok ⟨"trunk", 0, [] ++ trunkVlanIds⟩
    else .ok ⟨"trunk", 0, []⟩
  else match vlanTag with
    | some tag => .ok ⟨"access", tag, []⟩
    | none => .ok ⟨"access", 0, []⟩

/-- What the switch reports for a port created with the settings `p`: the mode, the tag when
the port is an access port, and the trunk list. -/
def PortVlan.state (p : PortVlan) : VlanState :=
  ⟨p.portType, if p.portType = "access" then some p.vlanTagNum else none, p.trunks⟩

/-- Go's `%v` of a slice: the elements between brackets, separated by spaces. -/
def goList (l : List String) : String := "[" ++ " ".intercalate l ++ "]"

/-- The message of a trunk mismatch. -/
def trunkMismatch (trunk netconfTrunks : List Nat) : String :=
  "trunk mismatch. ovs=" ++ goList (trunk.map toString) ++ ",netconf=" ++
    goList (netconfTrunks.map toString)

/-- The trunk VLANs `validateOvs` compares against: `splitVlanIds` of a non-empty list,
nothing for an empty one. -/
def configuredTrunks (trunk : List Trunk) : Except String (List Nat) :=
  if trunk.length > 0 then splitVlanIds trunk else .ok []

/-- The tag check of `validateOvs`: the reported tag must be the configured one, and a port
with a configured tag must be an access port. -/
def checkVlanTagOvs (vlanTag : Option Nat) (st : VlanState) : Except String Unit :=
  match vlanTag, st.tag with
  | none, none => .ok ()
  | none, some tag => .error ("vlan tag mismatch. ovs=" ++ toString tag ++ ",netconf=nil")
  | some vlanTag, none => .error ("vlan tag mismatch. ovs=nil,netconf=" ++ toString vlanTag)
  | some vlanTag, some tag =>
    if tag ≠ vlanTag then
      .error ("vlan tag mismatch. ovs=" ++ toString tag ++ ",netconf=" ++ toString vlanTag)
    else if st.mode ≠ "access" then .error ("vlan mode mismatch. expected=access,real=" ++ st.mode)
    else .ok ()

/-- The trunk check of `validateOvs` against the configured VLANs: the same list, and a trunk
port when the list is not empty. -/
def checkTrunkOvs (st : VlanState) (netconfTrunks : List Nat) : Except String Unit :=
  if st.trunk.length ≠ netconfTrunks.length then .error (trunkMismatch st.trunk netconfTrunks)
  else if netconfTrunks.length > 0 then
    if (st.trunk.zip netconfTrunks).any fun (a, b) => a ≠ b then
      .error (trunkMismatch st.trunk netconfTrunks)
    else if st.mode ≠ "trunk" then .error ("vlan mode mismatch. expected=trunk,real=" ++ st.mode)
    else .ok ()
  else .ok ()

/-- The VLAN checks of `validateOvs` (lines 876–915 of the source), on the state the switch
reports for the host port. -/
def checkVlan (vlanTag : Option Nat) (trunk : List Trunk) (st : VlanState) : Except String Unit :=
  match checkVlanTagOvs vlanTag st with
  | .error err => .error err
  | .ok () =>
    match configuredTrunks trunk with
    | .error err => .error err
    | .ok netconfTrunks => checkTrunkOvs st netconfTrunks

/-! ### What the checks ask -/

/-- The tag check, as a proposition. -/
def CheckTag (vlanTag : Option Nat) (st : VlanState) : Prop :=
  match vlanTag with
  | none => st.tag = none
  | some t => st.tag = some t ∧ st.mode = "access"

/-- The trunk check against the configured VLANs `ids`, as a proposition. -/
def CheckTrunk (ids : List Nat) (st : VlanState) : Prop :=
  st.trunk = ids ∧ (ids ≠ [] → st.mode = "trunk")

theorem zip_any_ne_eq_false {l l' : List Nat} (h : l.length = l'.length) :
    ((l.zip l').any fun (a, b) => a ≠ b) = false ↔ l = l' := by
  induction l generalizing l' with
  | nil => cases l' <;> simp_all
  | cons a l ih =>
    cases l' with
    | nil => simp at h
    | cons b l' => simp_all [ih (Nat.succ.inj h)]

theorem checkVlanTagOvs_eq_ok_iff (vlanTag : Option Nat) (st : VlanState) :
    checkVlanTagOvs vlanTag st = .ok () ↔ CheckTag vlanTag st := by
  obtain ⟨mode, _ | tag, tr⟩ := st <;> cases vlanTag <;> simp [checkVlanTagOvs, CheckTag]
  split_ifs <;> simp_all [eq_comm]

theorem checkTrunkOvs_eq_ok_iff (st : VlanState) (ids : List Nat) :
    checkTrunkOvs st ids = .ok () ↔ CheckTrunk ids st := by
  unfold checkTrunkOvs CheckTrunk
  by_cases hl : st.trunk.length = ids.length
  · have hz := zip_any_ne_eq_false hl
    rcases Nat.eq_zero_or_pos ids.length with h0 | h0
    · have h1 : ids = [] := List.length_eq_zero.mp h0
      have h2 : st.trunk = [] := List.length_eq_zero.mp (hl.trans h0)
      simp [h1, h2]
    · have hne : ids ≠ [] := List.ne_nil_of_length_pos h0
      by_cases heq : st.trunk = ids
      · rw [if_neg (not_not.mpr hl), if_pos h0, hz.mpr heq]
        simp [heq, hne]
      · have hany : ((st.trunk.zip ids).any fun (a, b) => a ≠ b) = true :=
          Bool.not_eq_false _ ▸ mt hz.mp heq
        rw [if_neg (not_not.mpr hl), if_pos h0, if_pos hany]
        simp [heq]
  · simp only [hl, ne_eq, not_false_eq_true, if_true, reduceCtorEq, false_iff, not_and]
    exact fun h => absurd (congrArg List.length h) hl

/-- **What the VLAN checks ask**: with the configured VLANs `ids`, the checks pass exactly
when the tag check and the trunk check both hold. -/
theorem checkVlan_eq_ok_iff {vlanTag : Option Nat} {trunk : List Trunk} {ids : List Nat}
    (hids : configuredTrunks trunk = .ok ids) (st : VlanState) :
    checkVlan vlanTag trunk st = .ok () ↔ CheckTag vlanTag st ∧ CheckTrunk ids st := by
  rw [← checkVlanTagOvs_eq_ok_iff, ← checkTrunkOvs_eq_ok_iff]
  unfold checkVlan
  cases checkVlanTagOvs vlanTag st <;> simp [hids]

/-! ### `CmdAdd` against `validateOvs` -/

/-- The settings of `CmdAdd`, read back: the trunk list is the one the check compares against,
the port is a trunk port when the tag is absent or a trunk list is given, and an access port
with the tag otherwise. -/
theorem portVlan_eq_ok {vlanTag : Option Nat} {trunk : List Trunk} {p : PortVlan}
    (h : portVlan vlanTag trunk = .ok p) :
    configuredTrunks trunk = .ok p.trunks ∧
      (vlanTag = none ∨ trunk ≠ [] → p = ⟨"trunk", 0, p.trunks⟩) ∧
      ∀ t, vlanTag = some t → trunk = [] → p = ⟨"access", t, []⟩ := by
  unfold portVlan at h
  cases trunk with
  | nil =>
    cases vlanTag <;> simp at h <;> subst h <;> simp [configuredTrunks]
  | cons t ts =>
    simp only [List.length_cons, gt_iff_lt, Nat.zero_lt_succ, or_true, if_true] at h
    split at h
    · cases h
    · cases h
      simp_all [configuredTrunks]

/-- **The check accepts what `CmdAdd` created**, when the configuration does not have both a
tag and a trunk list. -/
theorem checkVlan_portVlan {vlanTag : Option Nat} {trunk : List Trunk} {p : PortVlan}
    (hp : portVlan vlanTag trunk = .ok p) (h : vlanTag = none ∨ trunk = []) :
    checkVlan vlanTag trunk p.state = .ok () := by
  obtain ⟨hids, htr, hac⟩ := portVlan_eq_ok hp
  rw [checkVlan_eq_ok_iff hids]
  rcases vlanTag with _ | t
  · rw [htr (.inl rfl)]
    simp [PortVlan.state, CheckTag, CheckTrunk]
  · have ht : trunk = [] := h.resolve_left (by simp)
    rw [hac t rfl ht]
    simp [PortVlan.state, CheckTag, CheckTrunk]

/-- With both a tag and a trunk list, `CmdAdd` creates a trunk port without a tag, and the
check then reports a tag mismatch. -/
theorem checkVlan_rejects_tag_with_trunk :
    portVlan (some 10) [⟨none, none, some 20⟩] = .ok ⟨"trunk", 0, [20]⟩ ∧
      checkVlan (some 10) [⟨none, none, some 20⟩] ⟨"trunk", none, [20]⟩ =
        .error "vlan tag mismatch. ovs=nil,netconf=10" :=
  ⟨rfl, rfl⟩

/-- **What the check accepts is what `CmdAdd` creates**: a reported state that passes the
checks is the state of the port `CmdAdd` creates from the same configuration – mode, tag and
trunk list –, except when the configuration has neither a tag nor a trunk list, where only the
absence of a tag and of trunks is checked and the mode may be anything. -/
theorem checkVlan_sound (N : NetConf) {p : PortVlan} (hp : portVlan N.vlanTag N.trunk = .ok p)
    {st : VlanState} (h : checkVlan N.vlanTag N.trunk st = .ok ()) :
    (N.vlanTag = none ∧ N.trunk = [] → st.tag = none ∧ st.trunk = []) ∧
      (¬(N.vlanTag = none ∧ N.trunk = []) → st = p.state) := by
  obtain ⟨hids, htr, hac⟩ := portVlan_eq_ok hp
  obtain ⟨htag, hst, hmode⟩ := (checkVlan_eq_ok_iff hids st).mp h
  generalize N.vlanTag = vt at *
  generalize N.trunk = tr at *
  obtain ⟨mode, tag, trunk⟩ := st
  dsimp only at hst hmode
  rcases vt with _ | t <;> rcases tr with _ | ⟨e, es⟩ <;> simp only [CheckTag] at htag
  · -- no tag, no trunk list: only the tag and the trunks are checked
    have : p.trunks = [] := by simpa [configuredTrunks] using hids.symm
    exact ⟨fun _ => ⟨htag, hst.trans this⟩, fun h' => absurd ⟨rfl, rfl⟩ h'⟩
  · -- no tag, a trunk list: a trunk port
    have hne : p.trunks ≠ [] := splitVlanIds_ne_nil (by simpa [configuredTrunks] using hids)
    refine ⟨fun h' => absurd h'.2 (List.cons_ne_nil _ _), fun _ => ?_⟩
    rw [htr (.inl rfl)]
    simp [PortVlan.state, htag, hst, hmode hne]
  · -- a tag, no trunk list: an access port
    refine ⟨fun h' => absurd h'.1 (by simp), fun _ => ?_⟩
    have : p.trunks = [] := by simpa [configuredTrunks] using hids.symm
    rw [hac t rfl rfl]
    simp [PortVlan.state, htag, hst.trans this]
  · -- a tag and a trunk list: no state passes both checks
    have hne : p.trunks ≠ [] := splitVlanIds_ne_nil (by simpa [configuredTrunks] using hids)
    exact absurd (htag.2.symm.trans (hmode hne)) (by decide)

theorem checkVlan_sound_access :
    portVlan (some 10) [] = .ok ⟨"access", 10, []⟩ ∧
    checkVlan (some 10) [] ⟨"access", some 10, []⟩ = .ok () ∧
    ((some 10 : Option Nat) = none ∧ ([] : List Trunk) = [] →
      (⟨"access", some 10, []⟩ : VlanState).tag = none ∧ (⟨"access", some 10, []⟩ : VlanState).trunk = []) ∧
    (¬((some 10 : Option Nat) = none ∧ ([] : List Trunk) = []) →
      (⟨"access", some 10, []⟩ : VlanState) = (⟨"access", 10, []⟩ : PortVlan).state) :=
  ⟨rfl, rfl, checkVlan_sound { bridgeConf with vlanTag := some 10 } rfl rfl⟩

/-- With neither a tag nor a trunk list the mode goes unchecked: an access port without tag
or trunks passes, where `CmdAdd` creates a trunk port. -/
theorem checkVlan_ignores_mode :
    checkVlan none [] ⟨"access", none, []⟩ = .ok () ∧ portVlan none [] = .ok ⟨"trunk", 0, []⟩ :=
  ⟨rfl, rfl⟩

end OvsCni
