import Mathlib.Data.List.Sort
import Mathlib.Data.List.Perm.Basic

/-!
# Trunk VLAN lists

A trunk port of the switch carries a set of VLANs, and the network configuration describes
that set by a list of entries, each a single ID, a range given by its two bounds, or both.
`OvsCni.splitVlanIds` turns the list into the IDs themselves: it walks the entries, checks
each one, adds what it covers to a map used as a set, and returns the keys of the map in
increasing order.

Two details of the source decide what the function really computes, and both are kept here.

* The range is added only when **both bounds are positive** (`minID > 0 && maxID > 0`): an
  absent bound reads as `0`, so the test cannot tell an absent bound from a bound `0`, and a
  range starting at `0` adds nothing (`OvsCni.splitVlanIds_drops_range_from_zero`), although the
  checks accept a lower bound `0` and a single ID `0` is kept.
* The bound check on a single ID tests `minID`, not the ID, so a single ID is **never
  bounded** (`OvsCni.splitVlanIds_accepts_large_id`), and the error of that check is never
  returned (`OvsCni.splitVlanIds_eq_error`).

What the entries contribute is `OvsCni.Trunk.Covers`, what the checks ask of them is
`OvsCni.Trunk.Valid`; `OvsCni.splitVlanIds_eq_ok_iff` says the function succeeds exactly on
lists of valid entries that cover something, `OvsCni.splitVlanIds_eq_error` that it fails
otherwise with the error of the first entry failing its checks, and
`OvsCni.splitVlanIds_sorted_covers` that its output is then the strictly increasing enumeration
of the covered IDs, whatever the order of the entries and however they overlap.

`OvsCni.addVlanRange` adds a range by a fold over a list, which always ends. The source runs a
`for` loop over Go's `uint`, whose `v++` wraps around, so the last section runs the loop as the
source does (`OvsCni.rangeLoop`) and shows that `splitVlanIds` run that way ends on every list
of entries, with the output of the fold (`OvsCni.splitVlanIds_terminates`).
-/

namespace OvsCni

/-! ### The entries and the function -/

/-- A trunk entry of the network configuration (`types.Trunk`). Each field is a pointer in the
source and may be absent; a present one holds a Go `uint`. -/
structure Trunk where
  /-- The lower bound of a range. -/
  minID : Option Nat
  /-- The upper bound of a range. -/
  maxID : Option Nat
  /-- A single VLAN ID. -/
  id : Option Nat
  deriving DecidableEq, Repr

/-- The lower bound of an entry: `0` when absent, refused above `4096`. -/
def trunkMinID (item : Trunk) : Except String Nat :=
  match item.minID with
  | none => .ok 0
  | some minID => if minID > 4096 then .error "incorrect trunk minID parameter" else .ok minID

/-- The upper bound of an entry: `0` when absent; a given one is refused above `4096` or
below the lower bound `minID`. -/
def trunkMaxID (item : Trunk) (minID : Nat) : Except String Nat :=
  match item.maxID with
  | none => .ok 0
  | some maxID =>
    if maxID > 4096 then .error "incorrect trunk maxID parameter"
    else if maxID < minID then .error "minID is greater than maxID in trunk parameter"
    else .ok maxID

/-- The range loop `for v := minID; v <= maxID; v++ { vlans[v] = true }`. The keys of the map
`vlans` are a list holding each key once. -/
def addVlanRange (vlans : List Nat) (minID maxID : Nat) : List Nat :=
  (List.range' minID (maxID + 1 - minID)).foldl (fun s v => s.insert v) vlans

/-- One turn of the loop of `splitVlanIds` over the entries. The check on a single ID tests
`minID`, as the source does. -/
def addTrunk (vlans : List Nat) (item : Trunk) : Except String (List Nat) := do
  let minID ← trunkMinID item
  let maxID ← trunkMaxID item minID
  let vlans := if minID > 0 ∧ maxID > 0 then addVlanRange vlans minID maxID else vlans
  match item.id with
  | none => pure vlans
  | some id => if minID > 4096 then throw "incorrect trunk id parameter" else pure (vlans.insert id)

/-- `splitVlanIds`: the VLAN IDs of a trunk section in increasing order. The source sorts the
keys of its map with `sort.Slice`; the keys being distinct, every sort gives the same list, and
insertion sort stands for it here. -/
def splitVlanIds (trunks : List Trunk) : Except String (List Nat) := do
  let vlans ← trunks.foldlM addTrunk []
  if vlans.length = 0 then throw "trunk parameter is misconfigured"
  pure (vlans.insertionSort (· ≤ ·))

/-- The checks an entry passes: a given lower bound is at most `4096`, and a given upper bound
is at most `4096` and not below the lower bound (`0` when absent). Nothing bounds a single
ID. -/
def Trunk.Valid (t : Trunk) : Prop :=
  (∀ lo ∈ t.minID, lo ≤ 4096) ∧ ∀ hi ∈ t.maxID, hi ≤ 4096 ∧ t.minID.getD 0 ≤ hi

/-- The IDs an entry adds to the set: its single ID, and the whole range when both bounds are
given and the lower one is positive. -/
def Trunk.Covers (t : Trunk) (v : Nat) : Prop :=
  t.id = some v ∨ ∃ lo hi, t.minID = some lo ∧ t.maxID = some hi ∧ 0 < lo ∧ lo ≤ v ∧ v ≤ hi

/-! ### One entry -/

@[simp] theorem ok_bind {ε α β : Type} (a : α) (f : α → Except ε β) :
    (Except.ok a >>= f) = f a := rfl

@[simp] theorem error_bind {ε α β : Type} (e : ε) (f : α → Except ε β) :
    (Except.error e >>= f) = Except.error e := rfl

@[simp] theorem except_pure {ε α : Type} (a : α) : (pure a : Except ε α) = .ok a := rfl

@[simp] theorem except_throw {ε α : Type} (e : ε) : (throw e : Except ε α) = .error e := rfl

theorem mem_foldl_insert (l vlans : List Nat) (v : Nat) :
    v ∈ l.foldl (fun s v => s.insert v) vlans ↔ v ∈ vlans ∨ v ∈ l := by
  induction l generalizing vlans with
  | nil => simp
  | cons a l ih =>
    simp only [List.foldl_cons, ih, List.mem_insert_iff, List.mem_cons]
    exact or_assoc.trans or_left_comm

theorem nodup_foldl_insert (l : List Nat) {vlans : List Nat} (h : vlans.Nodup) :
    (l.foldl (fun s v => s.insert v) vlans).Nodup := by
  induction l generalizing vlans with
  | nil => exact h
  | cons a l ih => exact ih h.insert

@[simp] theorem mem_addVlanRange {vlans : List Nat} {minID maxID v : Nat} :
    v ∈ addVlanRange vlans minID maxID ↔ v ∈ vlans ∨ minID ≤ v ∧ v ≤ maxID := by
  simp only [addVlanRange, mem_foldl_insert, List.mem_range'_1]
  exact or_congr_right (by omega)

theorem trunkMinID_of_valid {item : Trunk} (h : item.Valid) :
    trunkMinID item = .ok (item.minID.getD 0) := by
  obtain ⟨_ | lo, _, _⟩ := item
  · rfl
  · simp [trunkMinID, h.1 lo rfl]

theorem trunkMaxID_of_valid {item : Trunk} (h : item.Valid) :
    trunkMaxID item (item.minID.getD 0) = .ok (item.maxID.getD 0) := by
  obtain ⟨_, _ | hi, _⟩ := item
  · rfl
  · obtain ⟨h4, hle⟩ := h.2 hi rfl
    simp only [trunkMaxID, if_neg (not_lt.mpr h4), if_neg (not_lt.mpr hle)]
    rfl

/-- The range part of `OvsCni.Trunk.Covers`, in the terms the loop reads the bounds in. -/
theorem covers_range_iff (t : Trunk) (v : Nat) :
    (0 < t.minID.getD 0 ∧ 0 < t.maxID.getD 0 ∧ t.minID.getD 0 ≤ v ∧ v ≤ t.maxID.getD 0) ↔
      ∃ lo hi, t.minID = some lo ∧ t.maxID = some hi ∧ 0 < lo ∧ lo ≤ v ∧ v ≤ hi := by
  obtain ⟨_ | lo, _ | hi, _⟩ := t <;> simp
  omega

/-- **What one entry does**: a valid entry extends the set by the IDs it covers and keeps it
free of repetitions. -/
theorem addTrunk_of_valid {item : Trunk} (h : item.Valid) (vlans : List Nat) :
    ∃ vlans', addTrunk vlans item = .ok vlans' ∧
      (∀ v, v ∈ vlans' ↔ v ∈ vlans ∨ item.Covers v) ∧ (vlans.Nodup → vlans'.Nodup) := by
  have hlo : ¬item.minID.getD 0 > 4096 := by
    cases hm : item.minID with
    | none => simp
    | some lo => simp [h.1 lo hm]
  -- the set after the range loop
  set lo := item.minID.getD 0
  set hi := item.maxID.getD 0
  set ranged := if lo > 0 ∧ hi > 0 then addVlanRange vlans lo hi else vlans with hranged
  have hmem : ∀ v, v ∈ ranged ↔ v ∈ vlans ∨
      ∃ lo hi, item.minID = some lo ∧ item.maxID = some hi ∧ 0 < lo ∧ lo ≤ v ∧ v ≤ hi := by
    intro v
    rw [← covers_range_iff, hranged]
    split_ifs with hr
    · simp only [mem_addVlanRange]; exact or_congr_right (by omega)
    · exact (or_iff_left (by omega)).symm
  have hnd : vlans.Nodup → ranged.Nodup := by
    intro hn; rw [hranged]; split_ifs
    exacts [nodup_foldl_insert _ hn, hn]
  simp only [addTrunk, trunkMinID_of_valid h, trunkMaxID_of_valid h, ok_bind]
  rw [← hranged]
  cases hid : item.id with
  | none => exact ⟨_, rfl, fun v => by simp [hmem, Trunk.Covers, hid], hnd⟩
  | some id =>
    refine ⟨ranged.insert id, by simp [hlo], fun v => ?_, fun hn => (hnd hn).insert⟩
    simp only [List.mem_insert_iff, hmem, Trunk.Covers, hid, Option.some.injEq]
    rw [@eq_comm _ v id]
    exact or_left_comm

/-- An entry that fails its checks stops the loop. -/
theorem addTrunk_of_not_valid {item : Trunk} (h : ¬item.Valid) (vlans : List Nat) :
    ∃ e, addTrunk vlans item = .error e := by
  obtain ⟨_ | lo, _ | hi, id⟩ := item <;> simp [Trunk.Valid] at h
  · exact ⟨"incorrect trunk maxID parameter", by simp [addTrunk, trunkMinID, trunkMaxID, h]⟩
  · exact ⟨"incorrect trunk minID parameter", by simp [addTrunk, trunkMinID, h]⟩
  · rcases (by omega : 4096 < lo ∨ ¬4096 < lo ∧ (4096 < hi ∨ ¬4096 < hi ∧ hi < lo))
      with hlo | ⟨hlo, hhi | ⟨hhi, hlt⟩⟩
    · exact ⟨"incorrect trunk minID parameter", by simp [addTrunk, trunkMinID, hlo]⟩
    · exact ⟨"incorrect trunk maxID parameter", by simp [addTrunk, trunkMinID, trunkMaxID, hlo, hhi]⟩
    · exact ⟨"minID is greater than maxID in trunk parameter",
        by simp [addTrunk, trunkMinID, trunkMaxID, hlo, hhi, hlt]⟩

/-! ### The whole list -/

/-- The loop over the entries succeeds exactly when every entry is valid, and then adds to the
set what the entries cover. -/
theorem foldlM_addTrunk (trunks : List Trunk) (vlans : List Nat) :
    (∃ vlans', trunks.foldlM addTrunk vlans = .ok vlans') ↔ ∀ t ∈ trunks, t.Valid := by
  induction trunks generalizing vlans with
  | nil => simp [pure, Except.pure]
  | cons t trunks ih =>
    by_cases ht : t.Valid
    · obtain ⟨vlans', h, -⟩ := addTrunk_of_valid ht vlans
      simp [List.foldlM_cons, h, bind, Except.bind, ih, ht]
    · obtain ⟨e, h⟩ := addTrunk_of_not_valid ht vlans
      simp [List.foldlM_cons, h, bind, Except.bind, ht]

theorem foldlM_addTrunk_mem {trunks : List Trunk} {vlans vlans' : List Nat}
    (h : trunks.foldlM addTrunk vlans = .ok vlans') :
    (∀ v, v ∈ vlans' ↔ v ∈ vlans ∨ ∃ t ∈ trunks, t.Covers v) ∧ (vlans.Nodup → vlans'.Nodup) := by
  induction trunks generalizing vlans with
  | nil => cases h; simp
  | cons t trunks ih =>
    have ht : t.Valid := (foldlM_addTrunk _ vlans).mp ⟨_, h⟩ t (List.mem_cons_self _ _)
    obtain ⟨mid, hmid, hmem, hnd⟩ := addTrunk_of_valid ht vlans
    simp only [List.foldlM_cons, hmid, bind, Except.bind] at h
    obtain ⟨hmem', hnd'⟩ := ih h
    refine ⟨fun v => ?_, fun hn => hnd' (hnd hn)⟩
    simp only [hmem', hmem, List.mem_cons, exists_eq_or_imp, or_assoc]

/-- The output of a successful run, read back: every entry was valid, and the output is the
sorted list of the set the entries cover. -/
theorem splitVlanIds_eq_ok {trunks : List Trunk} {ids : List Nat}
    (h : splitVlanIds trunks = .ok ids) :
    (∀ t ∈ trunks, t.Valid) ∧ ids.Sorted (· < ·) ∧ ∀ v, v ∈ ids ↔ ∃ t ∈ trunks, t.Covers v := by
  obtain ⟨vlans, hv⟩ : ∃ vlans, trunks.foldlM addTrunk [] = .ok vlans := by
    cases hf : trunks.foldlM addTrunk [] with
    | error e => simp [splitVlanIds, hf] at h
    | ok vlans => exact ⟨vlans, rfl⟩
  obtain ⟨hmem, hnd⟩ := foldlM_addTrunk_mem hv
  have hids : vlans.insertionSort (· ≤ ·) = ids := by
    simp only [splitVlanIds, hv, ok_bind] at h
    split_ifs at h <;> simp_all
  subst hids
  refine ⟨(foldlM_addTrunk _ _).mp ⟨_, hv⟩, ?_, fun v => by simp [hmem]⟩
  exact (List.sorted_insertionSort _ _).lt_of_le
    ((List.perm_insertionSort _ _).nodup_iff.mpr (hnd List.nodup_nil))

/-- A successful run never returns an empty list. -/
theorem splitVlanIds_ne_nil {trunks : List Trunk} {ids : List Nat}
    (h : splitVlanIds trunks = .ok ids) : ids ≠ [] := by
  cases hf : trunks.foldlM addTrunk [] with
  | error e => simp [splitVlanIds, hf] at h
  | ok vlans =>
    simp only [splitVlanIds, hf, ok_bind] at h
    split_ifs at h with h0
    · simp at h
    · simp only [ok_bind, except_pure, Except.ok.injEq] at h
      rw [← h, ← List.length_pos, List.length_insertionSort]
      exact Nat.pos_of_ne_zero h0

/-- **When `splitVlanIds` succeeds**: exactly when every entry passes its checks and some
entry covers an ID. -/
theorem splitVlanIds_eq_ok_iff (trunks : List Trunk) :
    (∃ ids, splitVlanIds trunks = .ok ids) ↔
      (∀ t ∈ trunks, t.Valid) ∧ ∃ t ∈ trunks, ∃ v, t.Covers v := by
  constructor
  · rintro ⟨ids, h⟩
    obtain ⟨hv, -, hmem⟩ := splitVlanIds_eq_ok h
    refine ⟨hv, ?_⟩
    cases ids with
    | nil =>
      obtain ⟨vlans, hf⟩ := (foldlM_addTrunk trunks []).mpr hv
      have : vlans.length ≠ 0 := by
        intro h0; simp [splitVlanIds, hf, bind, Except.bind, h0, throw, throwThe,
          MonadExceptOf.throw] at h
      obtain ⟨v, hv'⟩ := List.exists_mem_of_length_pos (Nat.pos_of_ne_zero this)
      obtain ⟨t, ht, hc⟩ := ((foldlM_addTrunk_mem hf).1 v).mp hv' |>.resolve_left (by simp)
      exact ⟨t, ht, v, hc⟩
    | cons v _ =>
      obtain ⟨t, ht, hc⟩ := (hmem v).mp (List.mem_cons_self _ _)
      exact ⟨t, ht, v, hc⟩
  · rintro ⟨hv, t, ht, v, hc⟩
    obtain ⟨vlans, hf⟩ := (foldlM_addTrunk trunks []).mpr hv
    have hmem : v ∈ vlans := ((foldlM_addTrunk_mem hf).1 v).mpr (.inr ⟨t, ht, hc⟩)
    exact ⟨vlans.insertionSort (· ≤ ·), by simp [splitVlanIds, hf, List.ne_nil_of_mem hmem]⟩

/-! ### The errors -/

theorem trunkMinID_le {item : Trunk} {minID : Nat} (h : trunkMinID item = .ok minID) :
    minID ≤ 4096 := by
  unfold trunkMinID at h
  split at h
  · cases h; omega
  · split_ifs at h with h4
    cases h; omega

/-- The errors of the bound checks of an entry. -/
theorem trunkChecks_error {item : Trunk} {e : String}
    (h : (trunkMinID item >>= trunkMaxID item) = .error e) :
    e = "incorrect trunk minID parameter" ∨ e = "incorrect trunk maxID parameter" ∨
      e = "minID is greater than maxID in trunk parameter" := by
  cases hmin : trunkMinID item with
  | error e' =>
    rw [hmin] at h
    cases h
    unfold trunkMinID at hmin
    split at hmin
    · cases hmin
    · split_ifs at hmin; cases hmin; exact .inl rfl
  | ok minID =>
    rw [hmin, ok_bind] at h
    unfold trunkMaxID at h
    split at h
    · cases h
    · split_ifs at h <;> cases h
      exacts [.inr (.inl rfl), .inr (.inr rfl)]

/-- An entry stops the loop only with the error of its bound checks: the check on a single ID
tests `minID`, which `trunkMinID` has already bounded, and never fires. -/
theorem addTrunk_eq_error {vlans : List Nat} {item : Trunk} {e : String}
    (h : addTrunk vlans item = .error e) : (trunkMinID item >>= trunkMaxID item) = .error e := by
  unfold addTrunk at h
  cases hmin : trunkMinID item with
  | error e' => simpa [hmin] using h
  | ok minID =>
    have h4 := trunkMinID_le hmin
    cases hmax : trunkMaxID item minID with
    | error e' => simpa [hmin, hmax] using h
    | ok maxID =>
      simp only [hmin, hmax, ok_bind] at h
      split at h
      · cases h
      · rw [if_neg (Nat.not_lt.mpr h4)] at h
        cases h

/-- The loop over the entries stops at the first entry failing its checks, with the error of
its bound checks. -/
theorem foldlM_addTrunk_eq_error {trunks : List Trunk} {vlans : List Nat} {e : String}
    (h : trunks.foldlM addTrunk vlans = .error e) :
    ∃ pre t post, trunks = pre ++ t :: post ∧ (∀ t' ∈ pre, t'.Valid) ∧
      (trunkMinID t >>= trunkMaxID t) = .error e := by
  induction trunks generalizing vlans with
  | nil => cases h
  | cons t trunks ih =>
    rw [List.foldlM_cons] at h
    cases ht : addTrunk vlans t with
    | error e' =>
      rw [ht] at h
      cases h
      exact ⟨[], t, trunks, rfl, nofun, addTrunk_eq_error ht⟩
    | ok vlans' =>
      rw [ht] at h
      obtain ⟨pre, t', post, rfl, hpre, he⟩ := ih h
      have hv : t.Valid := by
        by_contra hv
        obtain ⟨e', he'⟩ := addTrunk_of_not_valid hv vlans
        rw [he'] at ht
        cases ht
      exact ⟨t :: pre, t', post, rfl, List.forall_mem_cons.mpr ⟨hv, hpre⟩, he⟩

/-- Where the loop of `splitVlanIds` fails: at the first entry failing its checks, or after all
of them, when they cover nothing. -/
theorem splitVlanIds_error_cases {trunks : List Trunk} {e : String}
    (h : splitVlanIds trunks = .error e) :
    (∃ pre t post, trunks = pre ++ t :: post ∧ (∀ t' ∈ pre, t'.Valid) ∧
        (trunkMinID t >>= trunkMaxID t) = .error e) ∨
      (∀ t ∈ trunks, t.Valid) ∧ (∀ t ∈ trunks, ∀ v, ¬t.Covers v) ∧
        e = "trunk parameter is misconfigured" := by
  cases hf : trunks.foldlM addTrunk [] with
  | error e' =>
    rw [splitVlanIds, hf] at h
    cases h
    exact .inl (foldlM_addTrunk_eq_error hf)
  | ok vlans =>
    simp only [splitVlanIds, hf, ok_bind] at h
    split_ifs at h with h0
    · cases h
      refine .inr ⟨(foldlM_addTrunk _ _).mp ⟨_, hf⟩, fun t ht v hc => ?_, rfl⟩
      have hv := ((foldlM_addTrunk_mem hf).1 v).mpr (.inr ⟨t, ht, hc⟩)
      rw [List.length_eq_zero.mp h0] at hv
      cases hv
    · cases h

/-- **The errors of `splitVlanIds`**: the check on a single ID, which tests `minID`, never fires,
so its error is never returned; the function fails with the error of the first bound check that
fails in the first entry failing its checks, or, every entry being valid, because they cover
nothing. -/
theorem splitVlanIds_eq_error {trunks : List Trunk} {e : String}
    (h : splitVlanIds trunks = .error e) :
    e ≠ "incorrect trunk id parameter" ∧
    ((∃ pre t post, trunks = pre ++ t :: post ∧ (∀ t' ∈ pre, t'.Valid) ∧
        (trunkMinID t >>= trunkMaxID t) = .error e) ∨
      (∀ t ∈ trunks, t.Valid) ∧ (∀ t ∈ trunks, ∀ v, ¬t.Covers v) ∧
        e = "trunk parameter is misconfigured") := by
  refine ⟨?_, splitVlanIds_error_cases h⟩
  rcases splitVlanIds_error_cases h with ⟨-, t, -, -, -, he⟩ | ⟨-, -, rfl⟩
  · rcases trunkChecks_error he with rfl | rfl | rfl <;> decide
  · decide

/-- An entry with a single ID and a range whose bounds are the wrong way round. -/
def reversedRangeTrunks : List Trunk := [⟨none, none, some 7⟩, ⟨some 10, some 5, none⟩]

theorem splitVlanIds_eq_error_reversedRange :
    splitVlanIds reversedRangeTrunks = .error "minID is greater than maxID in trunk parameter" ∧
    "minID is greater than maxID in trunk parameter" ≠ "incorrect trunk id parameter" ∧
    ((∃ pre t post, reversedRangeTrunks = pre ++ t :: post ∧ (∀ t' ∈ pre, t'.Valid) ∧
        (trunkMinID t >>= trunkMaxID t) = .error "minID is greater than maxID in trunk parameter") ∨
      (∀ t ∈ reversedRangeTrunks, t.Valid) ∧ (∀ t ∈ reversedRangeTrunks, ∀ v, ¬t.Covers v) ∧
        "minID is greater than maxID in trunk parameter" = "trunk parameter is misconfigured") :=
  have h : splitVlanIds reversedRangeTrunks =
      .error "minID is greater than maxID in trunk parameter" := rfl
  ⟨h, splitVlanIds_eq_error h⟩

/-- Two strictly increasing lists with the same elements are the same list. -/
theorem eq_of_sorted_of_mem_iff {l l' : List Nat} (h : l.Sorted (· < ·)) (h' : l'.Sorted (· < ·))
    (hmem : ∀ v, v ∈ l ↔ v ∈ l') : l = l' :=
  List.eq_of_perm_of_sorted ((List.perm_ext_iff_of_nodup h.nodup h'.nodup).mpr hmem) h h'

/-! ### The output: strictly increasing, and fixed by the IDs the entries cover -/

/-- **The output of `splitVlanIds`**: on a list of entries where it succeeds, the output is
strictly increasing and holds exactly the single IDs and the ranges whose two bounds are given
with a positive lower one. Hence it depends neither on the order of the entries nor on their
overlaps: any list covering the same IDs on which the function succeeds gives the same output,
and every reordering of the list succeeds with it. -/
theorem splitVlanIds_sorted_covers {trunks : List Trunk} {ids : List Nat}
    (h : splitVlanIds trunks = .ok ids) :
    ids.Sorted (· < ·) ∧
    (∀ v, v ∈ ids ↔ (∃ t ∈ trunks, t.id = some v) ∨
      ∃ t ∈ trunks, ∃ lo hi, t.minID = some lo ∧ t.maxID = some hi ∧ 0 < lo ∧ lo ≤ v ∧ v ≤ hi) ∧
    (∀ trunks', trunks'.Perm trunks → splitVlanIds trunks' = .ok ids) ∧
    ∀ trunks' ids', splitVlanIds trunks' = .ok ids' →
      (∀ v, (∃ t ∈ trunks', t.Covers v) ↔ ∃ t ∈ trunks, t.Covers v) → ids' = ids := by
  obtain ⟨hv, hs, hmem⟩ := splitVlanIds_eq_ok h
  have same : ∀ trunks' ids', splitVlanIds trunks' = .ok ids' →
      (∀ v, (∃ t ∈ trunks', t.Covers v) ↔ ∃ t ∈ trunks, t.Covers v) → ids' = ids := by
    intro trunks' ids' h' hc
    obtain ⟨-, hs', hmem'⟩ := splitVlanIds_eq_ok h'
    exact eq_of_sorted_of_mem_iff hs' hs fun v => by rw [hmem', hmem, hc]
  refine ⟨hs, fun v => by simp only [hmem, Trunk.Covers, and_or_left, exists_or],
    fun trunks' hp => ?_, same⟩
  obtain ⟨ids', h'⟩ := (splitVlanIds_eq_ok_iff trunks').mpr <| by
    obtain ⟨-, t, ht, hc⟩ := (splitVlanIds_eq_ok_iff trunks).mp ⟨ids, h⟩
    exact ⟨fun t ht => hv t (hp.mem_iff.mp ht), t, hp.mem_iff.mpr ht, hc⟩
  rw [h', same trunks' ids' h' fun v => by simp only [hp.mem_iff]]

/-- Trunks given as a range and a single ID. -/
def sampleTrunks : List Trunk := [⟨some 10, some 12, none⟩, ⟨none, none, some 5⟩]

theorem splitVlanIds_sampleTrunks :
    splitVlanIds sampleTrunks = .ok [5, 10, 11, 12] ∧ [5, 10, 11, 12].Sorted (· < ·) ∧
    (∀ v, v ∈ [5, 10, 11, 12] ↔ (∃ t ∈ sampleTrunks, t.id = some v) ∨
      ∃ t ∈ sampleTrunks, ∃ lo hi, t.minID = some lo ∧ t.maxID = some hi ∧ 0 < lo ∧ lo ≤ v ∧
        v ≤ hi) ∧
    (∀ trunks', trunks'.Perm sampleTrunks → splitVlanIds trunks' = .ok [5, 10, 11, 12]) ∧
    ∀ trunks' ids', splitVlanIds trunks' = .ok ids' →
      (∀ v, (∃ t ∈ trunks', t.Covers v) ↔ ∃ t ∈ sampleTrunks, t.Covers v) → ids' = [5, 10, 11, 12] :=
  ⟨rfl, splitVlanIds_sorted_covers rfl⟩

/-- A range starting at `0` adds nothing: the configuration below gives the range `0 … 5` and
the single ID `7`, and the output is `[7]`. -/
theorem splitVlanIds_drops_range_from_zero :
    splitVlanIds [⟨some 0, some 5, none⟩, ⟨none, none, some 7⟩] = .ok [7] := rfl

/-- A single ID above `4096` is accepted. -/
theorem splitVlanIds_accepts_large_id : splitVlanIds [⟨none, none, some 5000⟩] = .ok [5000] := rfl

/-! ### The range loop over `uint`

The `for` loop of `splitVlanIds` counts with a Go `uint`, 64 bits wide on the `amd64` builds of
the plugin. Its `v++` wraps around at `2^64`, so at `maxID = 2^64 - 1` the test `v <= maxID`
never fails and the loop never ends (`OvsCni.rangeLoop_allOnes`). The one thing to know is that
the checks of an entry come before its loop and bound `maxID` by `4096` whenever the loop is
entered (`OvsCni.trunkMaxID_le`): the loop then ends after `maxID - minID + 1` turns with the
range added (`OvsCni.rangeLoop_ofNat`), and `splitVlanIds` run as the source runs it gives the
output of `OvsCni.splitVlanIds` (`OvsCni.splitVlanIdsLoop_run`).
-/

/-- The range loop `for v := minID; v <= maxID; v++ { vlans[v] = true }` as the source runs it,
over a 64-bit `uint`: the test before each turn, and an increment that wraps around. At most
`fuel` turns are run; `none` means the loop had not ended by then. -/
def rangeLoop (vlans : List Nat) (v maxID : BitVec 64) : Nat → Option (List Nat)
  | 0 => if v ≤ maxID then none else some vlans
  | fuel + 1 => if v ≤ maxID then rangeLoop (vlans.insert v.toNat) (v + 1) maxID fuel else some vlans

/-- One turn of the loop of `splitVlanIds` over the entries, with the range loop run as the
source runs it, for at most `fuel` turns; besides the errors of the checks, it may not have
ended. -/
def addTrunkLoop (fuel : Nat) (vlans : List Nat) (item : Trunk) :
    ExceptT String Option (List Nat) := do
  let minID ← trunkMinID item
  let maxID ← trunkMaxID item minID
  let vlans ← if minID > 0 ∧ maxID > 0 then
      rangeLoop vlans (.ofNat 64 minID) (.ofNat 64 maxID) fuel
    else pure vlans
  match item.id with
  | none => pure vlans
  | some id => if minID > 4096 then throw "incorrect trunk id parameter" else pure (vlans.insert id)

/-- `splitVlanIds` with every range loop run as the source runs it, for at most `fuel` turns
each. -/
def splitVlanIdsLoop (fuel : Nat) (trunks : List Trunk) : ExceptT String Option (List Nat) := do
  let vlans ← trunks.foldlM (addTrunkLoop fuel) []
  if vlans.length = 0 then throw "trunk parameter is misconfigured"
  pure (vlans.insertionSort (· ≤ ·))

/-- A range whose lower end is above its upper end adds nothing. -/
theorem addVlanRange_of_lt {vlans : List Nat} {minID maxID : Nat} (h : maxID < minID) :
    addVlanRange vlans minID maxID = vlans := by
  rw [addVlanRange, Nat.sub_eq_zero_of_le h]
  rfl

/-- A range adds its lower end first. -/
theorem addVlanRange_succ {vlans : List Nat} {minID maxID : Nat} (h : minID ≤ maxID) :
    addVlanRange vlans minID maxID = addVlanRange (vlans.insert minID) (minID + 1) maxID := by
  rw [addVlanRange, show maxID + 1 - minID = maxID + 1 - (minID + 1) + 1 by omega, List.range'_succ]
  rfl

section RangeLoop

variable {vlans : List Nat} {v maxID : BitVec 64} {fuel : Nat}

theorem rangeLoop_stop (h : ¬v ≤ maxID) : rangeLoop vlans v maxID fuel = some vlans := by
  cases fuel <;> simp only [rangeLoop, if_neg h]

theorem rangeLoop_turn (h : v ≤ maxID) :
    rangeLoop vlans v maxID (fuel + 1) = rangeLoop (vlans.insert v.toNat) (v + 1) maxID fuel :=
  if_pos h

/-- **The range loop below the top of `uint`**: with `maxID` below the largest `uint`, started at
`v`, at most one past `maxID`, the loop ends after exactly `maxID + 1 - v` turns, having added the
range `v … maxID`. -/
theorem rangeLoop_eq (hmax : maxID < BitVec.allOnes 64) (hv : v.toNat ≤ maxID.toNat + 1) :
    rangeLoop vlans v maxID fuel =
      if maxID.toNat + 1 - v.toNat ≤ fuel then some (addVlanRange vlans v.toNat maxID.toNat)
      else none := by
  rw [BitVec.lt_def, BitVec.toNat_allOnes] at hmax
  induction fuel generalizing vlans v with
  | zero =>
    by_cases hle : v ≤ maxID
    · rw [BitVec.le_def] at hle
      rw [rangeLoop, if_pos (BitVec.le_def.mpr hle), if_neg (by omega)]
    · rw [BitVec.le_def] at hle
      rw [rangeLoop_stop (mt BitVec.le_def.mp hle), if_pos (by omega), addVlanRange_of_lt (by omega)]
  | succ fuel ih =>
    by_cases hle : v ≤ maxID
    · -- `v < maxID + 1 < 2^64`, so `v + 1` does not wrap
      have hv1 : (v + 1).toNat = v.toNat + 1 := by bv_omega
      rw [BitVec.le_def] at hle
      rw [rangeLoop_turn (BitVec.le_def.mpr hle), ih (by omega), hv1, ← addVlanRange_succ hle]
      exact if_congr (by omega) rfl rfl
    · rw [BitVec.le_def] at hle
      rw [rangeLoop_stop (mt BitVec.le_def.mp hle), if_pos (by omega), addVlanRange_of_lt (by omega)]

/-- At the top of `uint` the test `v <= maxID` always holds, and the loop never ends. -/
theorem rangeLoop_allOnes : rangeLoop vlans v (BitVec.allOnes 64) fuel = none := by
  have hle : ∀ v : BitVec 64, v ≤ BitVec.allOnes 64 := fun v => by
    rw [BitVec.le_def, BitVec.toNat_allOnes]
    have := v.isLt
    omega
  induction fuel generalizing vlans v with
  | zero => exact if_pos (hle v)
  | succ fuel ih => rw [rangeLoop_turn (hle v), ih]

end RangeLoop

/-- **The range loop is entered below `4096`**: a positive upper bound that passed its checks is
at most `4096` and not below the lower bound. -/
theorem trunkMaxID_le {item : Trunk} {minID maxID : Nat} (h : trunkMaxID item minID = .ok maxID)
    (hpos : 0 < maxID) : minID ≤ maxID ∧ maxID ≤ 4096 := by
  unfold trunkMaxID at h
  split at h
  · cases h
    omega
  · split_ifs at h
    cases h
    omega

/-- The range loop between two bounds of an entry, read in `Nat`. -/
theorem rangeLoop_ofNat {vlans : List Nat} {minID maxID : Nat} (hlo : minID ≤ maxID)
    (hhi : maxID ≤ 4096) (fuel : Nat) :
    rangeLoop vlans (.ofNat 64 minID) (.ofNat 64 maxID) fuel =
      if maxID - minID + 1 ≤ fuel then some (addVlanRange vlans minID maxID) else none := by
  have hmin : (BitVec.ofNat 64 minID).toNat = minID := by rw [BitVec.toNat_ofNat]; omega
  have hmax : (BitVec.ofNat 64 maxID).toNat = maxID := by rw [BitVec.toNat_ofNat]; omega
  rw [@rangeLoop_eq vlans (.ofNat 64 minID) (.ofNat 64 maxID) fuel
    (by rw [BitVec.lt_def, hmax, BitVec.toNat_allOnes]; omega) (by rw [hmin, hmax]; omega), hmin,
    hmax,
    show maxID + 1 - minID = maxID - minID + 1 by omega]

/-- The range `10 … 12` of `sampleTrunks` takes three turns: two are not enough. -/
example : (splitVlanIdsLoop 2 sampleTrunks).run = none := rfl

theorem run_liftM_bind {α β : Type} (x : Except String α) (f : α → ExceptT String Option β) :
    (liftM x >>= f : ExceptT String Option β).run = match x with
      | .ok a => (f a).run
      | .error e => some (.error e) := by
  cases x <;> rfl

theorem run_liftM_option_bind {α β : Type} (x : Option α) (f : α → ExceptT String Option β) :
    (liftM x >>= f : ExceptT String Option β).run = x.bind fun a => (f a).run := by
  cases x <;> rfl

/-- With `4096` turns for each range loop, an entry is processed as `OvsCni.addTrunk` does. -/
theorem addTrunkLoop_run {fuel : Nat} (hfuel : 4096 ≤ fuel) (vlans : List Nat) (item : Trunk) :
    (addTrunkLoop fuel vlans item).run = some (addTrunk vlans item) := by
  simp only [addTrunkLoop, addTrunk, run_liftM_bind]
  rcases trunkMinID item with e | minID
  · rfl
  dsimp only [ok_bind]
  rcases hmax : trunkMaxID item minID with e | maxID
  · rfl
  dsimp only [ok_bind]
  -- the single ID is handled alike after either range
  have hid : ∀ ranged, (match item.id with
      | none => pure ranged
      | some id => if minID > 4096 then throw "incorrect trunk id parameter"
        else pure (ranged.insert id) : ExceptT String Option (List Nat)).run =
      some (match item.id with
      | none => pure ranged
      | some id => if minID > 4096 then throw "incorrect trunk id parameter"
        else pure (ranged.insert id)) := by
    intro ranged
    rcases item.id with _ | id
    · rfl
    · split_ifs <;> rfl
  by_cases hr : minID > 0 ∧ maxID > 0
  · obtain ⟨hlo, hhi⟩ := trunkMaxID_le hmax hr.2
    simp only [if_pos hr]
    rw [run_liftM_option_bind, rangeLoop_ofNat hlo hhi, if_pos (by omega)]
    exact hid _
  · simp only [if_neg hr]
    exact hid _

theorem foldlM_addTrunkLoop_run {fuel : Nat} (hfuel : 4096 ≤ fuel) (trunks : List Trunk)
    (vlans : List Nat) :
    (trunks.foldlM (addTrunkLoop fuel) vlans).run = some (trunks.foldlM addTrunk vlans) := by
  induction trunks generalizing vlans with
  | nil => rfl
  | cons item trunks ih =>
    simp only [List.foldlM_cons, ExceptT.run_bind, addTrunkLoop_run hfuel]
    rcases addTrunk vlans item with e | mid
    · rfl
    · exact ih mid

/-- **`splitVlanIds` run as the source runs it** ends, with `4096` turns for each range loop,
and gives the output of `OvsCni.splitVlanIds`. -/
theorem splitVlanIdsLoop_run {fuel : Nat} (hfuel : 4096 ≤ fuel) (trunks : List Trunk) :
    (splitVlanIdsLoop fuel trunks).run = some (splitVlanIds trunks) := by
  simp only [splitVlanIdsLoop, splitVlanIds, ExceptT.run_bind, foldlM_addTrunkLoop_run hfuel]
  rcases trunks.foldlM addTrunk [] with e | vlans
  · rfl
  · simp only [Option.bind_eq_bind, Option.some_bind, ok_bind]
    split_ifs <;> rfl

/-- **`splitVlanIds` ends on every list of entries.** Run as the source runs it, with `4096`
turns for each range loop, it ends with the output of `OvsCni.splitVlanIds`; and wherever the
range loop of an entry is entered – both bounds passed their checks and are positive – the upper
bound is at most `4096`, and the loop ends after exactly `maxID - minID + 1` turns, having added
the range, so its `uint` never wraps around. -/
theorem splitVlanIds_terminates (trunks : List Trunk) :
    (∀ fuel, 4096 ≤ fuel → (splitVlanIdsLoop fuel trunks).run = some (splitVlanIds trunks)) ∧
    ∀ item ∈ trunks, ∀ minID maxID, trunkMinID item = .ok minID →
      trunkMaxID item minID = .ok maxID → 0 < minID ∧ 0 < maxID →
      maxID ≤ 4096 ∧ ∀ vlans fuel, rangeLoop vlans (.ofNat 64 minID) (.ofNat 64 maxID) fuel =
        if maxID - minID + 1 ≤ fuel then some (addVlanRange vlans minID maxID) else none := by
  refine ⟨fun _ hfuel => splitVlanIdsLoop_run hfuel trunks, fun _ _ minID maxID _ hmax hpos => ?_⟩
  obtain ⟨hlo, hhi⟩ := trunkMaxID_le hmax hpos.2
  exact ⟨hhi, fun _ => rangeLoop_ofNat hlo hhi⟩

end OvsCni
