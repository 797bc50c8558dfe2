import OvsCni.Calls

/-!
# Waiting for the port to come up

Before `CmdAdd` configures addresses in the container, it polls the switch for the operational
state of the host port, so that the gratuitous ARPs that follow go out on a port the switch has
enabled. `waitLinkUp` is a counted loop,

    for i := 1; i <= retryCount; i++ { poll; break on "up"; fail at i == retryCount; sleep }

with three exits: the `break` when a poll reports `up`, the error at the last iteration, and the
end of the loop – reached at once when `retryCount` is below `1`.

`OvsCni.waitLinkUp_polls` describes every run, for every count and every sequence of answers:
with a positive count the loop polls at least once and at most `retryCount` times, stops at the
first poll that reports `up`, and returns nil exactly when that poll happened; with a count of
`0` or less it polls nothing and returns nil (`OvsCni.waitLinkUp_zero_retries`), although `CmdAdd`
calls it to wait until the port is up.
-/

namespace OvsCni

open Prog

/-- Whether a poll saw the port up: no error, and the state `up`. -/
def isUp : Except String String → Bool
  | .ok portState => portState == "up"
  | .error _ => false

/-- The error of `waitLinkUp` once the retries are used up. -/
def notUpMessage (ofPortName : String) : String :=
  "The OF port " ++ ofPortName ++
    " state is not up, try increasing number of retries/interval config parameter"

/-- The loop of `waitLinkUp` from iteration `i` on, `n` iterations being left. -/
def waitLinkUpLoop (bridge ofPortName : String) (retryCount interval : Int) :
    Nat → Nat → Plugin (Except String Unit)
  | 0, _ => pure (.ok ())
  | n + 1, i => do
    let portState ← getOFPortOpState bridge ofPortName
    if isUp portState then pure (.ok ())
    else if (i : Int) = retryCount then pure (.error (notUpMessage ofPortName))
    else do
      sleep interval
      waitLinkUpLoop bridge ofPortName retryCount interval n (i + 1)

/-- `waitLinkUp`: poll the state of the port `retryCount` times at most, `interval`
milliseconds apart. -/
def waitLinkUp (bridge ofPortName : String) (retryCount interval : Int) :
    Plugin (Except String Unit) :=
  waitLinkUpLoop bridge ofPortName retryCount interval retryCount.toNat 1

/-- The answers to the polls of a port's state in a run, in order. -/
def polls : List Event → List (Except String String)
  | [] => []
  | ⟨.getOFPortOpState _ _, r⟩ :: evs => r :: polls evs
  | _ :: evs => polls evs

/-- What a run of the loop polls, with `n + 1` iterations left at iteration `i`: one poll or
more, at most `n + 1`, none of them `up` but possibly the last; the loop returns nil exactly
when the last was `up`, and polls `n + 1` times when it was not. -/
theorem runs_waitLinkUpLoop {bridge ofPortName : String} {retryCount interval : Int} {n i : Nat}
    {evs : List Event} {res : Except String Unit}
    (h : Runs (waitLinkUpLoop bridge ofPortName retryCount interval (n + 1) i) evs res)
    (hi : (i : Int) + n = retryCount) :
    ∃ qs last, polls evs = qs ++ [last] ∧ (∀ q ∈ qs, isUp q = false) ∧ qs.length ≤ n ∧
      (res = .ok () ↔ isUp last = true) ∧ (isUp last = false → qs.length = n) := by
  induction n generalizing i evs with
  | zero =>
    rw [waitLinkUpLoop] at h
    simp only [getOFPortOpState, Prog.call_bind, Prog.ret_bind, runs_call] at h
    obtain ⟨r, evs', rfl, hk⟩ := h
    have hri : (i : Int) = retryCount := by omega
    cases hr : isUp r <;> simp [hr, hri] at hk <;> obtain ⟨rfl, rfl⟩ := hk <;>
      exact ⟨[], r, by simp [polls], by simp, le_refl 0, by simp [hr], fun _ => rfl⟩
  | succ m ih =>
    rw [waitLinkUpLoop] at h
    simp only [getOFPortOpState, Prog.call_bind, Prog.ret_bind, runs_call] at h
    obtain ⟨r, evs', rfl, hk⟩ := h
    have hri : (i : Int) ≠ retryCount := by omega
    cases hr : isUp r
    · simp only [hr, hri, if_false, Bool.false_eq_true, sleep, Prog.call_bind, Prog.ret_bind,
        runs_call] at hk
      obtain ⟨_, evs'', rfl, hk⟩ := hk
      obtain ⟨qs, last, hp, hqs, hlen, hres, hexh⟩ := ih hk (by push_cast; omega)
      refine ⟨r :: qs, last, by simp [polls, hp], ?_, by simpa using hlen, hres,
        fun h => by simpa using hexh h⟩
      simp only [List.mem_cons, forall_eq_or_imp, hr, true_and]
      exact hqs
    · simp only [hr, if_true] at hk
      obtain ⟨rfl, rfl⟩ := runs_ret.mp hk
      exact ⟨[], r, by simp [polls], by simp, Nat.zero_le _, by simp [hr], by simp [hr]⟩

/-- **Polling the port state**, for every count and every sequence of answers. With a positive
`retryCount`, `waitLinkUp` polls at least once and at most `retryCount` times, no poll before
the last reports `up`, it returns nil exactly when the last poll reported `up`, and otherwise
it has polled `retryCount` times. With `retryCount ≤ 0` it polls nothing and returns nil. -/
theorem waitLinkUp_polls {bridge ofPortName : String} {retryCount interval : Int}
    {evs : List Event} {res : Except String Unit}
    (h : Runs (waitLinkUp bridge ofPortName retryCount interval) evs res) :
    (retryCount ≤ 0 → polls evs = [] ∧ res = .ok ()) ∧
      (0 < retryCount → ∃ qs last, polls evs = qs ++ [last] ∧ (∀ q ∈ qs, isUp q = false) ∧
        (qs ++ [last]).length ≤ retryCount.toNat ∧ (res = .ok () ↔ isUp last = true) ∧
        (isUp last = false → (qs ++ [last]).length = retryCount.toNat)) := by
  unfold waitLinkUp at h
  refine ⟨fun hle => ?_, fun hpos => ?_⟩
  · rw [show retryCount.toNat = 0 by omega] at h
    obtain ⟨rfl, rfl⟩ := runs_ret.mp h
    exact ⟨rfl, rfl⟩
  · obtain ⟨n, hn⟩ : ∃ n, retryCount.toNat = n + 1 := ⟨retryCount.toNat - 1, by omega⟩
    rw [hn] at h ⊢
    obtain ⟨qs, last, hp, hqs, hlen, hres, hexh⟩ := runs_waitLinkUpLoop h (by omega)
    exact ⟨qs, last, hp, hqs, by simpa using hlen, hres, fun h => by simpa using hexh h⟩

/-- A port found down once, then up, with two retries. -/
def downThenUpRun : List Event :=
  [⟨.getOFPortOpState "br0" "veth0", .ok "down"⟩, ⟨.sleep 1000, ()⟩,
   ⟨.getOFPortOpState "br0" "veth0", .ok "up"⟩]

theorem waitLinkUp_polls_downThenUp :
    Runs (waitLinkUp "br0" "veth0" 2 1000) downThenUpRun (.ok ()) ∧
    ((2 : Int) ≤ 0 → polls downThenUpRun = [] ∧ (.ok () : Except String Unit) = .ok ()) ∧
    (0 < (2 : Int) → ∃ qs last, polls downThenUpRun = qs ++ [last] ∧ (∀ q ∈ qs, isUp q = false) ∧
      (qs ++ [last]).length ≤ (2 : Int).toNat ∧ ((.ok () : Except String Unit) = .ok () ↔ isUp last = true) ∧
      (isUp last = false → (qs ++ [last]).length = (2 : Int).toNat)) :=
  have h : Runs (waitLinkUp "br0" "veth0" 2 1000) downThenUpRun (.ok ()) :=
    .call _ (.call _ (.call _ (.ret _)))
  ⟨h, waitLinkUp_polls h⟩

theorem waitLinkUp_callsOnly {P : Call → Prop} {bridge ofPortName : String}
    {retryCount interval : Int} (h₁ : P (.getOFPortOpState bridge ofPortName))
    (h₂ : P (.sleep interval)) :
    (waitLinkUp bridge ofPortName retryCount interval).CallsOnly P := by
  suffices ∀ n i, (waitLinkUpLoop bridge ofPortName retryCount interval n i).CallsOnly P from this _ _
  intro n
  induction n with
  | zero => exact fun _ => trivial
  | succ n ih =>
    intro i
    refine ⟨h₁, fun r => show CallsOnly P (if isUp r then _ else _) from ?_⟩
    split_ifs
    · trivial
    · trivial
    · exact ⟨h₂, fun _ => ih _⟩

/-- With no retries the loop is not entered: nothing is polled and nil is returned. -/
theorem waitLinkUp_zero_retries : Runs (waitLinkUp "br0" "veth0" 0 1000) [] (.ok ()) := .ret _

end OvsCni
