import Mathlib.Logic.Basic

/-!
# Programs that call collaborators

Every handler of the plugin has the same shape: call a collaborator – the switch database,
the kernel, the IPAM plugin, the cache store –, look at the answer, and decide what to call
next. `OvsCni.Prog` is that shape and nothing more: a program has either finished with a
value, or makes one call and continues with a function of the answer. What a collaborator may
answer is left entirely open, so a statement about every run of a program is a statement
about every behaviour of its collaborators.

* `OvsCni.Prog.Runs p evs a` – the run of `p` whose calls, with their answers, are `evs`, and
  which finishes with `a`;
* `OvsCni.Prog.Reaches p evs` – a run cut short after the calls `evs`: the process was
  killed there;
* `OvsCni.Prog.trace o p` – the run of `p` when each call `e` is answered `o e`, which is how
  a concrete run is evaluated;
* `OvsCni.Prog.CallsOnly P p` – every call `p` can make satisfies `P`, whatever the answers;
  `OvsCni.Prog.CallsAfter H pre p` – every call it makes satisfies `H` given the calls made
  before it, with their answers, so that a call may depend on what an earlier one answered.

The handlers are written with `do` notation over `OvsCni.Prog.bind`, and their runs are taken
apart with `OvsCni.Prog.runs_bind`: a run of `p >>= f` is a run of `p` followed by a run of
`f` on its value. A run answered by a fixed `o` is the trace of `o`
(`OvsCni.Prog.Runs.eq_trace`): the same calls answered the same way give the same value, and
two runs of one program whose common calls were answered alike are the same run
(`OvsCni.Prog.Runs.eq_of_agree`), as are two runs that begin one list of calls
(`OvsCni.Prog.Runs.eq_of_prefix`). A discipline checked once on a program, by its `bind` and
`orReturn` rules, holds of every call of every run (`OvsCni.Prog.Runs.calls`,
`OvsCni.Prog.Runs.callsAfter`).
-/

namespace OvsCni

/-- A program over the calls `E`, the call `e` being answered by a value of `R e`. -/
inductive Prog (E : Type) (R : E → Type) (α : Type) : Type where
  /-- Finished, with a value. -/
  | ret (a : α)
  /-- One call, and the rest of the program as a function of its answer. -/
  | call (e : E) (k : R e → Prog E R α)

namespace Prog

variable {E : Type} {R : E → Type} {α β : Type}

/-- Sequencing: run `p`, then `f` on its value. -/
protected def bind : Prog E R α → (α → Prog E R β) → Prog E R β
  | ret a, f => f a
  | call e k, f => call e fun r => (k r).bind f

instance : Monad (Prog E R) where
  pure := ret
  bind := Prog.bind

/-- The program making the single call `e` and returning its answer. -/
def lift (e : E) : Prog E R (R e) := call e ret

@[simp] theorem pure_eq (a : α) : (pure a : Prog E R α) = ret a := rfl

@[simp] theorem ret_bind (a : α) (f : α → Prog E R β) : (ret a >>= f) = f a := rfl

@[simp] theorem call_bind (e : E) (k : R e → Prog E R α) (f : α → Prog E R β) :
    (call e k >>= f) = call e fun r => k r >>= f := rfl

@[simp] theorem lift_bind (e : E) (f : R e → Prog E R β) : (lift e >>= f) = call e f := rfl

/-! ### Runs -/

/-- An answered call. -/
abbrev Event (E : Type) (R : E → Type) := Σ e : E, R e

/-- `p.Runs evs a`: answered as in `evs`, `p` makes exactly the calls of `evs` and finishes
with `a`. -/
inductive Runs : Prog E R α → List (Event E R) → α → Prop
  | ret (a : α) : Runs (ret a) [] a
  | call {e : E} {k : R e → Prog E R α} (r : R e) {evs : List (Event E R)} {a : α} :
      Runs (k r) evs a → Runs (call e k) (⟨e, r⟩ :: evs) a

/-- `p.Reaches evs`: answered as in `evs`, `p` makes the calls of `evs`, and may be stopped
after them. -/
inductive Reaches : Prog E R α → List (Event E R) → Prop
  | nil (p : Prog E R α) : Reaches p []
  | call {e : E} {k : R e → Prog E R α} (r : R e) {evs : List (Event E R)} :
      Reaches (k r) evs → Reaches (call e k) (⟨e, r⟩ :: evs)

variable {p : Prog E R α} {evs : List (Event E R)} {a : α}

@[simp] theorem runs_ret {a b : α} : Runs (ret a : Prog E R α) evs b ↔ evs = [] ∧ b = a := by
  constructor
  · rintro ⟨⟩; exact ⟨rfl, rfl⟩
  · rintro ⟨rfl, rfl⟩; exact .ret _

@[simp] theorem runs_call {e : E} {k : R e → Prog E R α} :
    Runs (call e k) evs a ↔ ∃ r evs', evs = ⟨e, r⟩ :: evs' ∧ Runs (k r) evs' a := by
  constructor
  · rintro ⟨⟩; exact ⟨_, _, rfl, ‹_›⟩
  · rintro ⟨r, evs', rfl, h⟩; exact .call r h

/-- A run of a single call is the call with its answer. -/
@[simp] theorem runs_call_ret {e : E} {r : R e} : Runs (call e ret) evs r ↔ evs = [⟨e, r⟩] := by
  simp only [runs_call, runs_ret]
  constructor
  · rintro ⟨_, _, rfl, rfl, rfl⟩; rfl
  · rintro rfl; exact ⟨r, [], rfl, rfl, rfl⟩

/-- **A run of a sequence** is a run of its first part followed by a run of the rest on the
value the first part finished with. -/
theorem runs_bind {f : α → Prog E R β} {b : β} :
    Runs (p >>= f) evs b ↔ ∃ evs₁ a evs₂, Runs p evs₁ a ∧ Runs (f a) evs₂ b ∧ evs = evs₁ ++ evs₂ := by
  induction p generalizing evs with
  | ret a =>
    constructor
    · intro h; exact ⟨[], a, evs, .ret a, h, rfl⟩
    · rintro ⟨_, _, _, ⟨⟩, h, rfl⟩; exact h
  | call e k ih =>
    simp only [call_bind, runs_call, ih]
    constructor
    · rintro ⟨r, evs', rfl, evs₁, a, evs₂, h₁, h₂, rfl⟩
      exact ⟨_, a, evs₂, ⟨r, evs₁, rfl, h₁⟩, h₂, rfl⟩
    · rintro ⟨_, a, evs₂, ⟨r, evs₁, rfl, h₁⟩, h₂, rfl⟩
      exact ⟨r, _, rfl, evs₁, a, evs₂, h₁, h₂, rfl⟩

theorem Runs.reaches (h : Runs p evs a) : Reaches p evs := by
  induction h with
  | ret => exact .nil _
  | call r _ ih => exact .call r ih

@[simp] theorem reaches_ret {a : α} : Reaches (ret a : Prog E R α) evs ↔ evs = [] := by
  constructor
  · rintro ⟨⟩; rfl
  · rintro rfl; exact .nil _

@[simp] theorem reaches_call {e : E} {k : R e → Prog E R α} :
    Reaches (call e k) evs ↔ evs = [] ∨ ∃ r evs', evs = ⟨e, r⟩ :: evs' ∧ Reaches (k r) evs' := by
  constructor
  · rintro (_ | ⟨r, h⟩)
    · exact .inl rfl
    · exact .inr ⟨r, _, rfl, h⟩
  · rintro (rfl | ⟨r, evs', rfl, h⟩)
    · exact .nil _
    · exact .call r h

/-- A cut run cut earlier is a cut run. -/
theorem Reaches.append_left {evs₁ evs₂ : List (Event E R)} (h : Reaches p (evs₁ ++ evs₂)) :
    Reaches p evs₁ := by
  induction evs₁ generalizing p with
  | nil => exact .nil p
  | cons ev evs₁ ih =>
    obtain ⟨e, r⟩ := ev
    cases h with
    | call r h => exact .call r (ih h)

/-- **A cut run of a sequence** is a cut run of its first part, or a whole run of the first
part followed by a cut run of the rest. -/
theorem reaches_bind {f : α → Prog E R β} :
    Reaches (p >>= f) evs ↔
      Reaches p evs ∨ ∃ evs₁ a evs₂, Runs p evs₁ a ∧ Reaches (f a) evs₂ ∧ evs = evs₁ ++ evs₂ := by
  induction p generalizing evs with
  | ret a =>
    constructor
    · intro h; exact .inr ⟨[], a, evs, .ret a, h, rfl⟩
    · rintro (h | ⟨_, _, _, ⟨⟩, h, rfl⟩)
      · rw [reaches_ret.mp h]; exact .nil _
      · exact h
  | call e k ih =>
    simp only [call_bind, reaches_call, runs_call, ih]
    constructor
    · rintro (rfl | ⟨r, evs', rfl, h | ⟨evs₁, a, evs₂, h₁, h₂, rfl⟩⟩)
      · exact .inl (.inl rfl)
      · exact .inl (.inr ⟨r, evs', rfl, h⟩)
      · exact .inr ⟨_, a, evs₂, ⟨r, evs₁, rfl, h₁⟩, h₂, rfl⟩
    · rintro ((rfl | ⟨r, evs', rfl, h⟩) | ⟨_, a, evs₂, ⟨r, evs₁, rfl, h₁⟩, h₂, rfl⟩)
      · exact .inl rfl
      · exact .inr ⟨r, evs', rfl, .inl h⟩
      · exact .inr ⟨r, _, rfl, .inr ⟨evs₁, a, evs₂, h₁, h₂, rfl⟩⟩

/-! ### Stopping on an error -/

/-- Go's `x, err := p; if err != nil { return f(err) }`: run `p`; stop with `f` of an error,
go on with `k` on a value. -/
def orReturn {ε γ : Type} (p : Prog E R (Except ε γ)) (f : ε → β) (k : γ → Prog E R β) :
    Prog E R β :=
  p >>= fun r => match r with
    | .error e => ret (f e)
    | .ok a => k a

@[simp] theorem orReturn_pure_ok {ε γ : Type} {a : γ} {f : ε → β} {k : γ → Prog E R β} :
    orReturn (pure (.ok a)) f k = k a := rfl

theorem runs_orReturn {ε γ : Type} {p : Prog E R (Except ε γ)} {f : ε → β}
    {k : γ → Prog E R β} {b : β} :
    Runs (orReturn p f k) evs b ↔
      (∃ e, Runs p evs (.error e) ∧ b = f e) ∨
        ∃ evs₁ a evs₂, Runs p evs₁ (.ok a) ∧ Runs (k a) evs₂ b ∧ evs = evs₁ ++ evs₂ := by
  simp only [orReturn, runs_bind]
  constructor
  · rintro ⟨evs₁, (e | a), evs₂, h₁, h₂, rfl⟩
    · obtain ⟨rfl, rfl⟩ := runs_ret.mp h₂
      exact .inl ⟨e, by simpa using h₁, rfl⟩
    · exact .inr ⟨evs₁, a, evs₂, h₁, h₂, rfl⟩
  · rintro (⟨e, h, rfl⟩ | ⟨evs₁, a, evs₂, h₁, h₂, rfl⟩)
    · exact ⟨evs, .error e, [], h, .ret _, by simp⟩
    · exact ⟨evs₁, .ok a, evs₂, h₁, h₂, rfl⟩

/-- A run of `orReturn` that ends well, when every error ends badly, ran both parts to a
value. -/
theorem runs_orReturn_ok {ε γ ε' β' : Type} {p : Prog E R (Except ε γ)} {g : ε → ε'}
    {k : γ → Prog E R (Except ε' β')} {b : β'}
    (h : Runs (orReturn p (fun e => .error (g e)) k) evs (.ok b)) :
    ∃ evs₁ a evs₂, Runs p evs₁ (.ok a) ∧ Runs (k a) evs₂ (.ok b) ∧ evs = evs₁ ++ evs₂ := by
  rcases runs_orReturn.mp h with ⟨e, -, he⟩ | h
  · cases he
  · exact h

/-- A run of Go's `if cond { return err }` that ends well went past it. -/
theorem runs_ite_error {ε β : Type} {c : Prop} [Decidable c] {e : ε} {p : Prog E R (Except ε β)}
    {b : β} (h : Runs (if c then ret (.error e) else p) evs (.ok b)) : ¬c ∧ Runs p evs (.ok b) := by
  by_cases hc : c
  · rw [if_pos hc] at h
    cases (runs_ret.mp h).2
  · rw [if_neg hc] at h
    exact ⟨hc, h⟩

theorem reaches_orReturn {ε γ : Type} {p : Prog E R (Except ε γ)} {f : ε → β}
    {k : γ → Prog E R β} :
    Reaches (orReturn p f k) evs ↔
      Reaches p evs ∨
        ∃ evs₁ a evs₂, Runs p evs₁ (.ok a) ∧ Reaches (k a) evs₂ ∧ evs = evs₁ ++ evs₂ := by
  simp only [orReturn, reaches_bind]
  constructor
  · rintro (h | ⟨evs₁, (e | a), evs₂, h₁, h₂, rfl⟩)
    · exact .inl h
    · rw [reaches_ret.mp h₂, List.append_nil]; exact .inl h₁.reaches
    · exact .inr ⟨evs₁, a, evs₂, h₁, h₂, rfl⟩
  · rintro (h | ⟨evs₁, a, evs₂, h₁, h₂, rfl⟩)
    · exact .inl h
    · exact .inr ⟨evs₁, .ok a, evs₂, h₁, h₂, rfl⟩

/-! ### The calls a program can make -/

/-- `p.CallsOnly P`: whatever the answers, every call `p` makes satisfies `P`. -/
def CallsOnly (P : E → Prop) : Prog E R α → Prop
  | ret _ => True
  | call e k => P e ∧ ∀ r, CallsOnly P (k r)

variable {P Q : E → Prop}

@[simp] theorem callsOnly_ret (a : α) : (ret a : Prog E R α).CallsOnly P := trivial

@[simp] theorem callsOnly_call {e : E} {k : R e → Prog E R α} :
    (call e k).CallsOnly P ↔ P e ∧ ∀ r, (k r).CallsOnly P := Iff.rfl

theorem CallsOnly.bind {f : α → Prog E R β} (hp : p.CallsOnly P) (hf : ∀ a, (f a).CallsOnly P) :
    (p >>= f).CallsOnly P := by
  induction p with
  | ret a => exact hf a
  | call e k ih => exact ⟨hp.1, fun r => ih r (hp.2 r)⟩

theorem CallsOnly.orReturn {ε γ : Type} {p : Prog E R (Except ε γ)} {f : ε → β}
    {k : γ → Prog E R β} (hp : p.CallsOnly P) (hk : ∀ a, (k a).CallsOnly P) :
    (orReturn p f k).CallsOnly P :=
  hp.bind fun r => by cases r <;> simp [hk]

theorem CallsOnly.ite {c : Prop} [Decidable c] {q : Prog E R α} (hp : p.CallsOnly P)
    (hq : q.CallsOnly P) : (if c then p else q).CallsOnly P := by
  split <;> assumption

theorem CallsOnly.mono (hp : p.CallsOnly P) (hPQ : ∀ e, P e → Q e) : p.CallsOnly Q := by
  induction p with
  | ret a => trivial
  | call e k ih => exact ⟨hPQ e hp.1, fun r => ih r (hp.2 r)⟩

/-- **What a program may call is what its cut runs call.** -/
theorem Reaches.calls (P : E → Prop) (h : Reaches p evs) (hp : p.CallsOnly P) :
    ∀ ev ∈ evs, P ev.1 := by
  induction h with
  | nil => simp
  | call r _ ih =>
    simp only [List.mem_cons, forall_eq_or_imp]
    exact ⟨hp.1, ih (hp.2 r)⟩

theorem Runs.calls (P : E → Prop) (h : Runs p evs a) (hp : p.CallsOnly P) : ∀ ev ∈ evs, P ev.1 :=
  h.reaches.calls P hp

/-! ### The calls a program can make, given what it was answered -/

/-- `p.CallsAfter H pre`: whatever the answers, every call `p` makes satisfies `H` given the
events before it – `pre`, then the calls `p` made so far with their answers. -/
def CallsAfter (H : List (Event E R) → E → Prop) : List (Event E R) → Prog E R α → Prop
  | _, ret _ => True
  | pre, call e k => H pre e ∧ ∀ r, CallsAfter H (pre ++ [⟨e, r⟩]) (k r)

variable {H : List (Event E R) → E → Prop} {pre : List (Event E R)}

theorem CallsAfter.bind {f : α → Prog E R β} (hp : p.CallsAfter H pre)
    (hf : ∀ evs a, Runs p evs a → (f a).CallsAfter H (pre ++ evs)) : (p >>= f).CallsAfter H pre := by
  induction p generalizing pre with
  | ret a => simpa using hf [] a (.ret a)
  | call e k ih =>
    exact ⟨hp.1, fun r => ih r (hp.2 r) fun evs a h => by simpa using hf _ a (.call r h)⟩

theorem CallsAfter.orReturn {ε γ : Type} {p : Prog E R (Except ε γ)} {f : ε → β}
    {k : γ → Prog E R β} (hp : p.CallsAfter H pre)
    (hk : ∀ evs a, Runs p evs (.ok a) → (k a).CallsAfter H (pre ++ evs)) :
    (orReturn p f k).CallsAfter H pre :=
  hp.bind fun evs r h => by
    cases r with
    | error => trivial
    | ok a => exact hk evs a h

theorem CallsAfter.mono {H' : List (Event E R) → E → Prop} (hp : p.CallsAfter H pre)
    (hH : ∀ pre e, H pre e → H' pre e) : p.CallsAfter H' pre := by
  induction p generalizing pre with
  | ret a => trivial
  | call e k ih => exact ⟨hH _ _ hp.1, fun r => ih r (hp.2 r)⟩

/-- A program whose calls satisfy `P` whatever came before makes calls that satisfy `H`. -/
theorem CallsOnly.callsAfter (hp : p.CallsOnly P) (hPH : ∀ pre e, P e → H pre e) :
    p.CallsAfter H pre := by
  induction p generalizing pre with
  | ret a => trivial
  | call e k ih => exact ⟨hPH _ _ hp.1, fun r => ih r (hp.2 r)⟩

/-- **The calls of a cut run satisfy `H` given the whole cut run**, when `H` only grows with the
events it is given. -/
theorem Reaches.callsAfter (h : Reaches p evs) (hp : p.CallsAfter H pre)
    (hmono : ∀ h₁ h₂ e, h₁ ⊆ h₂ → H h₁ e → H h₂ e) : ∀ ev ∈ evs, H (pre ++ evs) ev.1 := by
  induction h generalizing pre with
  | nil => simp
  | call r _ ih =>
    intro ev hev
    rcases List.mem_cons.mp hev with rfl | hev
    · exact hmono _ _ _ (fun x hx => by simp [hx]) hp.1
    · simpa using ih (hp.2 r) ev hev

/-- **Each call of a cut run satisfies `H` given the calls made before it.** -/
theorem Reaches.callsAfter_of_eq (h : Reaches p evs) (hp : p.CallsAfter H pre)
    {before after : List (Event E R)} {ev : Event E R} (he : evs = before ++ ev :: after) :
    H (pre ++ before) ev.1 := by
  induction h generalizing pre before with
  | nil => simp at he
  | call r _ ih =>
    rcases before with _ | ⟨x, before⟩
    · obtain ⟨rfl, -⟩ := List.cons.inj he
      simpa using hp.1
    · obtain ⟨rfl, he'⟩ := List.cons.inj he
      simpa using ih (hp.2 r) he'

theorem Runs.callsAfter (h : Runs p evs a) (hp : p.CallsAfter H pre)
    (hmono : ∀ h₁ h₂ e, h₁ ⊆ h₂ → H h₁ e → H h₂ e) : ∀ ev ∈ evs, H (pre ++ evs) ev.1 :=
  h.reaches.callsAfter hp hmono

/-! ### Runs against fixed answers -/

/-- The run of `p` when every call `e` is answered `o e`: its calls with their answers, and
the value it finishes with. -/
def trace (o : (e : E) → R e) : Prog E R α → List (Event E R) × α
  | ret a => ([], a)
  | call e k => (⟨e, o e⟩ :: (trace o (k (o e))).1, (trace o (k (o e))).2)

theorem runs_trace (o : (e : E) → R e) (p : Prog E R α) : Runs p (p.trace o).1 (p.trace o).2 := by
  induction p with
  | ret a => exact .ret a
  | call e k ih => exact .call (o e) (ih (o e))

/-- **Runs answered alike are alike**: a run in which every call is answered as `o` answers it
is the trace of `o`. -/
theorem Runs.eq_trace {o : (e : E) → R e} (h : Runs p evs a) (ho : ∀ ev ∈ evs, ev.2 = o ev.1) :
    evs = (p.trace o).1 ∧ a = (p.trace o).2 := by
  induction h with
  | ret => exact ⟨rfl, rfl⟩
  | @call e k r evs a _ ih =>
    have hr : r = o e := ho ⟨e, r⟩ (List.mem_cons_self _ _)
    subst hr
    obtain ⟨h₁, h₂⟩ := ih fun ev hev => ho ev (List.mem_cons_of_mem _ hev)
    exact ⟨by rw [h₁]; rfl, h₂⟩

/-- **Runs answered alike are alike**, for two runs of one program: when every call made in both
got the same answer in both, they made the same calls and finished with the same value. -/
theorem Runs.eq_of_agree {evs₁ evs₂ : List (Event E R)} {a₁ a₂ : α} (h₁ : Runs p evs₁ a₁)
    (h₂ : Runs p evs₂ a₂) (hag : ∀ e r₁ r₂, ⟨e, r₁⟩ ∈ evs₁ → ⟨e, r₂⟩ ∈ evs₂ → r₁ = r₂) :
    evs₁ = evs₂ ∧ a₁ = a₂ := by
  induction h₁ generalizing evs₂ with
  | ret => obtain ⟨rfl, rfl⟩ := runs_ret.mp h₂; exact ⟨rfl, rfl⟩
  | call r _ ih =>
    obtain ⟨r₂, evs', rfl, hk⟩ := runs_call.mp h₂
    obtain rfl := hag _ r r₂ (List.mem_cons_self _ _) (List.mem_cons_self _ _)
    obtain ⟨rfl, rfl⟩ := ih hk fun e r₁ r₂ hm₁ hm₂ =>
      hag e r₁ r₂ (List.mem_cons_of_mem _ hm₁) (List.mem_cons_of_mem _ hm₂)
    exact ⟨rfl, rfl⟩

/-- **A run is fixed by its calls**: two runs of one program that both begin the same list of
calls are the same run. -/
theorem Runs.eq_of_prefix {evs₁ evs₂ evs : List (Event E R)} {a₁ a₂ : α} (h₁ : Runs p evs₁ a₁)
    (h₂ : Runs p evs₂ a₂) (hp₁ : evs₁ <+: evs) (hp₂ : evs₂ <+: evs) : evs₁ = evs₂ ∧ a₁ = a₂ := by
  induction h₁ generalizing evs₂ evs with
  | ret => obtain ⟨rfl, rfl⟩ := runs_ret.mp h₂; exact ⟨rfl, rfl⟩
  | call r _ ih =>
    obtain ⟨r₂, evs', rfl, hk⟩ := runs_call.mp h₂
    obtain ⟨x, rest, rfl⟩ : ∃ x rest, evs = x :: rest := List.exists_cons_of_ne_nil
      (List.ne_nil_of_mem (hp₁.subset (List.mem_cons_self _ _)))
    obtain ⟨hx₁, hq₁⟩ := List.cons_prefix_cons.mp hp₁
    obtain ⟨hx₂, hq₂⟩ := List.cons_prefix_cons.mp hp₂
    obtain rfl : r = r₂ := by cases hx₁.trans hx₂.symm; rfl
    obtain ⟨rfl, rfl⟩ := ih hk hq₁ hq₂
    exact ⟨rfl, rfl⟩

end Prog

end OvsCni
