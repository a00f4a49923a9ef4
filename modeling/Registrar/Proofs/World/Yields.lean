import Registrar.World.Service

/-!
# What a run yields

`p.Yields h s a t` says that a program run from a state against a handler is not halted, ends in the result `a` and
leaves the state `t`. Sequences, folds and log lines are opened one step at a time (`Yields.bind`, `Yields.foldList`,
`yields_logAll`), and a run that is not halted is taken apart in the same way (`yields_bind_iff`, `yields_ask_iff`).
-/

namespace Registrar.Program

variable {I : Interface} {α β σ τ : Type} {h : Handler I τ} {s t u : τ} {a : α} {b : β}

/-- The run ends in `a` and leaves `t`. -/
structure Yields (p : Program I α) (h : Handler I τ) (s : τ) (a : α) (t : τ) : Prop where
  result : (p.run h s).result = .ok a
  state : (p.run h s).state = t

theorem yields_pure (a : α) (h : Handler I τ) (s : τ) : (pure a : Program I α).Yields h s a s := ⟨rfl, rfl⟩

theorem Yields.run_bind {p : Program I α} {f : α → Program I β} (hp : p.Yields h s a t) :
    (p >>= f).run h s = { (f a).run h t with log := (p.run h s).log ++ ((f a).run h t).log } := by
  show (p.bind f).run h s = _
  rw [Program.run_bind, hp.result, hp.state]

theorem Yields.bind {p : Program I α} {f : α → Program I β} (hp : p.Yields h s a t) (hf : (f a).Yields h t b u) :
    (p >>= f).Yields h s b u := by
  constructor
  · rw [hp.run_bind]
    exact hf.result
  · rw [hp.run_bind]
    exact hf.state

theorem yields_ask {c : I.Call} {reply : I.Reply c} (hc : h c s = (.ok reply, t)) :
    (ask c : Program I (I.Reply c)).Yields h s reply t := by
  constructor
  · simp only [ask, run, hc]
  · simp only [ask, run, hc]

theorem yields_log (line : LogLine) (h : Handler I τ) (s : τ) :
    (log line : Program I Unit).Yields h s () s := ⟨rfl, rfl⟩

theorem yields_logAll (lines : List LogLine) (h : Handler I τ) (s : τ) :
    (logAll lines : Program I Unit).Yields h s () s := by
  induction lines with
  | nil => exact ⟨rfl, rfl⟩
  | cons line rest ih => exact ⟨ih.result, ih.state⟩

theorem yields_foldList_nil (f : σ → α → Program I σ) (x : σ) (h : Handler I τ) (s : τ) :
    (foldList f x []).Yields h s x s := ⟨rfl, rfl⟩

theorem Yields.foldList {f : σ → α → Program I σ} {x y z : σ} {rest : List α} (hf : (f x a).Yields h s y t)
    (hrest : (foldList f y rest).Yields h t z u) : (foldList f x (a :: rest)).Yields h s z u :=
  Yields.bind hf hrest

/-! ## Taking a run apart -/

theorem Yields.unique {p : Program I α} {a' : α} (hp : p.Yields h s a t) (hp' : p.Yields h s a' u) : a = a' ∧ t = u :=
  ⟨Except.ok.inj (hp.result.symm.trans hp'.result), hp.state.symm.trans hp'.state⟩

theorem yields_bind_iff {p : Program I α} {f : α → Program I β} :
    (p >>= f).Yields h s b u ↔ ∃ a t, p.Yields h s a t ∧ (f a).Yields h t b u := by
  constructor
  · rintro ⟨hresult, hstate⟩
    have hrun : (p >>= f).run h s = _ := run_bind p f h s
    cases hp : (p.run h s).result with
    | error halt =>
      rw [hrun, hp] at hresult
      cases hresult
    | ok a =>
      rw [hrun, hp] at hresult hstate
      exact ⟨a, _, ⟨hp, rfl⟩, hresult, hstate⟩
  · rintro ⟨a, t, hp, hf⟩
    exact hp.bind hf

theorem yields_pure_iff {a' : α} : (pure a : Program I α).Yields h s a' t ↔ a' = a ∧ t = s :=
  ⟨fun ⟨ha, ht⟩ => ⟨(Except.ok.inj ha).symm, ht.symm⟩, fun ⟨ha, ht⟩ => ha ▸ ht ▸ yields_pure a' h t⟩

theorem yields_ask_iff {c : I.Call} {reply : I.Reply c} :
    (ask c : Program I (I.Reply c)).Yields h s reply t ↔ h c s = (.ok reply, t) := by
  refine ⟨fun hy => ?_, yields_ask⟩
  obtain ⟨hresult, hstate⟩ := hy
  simp only [ask, run] at hresult hstate
  split at hresult
  · rename_i reply' s' hc
    rw [hc] at hstate
    cases hresult
    cases hstate
    exact hc
  · cases hresult

theorem yields_log_iff {line : LogLine} {a : Unit} : (log line : Program I Unit).Yields h s a t ↔ t = s :=
  ⟨fun ⟨_, ht⟩ => ht.symm, fun ht => ht ▸ yields_log line h s⟩

end Registrar.Program
