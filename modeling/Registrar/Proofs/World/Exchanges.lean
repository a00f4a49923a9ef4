import Registrar.Proofs.World.Yields

/-!
# What a run asks

The exchanges of a run are the calls that it made, each with its reply, in order; those of a sequence are those of its
parts (`Yields.exchanges_bind`). What all calls keep is kept by every run (`kept`). `p.Asks P` bounds the calls of a
program whatever the replies are: every exchange of a run is such a call (`Asks.of_mem_exchanges`), and where the
replies to such calls do not depend on the state, neither does the result (`Asks.result_eq`).

A handler that answers every call halts no run (`exists_yields`). `p.ContinuesAs h s q t` says that a run of `p` comes
to a point from which it is a run of `q`; loops are followed in this way from one turn to the next
(`ContinuesAs.trans`).
-/

namespace Registrar

/-- A call and the reply to it. -/
structure Exchange (I : Interface) where
  call : I.Call
  reply : I.Reply call

/-- A handler that never halts a run. -/
def Answers {I : Interface} {τ : Type} (h : Handler I τ) : Prop := ∀ c s, ∃ reply, (h c s).1 = .ok reply

namespace Program

variable {I : Interface} {α β σ τ ε : Type} {h : Handler I τ} {s t : τ} {a : α} {p : Program I α} {P : I.Call → Prop}

/-! ## Exchanges -/

/-- The calls of a run that were answered, in order. -/
def exchanges (p : Program I α) (h : Handler I τ) (s : τ) : List (Exchange I) :=
  match p with
  | done _ => []
  | call c next =>
    match h c s with
    | (.ok reply, s) => ⟨c, reply⟩ :: (next reply).exchanges h s
    | (.error _, _) => []
  | note _ next => next.exchanges h s

theorem Yields.exchanges_bind {f : α → Program I β} (hp : p.Yields h s a t) :
    (p >>= f).exchanges h s = p.exchanges h s ++ (f a).exchanges h t := by
  show (p.bind f).exchanges h s = _
  obtain ⟨hresult, rfl⟩ := hp
  induction p generalizing s with
  | done b =>
    cases hresult
    rfl
  | call c next ih =>
    obtain ⟨reply, t, hc⟩ : ∃ reply t, h c s = (reply, t) := ⟨_, _, rfl⟩
    cases reply with
    | ok reply =>
      simp only [run, hc] at hresult
      have hnext := ih reply hresult
      simp only [Program.bind, exchanges, run, hc, hnext, List.cons_append]
    | error halt =>
      simp only [run, hc] at hresult
      cases hresult
  | note line next ih => exact ih hresult

theorem exchanges_ask {c : I.Call} {reply : I.Reply c} (hy : (ask c : Program I (I.Reply c)).Yields h s reply t) :
    (ask c : Program I (I.Reply c)).exchanges h s = [⟨c, reply⟩] := by
  simp only [ask, exchanges, yields_ask_iff.1 hy]

theorem exchanges_ask_bind {c : I.Call} {reply : I.Reply c} {f : I.Reply c → Program I β}
    (hy : (ask c : Program I (I.Reply c)).Yields h s reply t) :
    (ask c >>= f).exchanges h s = ⟨c, reply⟩ :: (f reply).exchanges h t := by
  rw [hy.exchanges_bind, exchanges_ask hy, List.singleton_append]

/-- What all calls keep is kept by every run. -/
theorem kept {R : τ → Prop} (hkeep : ∀ c s, R s → R (h c s).2) (hs : R s) : R (p.run h s).state := by
  induction p generalizing s with
  | done a => exact hs
  | call c next ih =>
    have hnext := hkeep c s hs
    simp only [run]
    split
    · rename_i reply t hc
      rw [hc] at hnext
      exact ih reply hnext
    · rename_i halt t hc
      rw [hc] at hnext
      exact hnext
  | note line next ih => exact ih hs

/-- Every reply is one that the handler gave, in a state that all calls keep. -/
theorem exists_of_mem_exchanges {R : τ → Prop} (hkeep : ∀ c s, R s → R (h c s).2) (hs : R s) {e : Exchange I}
    (he : e ∈ p.exchanges h s) : ∃ u, R u ∧ (h e.call u).1 = .ok e.reply := by
  induction p generalizing s with
  | done a => cases he
  | call c next ih =>
    have hnext := hkeep c s hs
    simp only [exchanges] at he
    split at he
    · rename_i reply t hc
      rw [hc] at hnext
      rcases List.mem_cons.1 he with rfl | he
      · exact ⟨s, hs, congrArg Prod.fst hc⟩
      · exact ih reply hnext he
    · cases he
  | note line next ih => exact ih hs he

/-! ## Bounds on the calls -/

/-- Every call that the program can make has the property. -/
def Asks (P : I.Call → Prop) : Program I α → Prop
  | done _ => True
  | call c next => P c ∧ ∀ reply, (next reply).Asks P
  | note _ next => next.Asks P

theorem asks_pure (a : α) : (pure a : Program I α).Asks P := trivial

theorem asks_ask {c : I.Call} (hc : P c) : (ask c : Program I (I.Reply c)).Asks P := ⟨hc, fun _ => trivial⟩

theorem asks_log (line : LogLine) : (log line : Program I Unit).Asks P := trivial

theorem asks_logAll (lines : List LogLine) : (logAll lines : Program I Unit).Asks P := by
  induction lines with
  | nil => trivial
  | cons line rest ih => exact ih

theorem Asks.bind {f : α → Program I β} (hp : p.Asks P) (hf : ∀ a, (f a).Asks P) : (p >>= f).Asks P := by
  show (p.bind f).Asks P
  induction p with
  | done a => exact hf a
  | call c next ih => exact ⟨hp.1, fun reply => ih reply (hp.2 reply)⟩
  | note line next ih => exact ih hp

theorem asks_foldList {f : σ → α → Program I σ} (hf : ∀ x a, (f x a).Asks P) (x : σ) (l : List α) :
    (foldList f x l).Asks P := by
  induction l generalizing x with
  | nil => trivial
  | cons a rest ih => exact (hf x a).bind ih

theorem Asks.mono {Q : I.Call → Prop} (hp : p.Asks P) (h : ∀ c, P c → Q c) : p.Asks Q := by
  induction p with
  | done a => trivial
  | call c next ih => exact ⟨h c hp.1, fun reply => ih reply (hp.2 reply)⟩
  | note line next ih => exact ih hp

theorem Asks.of_mem_exchanges (hp : p.Asks P) : ∀ e ∈ p.exchanges h s, P e.call := by
  induction p generalizing s with
  | done a => exact fun _ he => nomatch he
  | call c next ih =>
    intro e he
    simp only [exchanges] at he
    split at he
    · rcases List.mem_cons.1 he with rfl | he
      · exact hp.1
      · exact ih _ (hp.2 _) e he
    · cases he
  | note line next ih => exact ih hp

/-- A program whose replies are the same in all states that its calls lead to ends in the same result. -/
theorem Asks.result_eq {R : τ → Prop} (hp : p.Asks P) (hkeep : ∀ c s, P c → R s → R (h c s).2)
    (hsame : ∀ c s s', P c → R s → R s' → (h c s).1 = (h c s').1) {s s' : τ} (hs : R s) (hs' : R s') :
    (p.run h s).result = (p.run h s').result := by
  induction p generalizing s s' with
  | done a => rfl
  | call c next ih =>
    have hreply := hsame c s s' hp.1 hs hs'
    have hkept := hkeep c s hp.1 hs
    have hkept' := hkeep c s' hp.1 hs'
    obtain ⟨reply, t, hc⟩ : ∃ reply t, h c s = (reply, t) := ⟨_, _, rfl⟩
    obtain ⟨reply', t', hc'⟩ : ∃ reply t, h c s' = (reply, t) := ⟨_, _, rfl⟩
    rw [hc] at hreply hkept
    rw [hc'] at hreply hkept'
    cases hreply
    simp only [run, hc, hc']
    cases reply with
    | ok reply => exact ih reply (hp.2 reply) hkept hkept'
    | error halt => rfl
  | note line next ih => exact ih hp hs hs'

/-! ## Handlers that answer -/

theorem exists_yields (hh : Answers h) (p : Program I α) (s : τ) : ∃ a t, p.Yields h s a t := by
  induction p generalizing s with
  | done a => exact ⟨a, s, rfl, rfl⟩
  | call c next ih =>
    obtain ⟨reply, hreply⟩ := hh c s
    obtain ⟨a, t, hnext⟩ := ih reply (h c s).2
    have hc : h c s = (.ok reply, (h c s).2) := Prod.ext hreply rfl
    refine ⟨a, t, ?_, ?_⟩
    · simp only [run]
      rw [hc]
      exact hnext.result
    · simp only [run]
      rw [hc]
      exact hnext.state
  | note line next ih =>
    obtain ⟨a, t, hnext⟩ := ih s
    exact ⟨a, t, hnext.result, hnext.state⟩

/-! ## What is left of a run -/

/-- What is left of the run of `p` from `s`, at some point of it, is the run of `q` from `t`. -/
structure ContinuesAs (p : Program I α) (h : Handler I τ) (s : τ) (q : Program I α) (t : τ) : Prop where
  result : (p.run h s).result = (q.run h t).result
  state : (p.run h s).state = (q.run h t).state
  exchanges : q.exchanges h t <:+ p.exchanges h s

theorem ContinuesAs.refl : p.ContinuesAs h s p s := ⟨rfl, rfl, List.suffix_refl _⟩

theorem Yields.continuesAs {p : Program I β} {f : β → Program I α} {b : β} (hp : p.Yields h s b t) :
    (p >>= f).ContinuesAs h s (f b) t := by
  refine ⟨by rw [hp.run_bind], by rw [hp.run_bind], ?_⟩
  rw [hp.exchanges_bind]
  exact List.suffix_append _ _

/-- How a program goes on with a result, or without one. -/
def goOn (f : β → Program I (Except ε α)) : Except ε β → Program I (Except ε α)
  | .ok b => f b
  | .error e => return .error e

theorem Yields.andThen_continuesAs {p : Program I (Except ε β)} {f : β → Program I (Except ε α)} {x : Except ε β}
    (hp : p.Yields h s x t) : (p.andThen f).ContinuesAs h s (goOn f x) t :=
  Yields.continuesAs (f := goOn f) hp

theorem ContinuesAs.trans {q r : Program I α} {u : τ} (hp : p.ContinuesAs h s q t) (hq : q.ContinuesAs h t r u) :
    p.ContinuesAs h s r u :=
  ⟨hp.result.trans hq.result, hp.state.trans hq.state, hq.exchanges.trans hp.exchanges⟩

theorem ContinuesAs.yields {q : Program I α} {u : τ} (hp : p.ContinuesAs h s q t) (hq : q.Yields h t a u) :
    p.Yields h s a u :=
  ⟨hp.result.trans hq.result, hp.state.trans hq.state⟩

end Program

end Registrar
