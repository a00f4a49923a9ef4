import Registrar.Proofs.World.Exchanges

/-!
# Replies that depend on the call alone

Where every call is replied to in the same way whenever it is made, a program has one outcome and one list of exchanges:
`p.EndsBy reply es a` says that the replies lead it to `a` over the exchanges `es`. Sequences and folds are put together
from their parts (`EndsBy.bind`, `endsBy_foldList`). A handler that replies in this way runs the program to that outcome
with those exchanges, from whatever state (`RepliesBy.yields`).
-/

namespace Registrar

/-- In the states `R`, which they keep, the calls `P` are replied to as the function says. -/
def RepliesBy {I : Interface} {τ : Type} (h : Handler I τ) (R : τ → Prop) (P : I.Call → Prop)
    (reply : (c : I.Call) → I.Reply c) : Prop :=
  ∀ c s, P c → R s → (h c s).1 = .ok (reply c) ∧ R (h c s).2

namespace Program

variable {I : Interface} {α β σ : Type} {reply : (c : I.Call) → I.Reply c} {p : Program I α} {a : α} {b : β}
  {es es' : List (Exchange I)}

/-- Replied to as the function says, the program makes these exchanges and ends in `b`. -/
def EndsBy (reply : (c : I.Call) → I.Reply c) : Program I α → List (Exchange I) → α → Prop
  | done a, es, b => es = [] ∧ b = a
  | call c next, es, b => ∃ rest, es = ⟨c, reply c⟩ :: rest ∧ (next (reply c)).EndsBy reply rest b
  | note _ next, es, b => next.EndsBy reply es b

theorem endsBy_pure (a : α) : (pure a : Program I α).EndsBy reply [] a := ⟨rfl, rfl⟩

theorem endsBy_ask {c : I.Call} {r : I.Reply c} (hc : reply c = r) :
    (ask c : Program I (I.Reply c)).EndsBy reply [⟨c, r⟩] r := by
  subst hc
  exact ⟨[], rfl, rfl, rfl⟩

theorem endsBy_log (line : LogLine) : (log line : Program I Unit).EndsBy reply [] () := ⟨rfl, rfl⟩

theorem EndsBy.bind {f : α → Program I β} (hp : p.EndsBy reply es a) (hf : (f a).EndsBy reply es' b) :
    (p >>= f).EndsBy reply (es ++ es') b := by
  show (p.bind f).EndsBy reply (es ++ es') b
  induction p generalizing es with
  | done a =>
    obtain ⟨rfl, rfl⟩ := hp
    exact hf
  | call c next ih =>
    obtain ⟨rest, rfl, hnext⟩ := hp
    exact ⟨rest ++ es', rfl, ih (reply c) hnext⟩
  | note line next ih => exact ih hp

/-- A fold whose steps make the exchanges that belong to their elements. -/
theorem endsBy_foldList {f : σ → α → Program I σ} {step : σ → α → σ} {asked : α → List (Exchange I)}
    (hf : ∀ x a, (f x a).EndsBy reply (asked a) (step x a)) (x : σ) (l : List α) :
    (foldList f x l).EndsBy reply (l.flatMap asked) (l.foldl step x) := by
  induction l generalizing x with
  | nil => exact endsBy_pure x
  | cons a rest ih => exact (hf x a).bind (ih (step x a))

end Program

open Program

/-- A handler that replies to all calls of a program in the same way whenever they are made runs it to its one
outcome. -/
theorem RepliesBy.yields {I : Interface} {α τ : Type} {h : Handler I τ} {R : τ → Prop} {P : I.Call → Prop}
    {reply : (c : I.Call) → I.Reply c} {p : Program I α} {es : List (Exchange I)} {a : α} (hh : RepliesBy h R P reply)
    (hp : p.Asks P) (hends : p.EndsBy reply es a) {s : τ} (hs : R s) :
    ∃ t, R t ∧ p.Yields h s a t ∧ p.exchanges h s = es := by
  induction p generalizing s es with
  | done b =>
    obtain ⟨rfl, rfl⟩ := hends
    exact ⟨s, hs, yields_pure a h s, rfl⟩
  | call c next ih =>
    obtain ⟨rest, rfl, hrest⟩ := hends
    obtain ⟨hreply, hnext⟩ := hh c s hp.1 hs
    obtain ⟨t, ht, hy, hexchanges⟩ := ih (reply c) (hp.2 (reply c)) hrest hnext
    have hc : h c s = (.ok (reply c), (h c s).2) := Prod.ext hreply rfl
    refine ⟨t, ht, (yields_ask hc).bind hy, ?_⟩
    rw [exchanges, hc]
    exact congrArg (_ :: ·) hexchanges
  | note line next ih =>
    obtain ⟨t, ht, hy, hexchanges⟩ := ih hp hends hs
    exact ⟨t, ht, ⟨hy.result, hy.state⟩, hexchanges⟩

end Registrar
