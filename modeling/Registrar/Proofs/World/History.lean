import Registrar.Proofs.World.Exchanges

/-!
# Calls against what came before them

`p.Meets R Q past` says of a program that starts after the exchanges `past` that each call is right (`R`) against all
that was exchanged before it, and each result (`Q`) against all that was exchanged in the end, whatever the replies are.
It is shown along the program (`Meets.bind`, `meets_ask_bind`, `meets_foldList`) and holds of every run, halted ones
included (`Meets.of_split`, `Meets.of_yields`). `p.Reaches es a` says that replies as in the exchanges `es` lead the
program to the result `a`; a history leads to one result only (`Reaches.unique`).
-/

namespace Registrar.Program

variable {I : Interface} {α β σ τ : Type} {h : Handler I τ} {s t : τ} {a b : α} {p : Program I α}
  {R : List (Exchange I) → I.Call → Prop} {Q : List (Exchange I) → α → Prop} {Q' : List (Exchange I) → β → Prop}
  {past es es' later later' : List (Exchange I)}

/-! ## What exchanges lead to -/

/-- The program makes the calls of these exchanges, in order, and the replies lead it to `b`. -/
def Reaches : Program I α → List (Exchange I) → α → Prop
  | done a, es, b => es = [] ∧ b = a
  | call c next, es, b => ∃ reply rest, es = ⟨c, reply⟩ :: rest ∧ (next reply).Reaches rest b
  | note _ next, es, b => next.Reaches es b

/-- A history leads to one result, after one part of it. -/
theorem Reaches.unique (hp : p.Reaches es a) (hp' : p.Reaches es' b) (heq : es ++ later = es' ++ later') :
    a = b ∧ later = later' := by
  induction p generalizing es es' with
  | done c =>
    obtain ⟨rfl, rfl⟩ := hp
    obtain ⟨rfl, rfl⟩ := hp'
    exact ⟨rfl, heq⟩
  | call c next ih =>
    obtain ⟨reply, rest, rfl, hnext⟩ := hp
    obtain ⟨reply', rest', rfl, hnext'⟩ := hp'
    obtain ⟨hhead, hrest⟩ := List.cons_eq_cons.1 heq
    cases hhead
    exact ih reply hnext hnext' hrest
  | note line next ih => exact ih hp hp' heq

/-! ## Calls and results against a history -/

/-- After the exchanges `past`, every call is right against all exchanges before it, and every result against all in the
end. -/
def Meets (R : List (Exchange I) → I.Call → Prop) (Q : List (Exchange I) → α → Prop) :
    List (Exchange I) → Program I α → Prop
  | past, done a => Q past a
  | past, call c next => R past c ∧ ∀ reply, (next reply).Meets R Q (past ++ [⟨c, reply⟩])
  | past, note _ next => next.Meets R Q past

theorem meets_pure (ha : Q past a) : (pure a : Program I α).Meets R Q past := ha

theorem meets_log_bind (line : LogLine) {f : Unit → Program I β} (hf : (f ()).Meets R Q' past) :
    (log line >>= f).Meets R Q' past := hf

theorem meets_logAll_bind (lines : List LogLine) {f : Unit → Program I β} (hf : (f ()).Meets R Q' past) :
    (logAll lines >>= f).Meets R Q' past := by
  show ((logAll lines).bind f).Meets R Q' past
  induction lines with
  | nil => exact hf
  | cons line rest ih => exact ih

theorem meets_ask_bind {c : I.Call} {f : I.Reply c → Program I β} (hc : R past c)
    (hf : ∀ reply, (f reply).Meets R Q' (past ++ [⟨c, reply⟩])) : (ask c >>= f).Meets R Q' past := ⟨hc, hf⟩

theorem Meets.bind {f : α → Program I β} (hp : p.Meets R Q past)
    (hf : ∀ a past', Q past' a → (f a).Meets R Q' past') : (p >>= f).Meets R Q' past := by
  show (p.bind f).Meets R Q' past
  induction p generalizing past with
  | done a => exact hf a past hp
  | call c next ih => exact ⟨hp.1, fun reply => ih reply (hp.2 reply)⟩
  | note line next ih => exact ih hp

theorem Meets.mono {Q' : List (Exchange I) → α → Prop} (hp : p.Meets R Q past)
    (hQ : ∀ past' a, Q past' a → Q' past' a) : p.Meets R Q' past := by
  induction p generalizing past with
  | done a => exact hQ past a hp
  | call c next ih => exact ⟨hp.1, fun reply => ih reply (hp.2 reply)⟩
  | note line next ih => exact ih hp

/-- What each step keeps of the history, the whole sequence keeps. -/
theorem meets_foldList {f : σ → α → Program I σ} {K : List (Exchange I) → Prop} {l : List α}
    (hf : ∀ x, ∀ a ∈ l, ∀ past, K past → (f x a).Meets R (fun past' _ => K past') past) (x : σ) (hpast : K past) :
    (foldList f x l).Meets R (fun past' _ => K past') past := by
  induction l generalizing x past with
  | nil => exact hpast
  | cons a rest ih =>
    exact (hf x a List.mem_cons_self past hpast).bind fun y past' hpast' =>
      ih (fun z b hb => hf z b (List.mem_cons_of_mem _ hb)) y hpast'

/-- Calls that are right against any history make the program right, and the history then leads to its result. -/
theorem Asks.meets {P : I.Call → Prop} (hp : p.Asks P) (hP : ∀ past c, P c → R past c) :
    p.Meets R (fun past' a => ∃ es, past' = past ++ es ∧ p.Reaches es a) past := by
  induction p generalizing past with
  | done a => exact ⟨[], by rw [List.append_nil], rfl, rfl⟩
  | call c next ih =>
    refine ⟨hP _ c hp.1, fun reply => (ih reply (hp.2 reply)).mono fun past' a hreaches => ?_⟩
    obtain ⟨es, rfl, hes⟩ := hreaches
    exact ⟨⟨c, reply⟩ :: es, by rw [List.append_assoc, List.singleton_append], reply, es, rfl, hes⟩
  | note line next ih => exact ih hp

/-! ## Runs -/

/-- Every call of a run is right against all exchanges before it. -/
theorem Meets.of_split (hp : p.Meets R Q past) {before : List (Exchange I)} {e : Exchange I}
    (hsplit : p.exchanges h s = before ++ e :: later) : R (past ++ before) e.call := by
  induction p generalizing past before s with
  | done a => simp [exchanges] at hsplit
  | call c next ih =>
    simp only [exchanges] at hsplit
    split at hsplit
    · rename_i reply t hc
      cases before with
      | nil =>
        obtain ⟨rfl, -⟩ := List.cons_eq_cons.1 hsplit
        rw [List.append_nil]
        exact hp.1
      | cons d before =>
        obtain ⟨rfl, hrest⟩ := List.cons_eq_cons.1 hsplit
        have hlater := ih reply (hp.2 reply) hrest
        rwa [List.append_assoc, List.singleton_append] at hlater
    · simp at hsplit
  | note line next ih => exact ih hp hsplit

/-- The result of a run is right against all that was exchanged. -/
theorem Meets.of_yields (hp : p.Meets R Q past) (hy : p.Yields h s a t) : Q (past ++ p.exchanges h s) a := by
  obtain ⟨hresult, -⟩ := hy
  induction p generalizing past s with
  | done b =>
    cases hresult
    rw [exchanges, List.append_nil]
    exact hp
  | call c next ih =>
    simp only [run] at hresult
    split at hresult
    · rename_i reply t hc
      have hlater := ih reply (hp.2 reply) hresult
      simp only [exchanges, hc]
      rwa [List.append_assoc, List.singleton_append] at hlater
    · cases hresult
  | note line next ih => exact ih hp hresult

end Registrar.Program
