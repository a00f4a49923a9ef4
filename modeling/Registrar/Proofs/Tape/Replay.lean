import Registrar.Directory.Run
import Registrar.Evaluation.Run
import Registrar.Proofs.Calendar.Instant
import Registrar.Proofs.Directory.Inactivation
import Registrar.Proofs.World.Exchanges
import Registrar.Tape.Replaying

/-!
# Recorded runs play back

The tapes of a recorded run hold what the run exchanged (`yields_recorded`, `exchanges_recorded`). Playing them back
serves the calls one by one: the exchange that stands in front is served, and the tapes of those behind it are left
(`handler_ofExchanges_cons`). So a run whose replies read back from a tape plays back as it went, by induction on the
program (`Program.Yields.playback`), and the tapes are used up (`recorded_runs_replay`). Only an instant may fail to
read back (`Exchange.isReadable_of_hasPlainTime`).
-/

namespace Registrar

/-! ## Exchanges that a tape holds -/

namespace Exchange

/-- A tape gives the reply back. -/
def IsReadable (e : Exchange services) : Prop := Service.reply (e.call.output e.reply) e.call = .ok e.reply

/-- A reply of the clock is a plain instant. -/
def HasPlainTime : Exchange services → Prop
  | ⟨.now, (t : Instant)⟩ => t.IsPlain
  | _ => True

theorem isReadable_of_hasPlainTime {e : Exchange services} (he : e.HasPlainTime) : e.IsReadable := by
  obtain ⟨call, reply⟩ := e
  by_cases hcall : call = Service.now
  · subst hcall
    exact Service.reply_output_now (Instant.parse?_shortText he)
  · exact Service.reply_output hcall reply

end Exchange

namespace Tapes

variable {tapes : Tapes} {e : Exchange services} {es : List (Exchange services)}

/-- Puts exchanges on the tapes of their families. -/
def recordAll (tapes : Tapes) (es : List (Exchange services)) : Tapes :=
  es.foldl (fun tapes e => tapes.record e.call e.reply) tapes

/-- The tapes of exchanges. -/
def ofExchanges (es : List (Exchange services)) : Tapes := blank.recordAll es

theorem get_recordAll (tapes : Tapes) (es : List (Exchange services)) (p : Family) :
    (tapes.recordAll es).get p =
      tapes.get p ++ (es.filter fun e => e.call.family = p).map fun e => Interaction.of e.call e.reply := by
  induction es generalizing tapes with
  | nil => exact (List.append_nil _).symm
  | cons e es ih =>
    show ((tapes.record e.call e.reply).recordAll es).get p = _
    rw [ih]
    show (tapes.set e.call.family (tapes.get e.call.family ++ [Interaction.of e.call e.reply])).get p ++ _ = _
    rw [PerFamily.get_set]
    by_cases hp : e.call.family = p
    · rw [if_pos hp.symm, List.filter_cons_of_pos (by simpa using hp), List.map_cons, hp, List.append_assoc,
        List.singleton_append]
    · rw [if_neg (Ne.symm hp), List.filter_cons_of_neg (by simpa using hp)]

/-- The tape of the family of an exchange in front starts with it. -/
theorem get_ofExchanges_cons_family :
    (ofExchanges (e :: es)).get e.call.family =
      Interaction.of e.call e.reply :: (ofExchanges es).get e.call.family := by
  simp [ofExchanges, get_recordAll, blank]

/-- The tapes of all other families do not hold it. -/
theorem get_ofExchanges_cons_of_ne {p : Family} (hp : e.call.family ≠ p) :
    (ofExchanges (e :: es)).get p = (ofExchanges es).get p := by
  simp [ofExchanges, get_recordAll, blank, hp]

end Tapes

/-! ## Recording -/

namespace Program

variable {α σ : Type} {p : Action α} {h : Handler services σ} {s t : σ} {a : α}

/-- A recorded run gives what the run exchanged, behind what was on the tapes before. -/
theorem yields_recorded (hp : p.Yields h s a t) (tapes : Tapes) :
    (p.recorded tapes).Yields h s (a, tapes.recordAll (p.exchanges h s)) t := by
  obtain ⟨hresult, rfl⟩ := hp
  induction p generalizing tapes s with
  | done b =>
    cases hresult
    exact ⟨rfl, rfl⟩
  | call c next ih =>
    obtain ⟨reply, u, hc⟩ : ∃ reply u, h c s = (reply, u) := ⟨_, _, rfl⟩
    cases reply with
    | ok reply =>
      simp only [run, hc] at hresult
      obtain ⟨hnext, hstate⟩ := ih reply (tapes.record c reply) hresult
      constructor
      · simp only [recorded, run, exchanges, hc]
        exact hnext
      · simp only [recorded, run, hc]
        exact hstate
    | error halt =>
      simp only [run, hc] at hresult
      cases hresult
  | note line next ih =>
    obtain ⟨hnext, hstate⟩ := ih tapes hresult
    exact ⟨hnext, hstate⟩

/-- Recording asks nothing else. -/
theorem exchanges_recorded (p : Action α) (tapes : Tapes) (h : Handler services σ) (s : σ) :
    (p.recorded tapes).exchanges h s = p.exchanges h s := by
  induction p generalizing tapes s with
  | done b => rfl
  | call c next ih =>
    simp only [recorded, exchanges]
    split
    · rw [ih]
    · rfl
  | note line next ih => exact ih tapes s

end Program

/-! ## Playing back -/

namespace Playback

/-- The exchange in front is served, and the tapes of those behind it are left. -/
theorem handler_ofExchanges_cons {e : Exchange services} (he : e.IsReadable) (es : List (Exchange services)) :
    handler e.call (ofTapes (.ofExchanges (e :: es))) = (.ok e.reply, ofTapes (.ofExchanges es)) := by
  have hserve : serve e.call (Interaction.of e.call e.reply :: (Tapes.ofExchanges es).get e.call.family) =
      (.ok e.reply, (Tapes.ofExchanges es).get e.call.family) := by
    have hfront : (Interaction.of e.call e.reply).isOf e.call.family.name e.call.method = true := by
      simp [Interaction.isOf, Interaction.of]
    simp only [serve, Tape.next, Tape.take?, hfront, if_true]
    exact congrArg (·, _) he
  have hleft : (ofTapes (.ofExchanges (e :: es))).set e.call.family
      (some ((Tapes.ofExchanges es).get e.call.family)) = ofTapes (.ofExchanges es) := by
    refine PerFamily.ext_get fun p => ?_
    rw [PerFamily.get_set]
    split
    · rename_i hp
      rw [ofTapes, PerFamily.get_ofFn, hp]
    · rename_i hp
      rw [ofTapes, ofTapes, PerFamily.get_ofFn, PerFamily.get_ofFn, Tapes.get_ofExchanges_cons_of_ne (Ne.symm hp)]
  have htape : (ofTapes (.ofExchanges (e :: es))).get e.call.family =
      some (Interaction.of e.call e.reply :: (Tapes.ofExchanges es).get e.call.family) := by
    rw [ofTapes, PerFamily.get_ofFn, Tapes.get_ofExchanges_cons_family]
  simp only [handler, htape, hserve, hleft]
  rfl

end Playback

namespace Program

variable {α σ : Type} {p : Action α} {h : Handler services σ} {s t : σ} {a : α}

/-- A run plays back from the tapes of what it exchanged: it ends alike, asks and logs the same, and leaves what is
behind on the tapes. -/
theorem Yields.playback (hp : p.Yields h s a t) (hread : ∀ e ∈ p.exchanges h s, e.IsReadable)
    (later : List (Exchange services)) :
    let tapes := Playback.ofTapes (.ofExchanges (p.exchanges h s ++ later))
    p.Yields Playback.handler tapes a (.ofTapes (.ofExchanges later)) ∧
      p.exchanges Playback.handler tapes = p.exchanges h s ∧
      (p.run Playback.handler tapes).log = (p.run h s).log := by
  obtain ⟨hresult, -⟩ := hp
  induction p generalizing s with
  | done b =>
    cases hresult
    exact ⟨⟨rfl, rfl⟩, rfl, rfl⟩
  | call c next ih =>
    obtain ⟨reply, u, hc⟩ : ∃ reply u, h c s = (reply, u) := ⟨_, _, rfl⟩
    cases reply with
    | ok reply =>
      simp only [run, hc] at hresult
      have hexchanges : (call c next).exchanges h s = ⟨c, reply⟩ :: (next reply).exchanges h u := by
        simp only [exchanges, hc]
      rw [hexchanges] at hread ⊢
      obtain ⟨hyields, hasks, hlog⟩ := ih reply (fun e he => hread e (List.mem_cons_of_mem _ he)) hresult
      -- the call is the one in front, so it is served and the rest of the run plays back from the rest
      have hserved := Playback.handler_ofExchanges_cons (hread _ List.mem_cons_self)
        ((next reply).exchanges h u ++ later)
      refine ⟨⟨?_, ?_⟩, ?_, ?_⟩
      · simp only [List.cons_append, run, hserved]
        exact hyields.result
      · simp only [List.cons_append, run, hserved]
        exact hyields.state
      · simp only [List.cons_append, exchanges, hserved]
        rw [hasks]
      · simp only [List.cons_append, run, hserved, hc]
        exact hlog
    | error halt =>
      simp only [run, hc] at hresult
      cases hresult
  | note line next ih =>
    obtain ⟨hyields, hasks, hlog⟩ := ih hread hresult
    exact ⟨⟨hyields.result, hyields.state⟩, hasks, congrArg (line :: ·) hlog⟩

/-- A recorded run from a state gives a result and tapes, and the tapes play the run back: it ends in the same result,
makes the same calls in the same order, logs the same lines, and no tape has anything left. -/
def Replays (p : Action α) (h : Handler services σ) (s : σ) : Prop :=
  ∃ a tapes t, (p.recorded .blank).Yields h s (a, tapes) t ∧
    p.Yields Playback.handler (.ofTapes tapes) a (.ofTapes .blank) ∧
    p.exchanges Playback.handler (.ofTapes tapes) = (p.recorded .blank).exchanges h s ∧
    (p.run Playback.handler (.ofTapes tapes)).log = ((p.recorded .blank).run h s).log

/-- Every program replays against services that answer, if the clock shows plain instants. -/
theorem replays_of_hasPlainTime (hh : Answers h) (htimes : ∀ e ∈ p.exchanges h s, e.HasPlainTime) :
    p.Replays h s := by
  obtain ⟨a, t, hp⟩ := exists_yields hh p s
  obtain ⟨hyields, hasks, hlog⟩ :=
    hp.playback (fun e he => Exchange.isReadable_of_hasPlainTime (htimes e he)) []
  rw [List.append_nil] at hyields hasks hlog
  refine ⟨a, .ofExchanges (p.exchanges h s), t, yields_recorded hp .blank, hyields, ?_, ?_⟩
  · rw [hasks, exchanges_recorded]
  · have hrun := run_recorded p .blank h s
    simp only [Prod.mk.injEq] at hrun
    rw [hlog, hrun.2.2]

end Program

/-! ## The runs -/

open Program

/-- **A recorded run plays back as it went.** Whatever the services reply, the tapes of a recorded directory run, merge
run or publish run play it back: the result is the same, errors with their texts included, the same calls are made in
the same order, and nothing is left on the tapes. The clock must show plain instants: a leap second inside a minute
would read back as the second after. -/
theorem recorded_runs_replay {σ : Type} {h : Handler services σ} (hh : Answers h) (s : σ) :
    (∀ settings request, (∀ e ∈ (SyncRun.run settings request).exchanges h s, e.HasPlainTime) →
      (SyncRun.run settings request).Replays h s) ∧
    (∀ settings request, (∀ e ∈ (Evaluation.merge settings request).exchanges h s, e.HasPlainTime) →
      (Evaluation.merge settings request).Replays h s) ∧
    (∀ settings request, (∀ e ∈ (Evaluation.publish settings request).exchanges h s, e.HasPlainTime) →
      (Evaluation.publish settings request).Replays h s) :=
  ⟨fun _ _ => replays_of_hasPlainTime hh, fun _ _ => replays_of_hasPlainTime hh,
    fun _ _ => replays_of_hasPlainTime hh⟩

/-- The clock in memory stands still, so a plain instant stays one. -/
theorem World.hasPlainTime {w : World} (hw : w.now.IsPlain) {α : Type} (p : Action α) :
    ∀ e ∈ p.exchanges World.handler w, e.HasPlainTime := by
  intro e he
  have hkeep : ∀ (c : Service) (u : World), u.now = w.now → (World.handler c u).2.now = w.now := by
    intro c u hu
    cases c <;> exact hu
  obtain ⟨u, hu, hreply⟩ := exists_of_mem_exchanges (R := fun u => u.now = w.now) hkeep rfl he
  obtain ⟨call, reply⟩ := e
  cases call with
  | now =>
    cases hreply
    rw [← hu] at hw
    exact hw
  | _ => trivial

open DepartedOwner in
/-- A directory run whose first lookup is refused, and a merge run and a publish run that end in an error, since there
are no files. -/
theorem recorded_runs_replay_departedOwner :
    world.now.IsPlain ∧ (SyncRun.run settings {}).Replays World.handler world ∧
      (Evaluation.merge {} ⟨"2015-B", "confirmations", "imports", none, none⟩).Replays World.handler world ∧
      (Evaluation.publish {} ⟨"2015-B", "merged.csv", "supervisors.csv", none⟩).Replays World.handler world := by
  have hplain : world.now.IsPlain := ⟨by decide, by decide⟩
  obtain ⟨hrun, hmerge, hpublish⟩ := recorded_runs_replay World.answers_handler world
  exact ⟨hplain, hrun _ _ (World.hasPlainTime hplain _), hmerge _ _ (World.hasPlainTime hplain _),
    hpublish _ _ (World.hasPlainTime hplain _)⟩

end Registrar
