import Registrar.World.Memory

/-!
# Lookups of people

What is assumed of a campus source: that it answers lookups at all (`AnswersLookups`), with people or a refusal. The
feed in memory does (`answersLookups_memory`). A campus source *serves* a feed when each of its lookups is refused or
replies with the people of the feed that were asked for, in feed order (`ServesFeed`); `countingLookups` is such a
source.
-/

namespace Registrar

variable {σ : Type}

/-- The reply to a lookup of campus IDs. -/
def lookup (h : Handler services σ) (uids : List String) (s : σ) : Except String (Except String (List Person)) × σ :=
  h (.people uids) s

/-- Every lookup is answered, with people or a refusal. -/
def AnswersLookups (h : Handler services σ) : Prop := ∀ uids s, ∃ reply, (lookup h uids s).1 = .ok reply

theorem answersLookups_memory : AnswersLookups World.handler := fun _ _ => ⟨_, rfl⟩

/-! ## Serving a feed -/

/-- The people of the feed with these campus IDs, in feed order. -/
def peopleAmong (feed : List Person) (uids : List String) : List Person :=
  feed.filter fun p => uids.contains (Text.trim p.uid)

/-- The campus source refuses a lookup or replies with the people of the feed that were asked for. -/
def ServesFeed (h : Handler services σ) (feed : List Person) : Prop :=
  ∀ uids s, (∃ reason, (lookup h uids s).1 = .ok (.error reason)) ∨
    (lookup h uids s).1 = .ok (.ok (peopleAmong feed uids))

/-- No lookup is refused. -/
def NeverRefuses (h : Handler services σ) : Prop := ∀ uids s, ∃ people, (lookup h uids s).1 = .ok (.ok people)

/-! ## A source that counts its lookups -/

/-- Replies from a feed, and refuses the lookups with certain numbers. -/
def countingLookups (feed : List Person) (refused : Nat → Bool) : Handler services Nat
  | .people uids, n => (.ok (if refused n then .error "unavailable" else .ok (peopleAmong feed uids)), n + 1)
  | _, n => (.error "only lookups are served", n)

theorem lookup_countingLookups (feed : List Person) (refused : Nat → Bool) (uids : List String) (n : Nat) :
    lookup (countingLookups feed refused) uids n =
      (.ok (if refused n then .error "unavailable" else .ok (peopleAmong feed uids)), n + 1) := rfl

theorem servesFeed_countingLookups (feed : List Person) (refused : Nat → Bool) :
    ServesFeed (countingLookups feed refused) feed := by
  intro uids n
  rw [lookup_countingLookups]
  cases refused n with
  | true => exact .inl ⟨_, rfl⟩
  | false => exact .inr rfl

theorem neverRefuses_countingLookups (feed : List Person) : NeverRefuses (countingLookups feed fun _ => false) :=
  fun _ _ => ⟨_, rfl⟩

end Registrar
