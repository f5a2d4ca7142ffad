import Mathlib.Data.List.Perm.Basic
import Mathlib.Data.List.Nodup
import Mathlib.Data.List.Range
import Mathlib.Logic.Function.Basic

/-!
# Ledgers of resources

A ledger numbers the resources that were ever acquired and lists which of them are live and
which were released. Slots of the program hold resources. `Tracked` says that each slot holds
a live resource of its own and that nothing was released twice, and `Covered` that nothing
live has been lost.
-/

structure Ledger where
  next : Nat
  live : List Nat
  /-- Grows with each release, also of a resource that is not live. -/
  released : List Nat
  deriving DecidableEq, Repr

namespace Ledger

variable {ι : Type}

def empty : Ledger := ⟨0, [], []⟩

def acquire (ledger : Ledger) : Ledger :=
  { ledger with next := ledger.next + 1, live := ledger.next :: ledger.live }

def release (ledger : Ledger) (resource : Nat) : Ledger :=
  { ledger with
    live := ledger.live.erase resource, released := resource :: ledger.released }

structure Tracked (ledger : Ledger) (held : ι → Option Nat) : Prop where
  balanced : (ledger.live ++ ledger.released).Perm (List.range ledger.next)
  holdsLive : ∀ i r, held i = some r → r ∈ ledger.live
  unique : ∀ i j r, held i = some r → held j = some r → i = j

/-- Every live resource is held by one of the slots. -/
def Covered (ledger : Ledger) (held : ι → Option Nat) (slots : ι → Prop) : Prop :=
  ∀ r ∈ ledger.live, ∃ i, slots i ∧ held i = some r

variable {ledger : Ledger} {held held' : ι → Option Nat} {slots : ι → Prop} {i : ι} {r : Nat}

theorem tracked_empty : empty.Tracked fun _ : ι => none where
  balanced := by simp [empty]
  holdsLive := by
    intro i r holds
    cases holds
  unique := by
    intro i j r holds
    cases holds

theorem covered_empty : empty.Covered held slots := by
  intro r live
  cases live

namespace Tracked

variable (tracked : ledger.Tracked held)

include tracked

theorem nodup : (ledger.live ++ ledger.released).Nodup :=
  tracked.balanced.nodup_iff.mpr List.nodup_range

theorem live_nodup : ledger.live.Nodup :=
  (List.nodup_append.mp tracked.nodup).1

/-- No resource was released twice. -/
theorem released_nodup : ledger.released.Nodup :=
  (List.nodup_append.mp tracked.nodup).2.1

theorem next_not_mem_live : ledger.next ∉ ledger.live := by
  intro member
  have numbered := tracked.balanced.subset (List.mem_append_left _ member)
  exact absurd (List.mem_range.mp numbered) (Nat.lt_irrefl _)

/-- Slots that give up what they hold, or hand it to other slots, keep the rest tracked. -/
theorem rearrange (origin : ι → ι) (injective : Function.Injective origin)
    (holds : ∀ i r, held' i = some r → held (origin i) = some r) : ledger.Tracked held' where
  balanced := tracked.balanced
  holdsLive := fun i r here => tracked.holdsLive (origin i) r (holds i r here)
  unique := fun i j r here there =>
    injective (tracked.unique _ _ r (holds i r here) (holds j r there))

/-- What the slot held before is lost. -/
theorem acquire [DecidableEq ι] (i : ι) :
    ledger.acquire.Tracked (Function.update held i (some ledger.next)) := by
  constructor
  · have numbered : (ledger.next :: (ledger.live ++ ledger.released)).Perm
        (List.range ledger.next ++ [ledger.next]) :=
      (tracked.balanced.cons _).trans (List.perm_append_singleton _ _).symm
    rw [← List.range_succ] at numbered
    exact numbered
  · intro j r holds
    by_cases same : j = i
    · rw [same, Function.update_self] at holds
      cases holds
      exact List.mem_cons_self
    · rw [Function.update_of_ne same] at holds
      exact List.mem_cons_of_mem _ (tracked.holdsLive j r holds)
  · intro j k r here there
    -- A slot that held the new number would have held it while it was not live.
    have fresh : ∀ j, held j ≠ some ledger.next :=
      fun j holds => tracked.next_not_mem_live (tracked.holdsLive j _ holds)
    by_cases first : j = i <;> by_cases second : k = i
    · exact first.trans second.symm
    · rw [first, Function.update_self] at here
      rw [Function.update_of_ne second] at there
      cases here
      exact absurd there (fresh k)
    · rw [Function.update_of_ne first] at here
      rw [second, Function.update_self] at there
      cases there
      exact absurd here (fresh j)
    · rw [Function.update_of_ne first] at here
      rw [Function.update_of_ne second] at there
      exact tracked.unique j k r here there

theorem release [DecidableEq ι] (holds : held i = some r) :
    (ledger.release r).Tracked (Function.update held i none) := by
  have live := tracked.holdsLive i r holds
  constructor
  · have moved : (ledger.live.erase r ++ r :: ledger.released).Perm
        (ledger.live ++ ledger.released) :=
      List.perm_middle.trans ((List.perm_cons_erase live).symm.append_right ledger.released)
    exact moved.trans tracked.balanced
  · intro j s here
    have other : j ≠ i := by
      rintro rfl
      rw [Function.update_self] at here
      cases here
    rw [Function.update_of_ne other] at here
    have distinct : s ≠ r := by
      rintro rfl
      exact other (tracked.unique j i s here holds)
    exact (List.mem_erase_of_ne distinct).mpr (tracked.holdsLive j s here)
  · intro j k s here there
    have kept : ∀ j, Function.update held i none j = some s → held j = some s := by
      intro j here
      by_cases same : j = i
      · rw [same, Function.update_self] at here
        cases here
      · rwa [Function.update_of_ne same] at here
    exact tracked.unique j k s (kept j here) (kept k there)

end Tracked

/-- Nothing is lost when the slot held nothing before. -/
theorem Covered.acquire [DecidableEq ι] (covered : ledger.Covered held slots)
    (slot : slots i) (free : held i = none) :
    ledger.acquire.Covered (Function.update held i (some ledger.next)) slots := by
  intro r live
  rcases List.mem_cons.mp live with new | old
  · exact ⟨i, slot, by rw [Function.update_self, new]⟩
  · obtain ⟨j, within, holds⟩ := covered r old
    have other : j ≠ i := by
      rintro rfl
      rw [free] at holds
      cases holds
    exact ⟨j, within, by rw [Function.update_of_ne other, holds]⟩

theorem Covered.release [DecidableEq ι] (covered : ledger.Covered held slots)
    (tracked : ledger.Tracked held) (holds : held i = some r) :
    (ledger.release r).Covered (Function.update held i none) slots := by
  intro s live
  have remains : s ≠ r ∧ s ∈ ledger.live := (tracked.live_nodup.mem_erase_iff).mp live
  obtain ⟨j, within, here⟩ := covered s remains.2
  have other : j ≠ i := by
    rintro rfl
    rw [holds] at here
    cases here
    exact remains.1 rfl
  exact ⟨j, within, by rw [Function.update_of_ne other, here]⟩

/-- Slots that all hold nothing cover an empty list only. -/
theorem Covered.live_eq_nil (covered : ledger.Covered held slots)
    (free : ∀ i, slots i → held i = none) : ledger.live = [] := by
  apply List.eq_nil_iff_forall_not_mem.mpr
  intro r live
  obtain ⟨i, within, holds⟩ := covered r live
  rw [free i within] at holds
  cases holds

end Ledger
