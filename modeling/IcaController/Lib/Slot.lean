/-
A client with one slot, in a world where any number of peers open and end.

The world's history is the list of its events, newest first.  The client keeps the
peer that opened last and never looks at whose ending it is told of: an ending
only marks whatever the slot holds.  Two things can then go wrong, and both are
about order.

  * A peer opens while another one is held live: the other is forgotten alive.
  * An ending of some other peer reaches a live slot: the held peer is marked dead
    alive.

Where neither happens the slot and the world agree: the peers alive are the one
the slot holds live, if it does.
-/
import Mathlib.Data.Set.Subsingleton

inductive PeerEvent (α : Type) where
  | opened (a : α)
  | ended (a : α)
  deriving DecidableEq

/-- What the client holds. -/
inductive Slot (α : Type) where
  | empty
  | live (a : α)
  | dead (a : α)
  deriving DecidableEq

namespace Slot

variable {α : Type} {past : List (PeerEvent α)} {a b : α}

/-- How the client takes an event. -/
def step (s : Slot α) : PeerEvent α → Slot α
  | .opened a => live a
  | .ended _ =>
      match s with
      | live a => dead a
      | s => s

/-- The slot after a history. -/
def after : List (PeerEvent α) → Slot α
  | [] => empty
  | e :: past => (after past).step e

/-- The peers that opened and have not ended since. -/
def alive : List (PeerEvent α) → Set α
  | [] => ∅
  | .opened a :: past => insert a (alive past)
  | .ended a :: past => alive past \ {a}

/-- The events since the latest opening. -/
def recent : List (PeerEvent α) → List (PeerEvent α)
  | .ended a :: past => .ended a :: recent past
  | _ => []

@[simp] theorem after_nil : after ([] : List (PeerEvent α)) = empty := rfl

@[simp] theorem after_cons (e : PeerEvent α) : after (e :: past) = (after past).step e := rfl

@[simp] theorem step_opened (s : Slot α) : s.step (.opened a) = live a := rfl

@[simp] theorem step_ended_ne_live (s : Slot α) : s.step (.ended b) ≠ live a := by
  cases s <;> simp [step]

/-- An ending never moves the slot to another peer. -/
theorem step_ended_eq_dead {s : Slot α} :
    s.step (.ended b) = dead a ↔ s = live a ∨ s = dead a := by
  cases s <;> simp [step]

/-- The slot is live just after an opening, and at no other time. -/
theorem after_eq_live : after past = live a ↔ past.head? = some (.opened a) := by
  cases past with
  | nil => simp
  | cons e past =>
      cases e with
      | opened b => simp
      | ended b => simp

/-- What the slot holds live is alive. -/
theorem mem_alive_of_live (h : after past = live a) : a ∈ alive past := by
  cases past with
  | nil => simp at h
  | cons e past =>
      rw [after_eq_live, List.head?_cons, Option.some.injEq] at h
      subst h
      exact Set.mem_insert a _

/-! ### Conditions on a history

Both ways to go wrong are about an event and the slot it meets, so both conditions are
put to every event of a history, in the state it found.
-/

/-- Every event of a history met the slot in a state that `P` relates to it. -/
def Along (P : Slot α → PeerEvent α → Prop) : List (PeerEvent α) → Prop
  | [] => True
  | e :: past => P (after past) e ∧ Along P past

theorem Along.of_suffix {P : Slot α → PeerEvent α → Prop} {older : List (PeerEvent α)}
    (h : Along P past) (hle : older <:+ past) : Along P older := by
  induction past with
  | nil => rwa [List.suffix_nil.mp hle]
  | cons e past ih =>
      rcases List.suffix_cons_iff.mp hle with rfl | hle
      · exact h
      · exact ih h.2 hle

/-- Every ending that met a live slot was of the peer in it. -/
abbrev Attentive (past : List (PeerEvent α)) : Prop :=
  Along (fun s e => ∀ a b, s = live a → e = .ended b → a = b) past

/-- No peer opened while another was held live. -/
abbrev OneByOne (past : List (PeerEvent α)) : Prop :=
  Along (fun s e => ∀ a b, s = live a → e = .opened b → a = b) past

/-- A dead slot was told of its own peer's end, since it opened. -/
theorem ended_mem_recent (hatt : Attentive past) (h : after past = dead a) :
    .ended a ∈ recent past := by
  induction past with
  | nil => simp at h
  | cons e past ih =>
      cases e with
      | opened b => simp at h
      | ended b =>
          rcases step_ended_eq_dead.mp h with hlive | hdead
          · rw [hatt.1 a b hlive rfl]
            exact List.mem_cons_self
          · exact List.mem_cons_of_mem _ (ih hatt.2 hdead)

/-- **The slot mirrors the world** when endings and openings come in order. -/
theorem mem_alive_iff (hatt : Attentive past) (hone : OneByOne past) :
    a ∈ alive past ↔ after past = live a := by
  induction past with
  | nil => simp [alive]
  | cons e past ih =>
      have hpast := ih hatt.2 hone.2
      cases e with
      | opened b =>
          have hheld : after past = live a → a = b := fun h => hone.1 a b h rfl
          simp only [alive, Set.mem_insert_iff, hpast, after_cons, step_opened, live.injEq]
          exact ⟨fun h => h.elim Eq.symm fun hl => (hheld hl).symm, fun h => Or.inl h.symm⟩
      | ended b =>
          have hheld : after past = live a → a = b := fun h => hatt.1 a b h rfl
          simp only [alive, Set.mem_sdiff, Set.mem_singleton_iff, hpast, after_cons,
            step_ended_ne_live, iff_false, not_and, not_not]
          exact hheld

/-- One peer at most is alive then. -/
theorem alive_subsingleton (hatt : Attentive past) (hone : OneByOne past) :
    (alive past).Subsingleton := by
  intro a ha b hb
  rw [mem_alive_iff hatt hone] at ha hb
  rw [ha] at hb
  exact live.inj hb

/-- Where one peer at most was alive at every moment, peers opened one by one. -/
theorem oneByOne_of_subsingleton
    (h : ∀ older, older <:+ past → (alive older).Subsingleton) : OneByOne past := by
  induction past with
  | nil => trivial
  | cons e past ih =>
      refine ⟨?_, ih fun older hle => h older (hle.trans (List.suffix_cons e past))⟩
      rintro a b hlive rfl
      have ha : a ∈ alive (.opened b :: past) := Set.mem_insert_of_mem b (mem_alive_of_live hlive)
      have hb : b ∈ alive (.opened b :: past) := Set.mem_insert b _
      exact h _ List.suffix_rfl ha hb

end Slot
