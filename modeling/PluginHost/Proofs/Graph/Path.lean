import Mathlib.Data.Fintype.EquivFin
import Mathlib.Data.List.Chain
import Mathlib.Logic.Relation
import Mathlib.Order.WellFounded

/-!
# Paths in a relation

A path of one or more steps is `TransGen`, one of any number is `ReflTransGen`. A relation is acyclic when no path of
one or more steps leads back to its start.

* `Acyclic.addPair`: a pair whose target does not lead to its source closes no cycle.
* `Acyclic.exists_minimal`: a list that is not empty has an element from which no step leads into the list.
* `transGen_self_of_closed`: every element of a closed walk lies on a cycle.
* `IsCycle.rotate`: a cycle can be told from any of its elements.
-/

namespace PluginHost

open Relation

variable {α : Type} {R S : α → α → Prop}

/-- No path of one or more steps leads back to its start. -/
def Acyclic (R : α → α → Prop) : Prop := ∀ x, ¬TransGen R x x

/-- A relation and one more pair. -/
def AddPair (R : α → α → Prop) (a b : α) : α → α → Prop := fun x y => R x y ∨ x = a ∧ y = b

/-- A part of an acyclic relation is acyclic. -/
theorem Acyclic.mono (h : Acyclic R) (hS : ∀ x y, S x y → R x y) : Acyclic S :=
  fun x hx => h x (TransGen.mono hS _ _ hx)

/-- A path in a relation with one more pair uses the pair or not. -/
theorem transGen_addPair {a b x y : α} (h : TransGen (AddPair R a b) x y) :
    TransGen R x y ∨ ReflTransGen R x a ∧ ReflTransGen R b y := by
  induction h with
  | single h =>
    rcases h with h | ⟨rfl, rfl⟩
    · exact Or.inl (.single h)
    · exact Or.inr ⟨.refl, .refl⟩
  | tail _ h ih =>
    rcases h with h | ⟨rfl, rfl⟩
    · rcases ih with ih | ⟨h1, h2⟩
      · exact Or.inl (ih.tail h)
      · exact Or.inr ⟨h1, h2.tail h⟩
    · rcases ih with ih | ⟨h1, _⟩
      · exact Or.inr ⟨ih.to_reflTransGen, .refl⟩
      · exact Or.inr ⟨h1, .refl⟩

/-- A pair whose target does not lead to its source closes no cycle. -/
theorem Acyclic.addPair {a b : α} (h : Acyclic R) (hba : ¬ReflTransGen R b a) : Acyclic (AddPair R a b) := by
  intro x hx
  rcases transGen_addPair hx with hx | ⟨hxa, hbx⟩
  · exact h x hx
  · exact hba (hbx.trans hxa)

theorem not_transGen_of_acc {x : α} (h : Acc (fun y x => R x y) x) : ¬TransGen R x x := by
  induction h with
  | intro x _ ih =>
    intro hx
    obtain ⟨y, hxy, hyx⟩ := TransGen.head'_iff.mp hx
    exact ih y hxy (TransGen.tail' hyx hxy)

/-- A path can be taken so that it does not come back to its start. -/
theorem eq_or_transGen_avoiding {a c : α} (h : ReflTransGen R a c) :
    a = c ∨ TransGen (fun x y => R x y ∧ y ≠ a) a c := by
  classical
  induction h with
  | refl => exact Or.inl rfl
  | @tail b c _ hbc ih =>
    by_cases hc : c = a
    · exact Or.inl hc.symm
    · rcases ih with rfl | ih
      · exact Or.inr (.single ⟨hbc, hc⟩)
      · exact Or.inr (ih.tail ⟨hbc, hc⟩)

/-- A list that is not empty has an element from which no step leads into the list. -/
theorem Acyclic.exists_minimal (h : Acyclic R) {l : List α} (hl : l ≠ []) : ∃ x ∈ l, ∀ y ∈ l, ¬R x y := by
  classical
  -- On the finite type of the elements, "comes after on a path" is transitive and irreflexive, so well-founded.
  let below : {x // x ∈ l} → {x // x ∈ l} → Prop := fun y x => TransGen R x.1 y.1
  have : IsTrans _ below := ⟨fun _ _ _ hxy hyz => hyz.trans hxy⟩
  have : Std.Irrefl below := ⟨fun x hx => h x.1 hx⟩
  have wf : WellFounded below := Finite.wellFounded_of_trans_of_irrefl below
  obtain ⟨a, ha⟩ := List.exists_mem_of_ne_nil l hl
  obtain ⟨x, -, hx⟩ := wf.has_min Set.univ ⟨⟨a, ha⟩, trivial⟩
  exact ⟨x.1, x.2, fun y hy hxy => hx ⟨y, hy⟩ trivial (.single hxy)⟩

/-! ## Walks -/

/-- A walk that comes back to its start: a list of distinct elements, each of which steps to the next, the last one
to the first; the first is told again at the end. -/
def IsCycle (R : α → α → Prop) (walk : List α) : Prop :=
  ∃ a mid, walk = a :: mid ++ [a] ∧ (a :: mid).Nodup ∧ walk.IsChain R

/-- Every element of a closed walk lies on a cycle. -/
theorem transGen_self_of_closed {a x : α} {mid : List α} (h : (a :: mid ++ [a]).IsChain R) (hx : x ∈ a :: mid) :
    TransGen R x x := by
  have hp : (a :: mid ++ [a]).Pairwise (TransGen R) := (h.imp fun _ _ => TransGen.single).pairwise
  have hxa : TransGen R x a := (List.pairwise_append.mp hp).2.2 x hx a (by simp)
  rcases List.mem_cons.mp hx with rfl | hmid
  · exact hxa
  · have hax : TransGen R a x := (List.pairwise_cons.mp hp).1 x (by simp [hmid])
    exact hxa.trans hax

/-- What stands on a closed walk stands on it before its end. -/
theorem mem_closed_iff {a x : α} {mid : List α} : x ∈ a :: mid ++ [a] ↔ x ∈ a :: mid := by
  rw [List.mem_append, List.mem_singleton, or_iff_left_of_imp]
  rintro rfl
  exact List.mem_cons_self

theorem IsCycle.mono {walk : List α} (h : IsCycle R walk) (hS : ∀ x y, R x y → S x y) : IsCycle S walk := by
  obtain ⟨a, mid, he, hn, hchain⟩ := h
  exact ⟨a, mid, he, hn, hchain.imp fun x y => hS x y⟩

/-- A closed walk is a cycle when it repeats none of its elements but the first. -/
theorem isCycle_closed_iff {a : α} {mid : List α} :
    IsCycle R (a :: mid ++ [a]) ↔ (a :: mid).Nodup ∧ (a :: mid ++ [a]).IsChain R := by
  constructor
  · rintro ⟨b, mid', he, hn, hchain⟩
    obtain ⟨rfl, hmid⟩ := List.cons.inj he
    obtain rfl := List.append_cancel_right hmid
    exact ⟨hn, hchain⟩
  · rintro ⟨hn, hchain⟩
    exact ⟨a, mid, rfl, hn, hchain⟩

/-- A cycle told from another one of its elements. -/
theorem IsCycle.rotate {a x : α} {mid front back : List α} (h : IsCycle R (a :: mid ++ [a]))
    (hx : a :: mid = front ++ x :: back) : IsCycle R (x :: (back ++ front) ++ [x]) := by
  obtain ⟨hn, hchain⟩ := isCycle_closed_iff.mp h
  refine isCycle_closed_iff.mpr ⟨?_, ?_⟩
  · rw [hx] at hn
    exact List.perm_append_comm.nodup_iff.mp hn
  · cases front with
    | nil =>
      obtain ⟨rfl, rfl⟩ := List.cons.inj hx
      simpa using hchain
    | cons b front =>
      -- The walk is cut at `x`; its second part ends where the first one starts.
      obtain ⟨rfl, rfl⟩ := List.cons.inj hx
      have hcut : (a :: front ++ x :: (back ++ [a])).IsChain R := by simpa using hchain
      obtain ⟨hfront, hback⟩ := List.isChain_split.mp hcut
      have hjoin : (x :: back ++ a :: (front ++ [x])).IsChain R :=
        List.isChain_split.mpr ⟨by simpa using hback, by simpa using hfront⟩
      simpa using hjoin

/-- A walk whose elements do not lie on cycles repeats none. -/
theorem nodup_of_isChain {l : List α} (h : l.IsChain R) (hl : ∀ x ∈ l, ¬TransGen R x x) : l.Nodup := by
  have hp : l.Pairwise (TransGen R) := (h.imp fun _ _ => TransGen.single).pairwise
  refine List.Pairwise.imp_of_mem ?_ hp
  rintro x y hx - hxy rfl
  exact hl x hx hxy

end PluginHost
