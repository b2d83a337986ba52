import Mathlib.Data.List.Perm.Basic
import PluginHost.Ordered.Ascending

/-!
# Ascending lists as sets

An ascending list is known by its elements (`Ascending.ext`). So a list that was filled by insertions can be compared
with one that was filtered, whatever the order of the insertions was.
-/

namespace PluginHost

variable {α : Type} [LT α]

theorem Ascending.nodup [Std.Irrefl (α := α) (· < ·)] {l : List α} (h : Ascending l) : l.Nodup :=
  List.Pairwise.imp (fun {a b} hab => fun e : a = b => Std.Irrefl.irrefl b (show b < b from e ▸ hab)) h

theorem Ascending.filter {l : List α} (h : Ascending l) (p : α → Bool) : Ascending (l.filter p) :=
  h.sublist List.filter_sublist

/-- Ascending lists with the same elements are equal. -/
theorem Ascending.ext [Std.Irrefl (α := α) (· < ·)] [Trans (α := α) (· < ·) (· < ·) (· < ·)] {l m : List α}
    (hl : Ascending l) (hm : Ascending m) (h : ∀ x, x ∈ l ↔ x ∈ m) : l = m := by
  have hp : l.Perm m := (List.perm_ext_iff_of_nodup hl.nodup hm.nodup).mpr h
  refine List.Perm.eq_of_pairwise (fun a b _ _ hab hba => ?_) hl hm hp
  exact absurd (Trans.trans hab hba : a < a) (Std.Irrefl.irrefl a)

theorem Ascending.head_lt {a x : α} {l : List α} (h : Ascending (a :: l)) (hx : x ∈ l) : a < x :=
  (List.pairwise_cons.mp h).1 x hx

section Insertions

variable [DecidableLT α] [DecidableEq α]

/-- One after the other, insertions add their elements and keep the others. -/
theorem mem_foldl_insertAscending {x : α} : ∀ (ids l : List α),
    x ∈ ids.foldl (fun l a => insertAscending a l) l ↔ x ∈ ids ∨ x ∈ l
  | [], l => by simp
  | a :: ids, l => by
    rw [List.foldl_cons, mem_foldl_insertAscending ids, mem_insertAscending, List.mem_cons, or_left_comm,
      or_assoc]

theorem ascending_foldl_insertAscending [Std.Trichotomous (α := α) (· < ·)]
    [Trans (α := α) (· < ·) (· < ·) (· < ·)] : ∀ (ids : List α) {l : List α}, Ascending l →
      Ascending (ids.foldl (fun l a => insertAscending a l) l)
  | [], _, h => h
  | _ :: ids, _, h => ascending_foldl_insertAscending ids (ascending_insertAscending h)

end Insertions
end PluginHost
