import PluginHost.Graph.Order
import PluginHost.Proofs.Graph.Path

/-!
# What spreading reaches

`spread` reaches what a path of one or more steps leads to from an id of the queue, as long as the path stays in the
given room (`mem_spread_iff`), each id once (`nodup_spread`) and after the one it is reached from (`inTurn_spread`).
Looking whether one node leads to another is the case of one id in the queue (`Relation.reaches_iff`).
-/

namespace PluginHost

open Relation (TransGen ReflTransGen)

/-- A step of spreading: to an id of the room that stands in the relation to the present one. -/
def SpreadStep (step : PluginId → PluginId → Bool) (room : List PluginId) (current x : PluginId) : Prop :=
  x ∈ room ∧ step x current = true

variable {step : PluginId → PluginId → Bool} {room queue : List PluginId} {x y current q : PluginId}

theorem mem_reachedFrom : x ∈ reachedFrom step room current ↔ SpreadStep step room current x := by
  simp [reachedFrom, SpreadStep]

theorem mem_notReachedFrom : x ∈ notReachedFrom step room current ↔ x ∈ room ∧ step x current = false := by
  simp [notReachedFrom]

/-- With less room, steps are steps. -/
theorem SpreadStep.of_notReachedFrom (h : SpreadStep step (notReachedFrom step room current) x y) :
    SpreadStep step room x y :=
  ⟨(mem_notReachedFrom.mp h.1).1, h.2⟩

/-- A path from an id of the queue either ends at what is reached from the first one, or goes on in the room that is
left, from the rest of the queue or from what was reached. -/
theorem SpreadStep.path_split (hq : q ∈ current :: queue) (h : TransGen (SpreadStep step room) q x) :
    x ∈ reachedFrom step room current ∨ ∃ q' ∈ queue ++ reachedFrom step room current,
      TransGen (SpreadStep step (notReachedFrom step room current)) q' x := by
  induction h with
  | @single x h =>
    cases hs : step x current with
    | true => exact Or.inl (mem_reachedFrom.mpr ⟨h.1, hs⟩)
    | false =>
      have hne : q ≠ current := by
        rintro rfl
        rw [h.2] at hs
        cases hs
      have hq' : q ∈ queue := (List.mem_cons.mp hq).resolve_left hne
      exact Or.inr ⟨q, List.mem_append_left _ hq', .single ⟨mem_notReachedFrom.mpr ⟨h.1, hs⟩, h.2⟩⟩
  | @tail y x _ h ih =>
    cases hs : step x current with
    | true => exact Or.inl (mem_reachedFrom.mpr ⟨h.1, hs⟩)
    | false =>
      have hx : SpreadStep step (notReachedFrom step room current) y x := ⟨mem_notReachedFrom.mpr ⟨h.1, hs⟩, h.2⟩
      rcases ih with hy | ⟨q', hq', hpath⟩
      · exact Or.inr ⟨y, List.mem_append_right _ hy, .single hx⟩
      · exact Or.inr ⟨q', hq', hpath.tail hx⟩

theorem map_fst_reachedFrom :
    ((reachedFrom step room current).map fun x => (x, current)).map Prod.fst = reachedFrom step room current := by
  simp [Function.comp_def]

/-- Spreading reaches what a path of one or more steps in the room leads to from the queue. -/
theorem mem_spread_iff : x ∈ (spread step room queue).map Prod.fst ↔
    ∃ q ∈ queue, TransGen (SpreadStep step room) q x := by
  fun_induction spread step room queue with
  | case1 => simp
  | case2 room current queue ih =>
    rw [List.map_append, List.mem_append, ih, map_fst_reachedFrom]
    constructor
    · rintro (hx | ⟨q, hq, hpath⟩)
      · exact ⟨current, List.mem_cons_self, .single (mem_reachedFrom.mp hx)⟩
      · have hpath' : TransGen (SpreadStep step room) q x :=
          TransGen.mono (fun _ _ h => h.of_notReachedFrom) _ _ hpath
        rcases List.mem_append.mp hq with hq | hq
        · exact ⟨q, List.mem_cons_of_mem _ hq, hpath'⟩
        · exact ⟨current, List.mem_cons_self, .head (mem_reachedFrom.mp hq) hpath'⟩
    · rintro ⟨q, hq, hpath⟩
      exact SpreadStep.path_split hq hpath

/-- What is reached stands in the relation to the id it was reached from. -/
theorem step_of_mem_spread {c : PluginId} (h : (x, c) ∈ spread step room queue) : step x c = true := by
  fun_induction spread step room queue with
  | case1 => cases h
  | case2 room current queue ih =>
    rcases List.mem_append.mp h with h | h
    · obtain ⟨y, hy, e⟩ := List.mem_map.mp h
      cases e
      exact (mem_reachedFrom.mp hy).2
    · exact ih h

/-- Nothing is reached twice. -/
theorem nodup_spread (hn : room.Nodup) : ((spread step room queue).map Prod.fst).Nodup := by
  fun_induction spread step room queue with
  | case1 => exact List.nodup_nil
  | case2 room current queue ih =>
    rw [List.map_append, map_fst_reachedFrom]
    refine List.nodup_append'.mpr ⟨hn.filter _, ih (hn.filter _), fun x hx hx' => ?_⟩
    obtain ⟨⟨y, c⟩, hy, rfl⟩ := List.mem_map.mp hx'
    have hno := (mem_notReachedFrom.mp (mem_of_mem_spread hy)).2
    rw [(mem_reachedFrom.mp hx).2] at hno
    cases hno

/-! ## The order in which ids are reached -/

/-- Every id of a list is told with one that is known by then: one of the given ones, or one told before. -/
def InTurn (given : List PluginId) : List (PluginId × PluginId) → Prop
  | [] => True
  | (x, c) :: rest => c ∈ given ∧ InTurn (x :: given) rest

theorem InTurn.mono : ∀ {l : List (PluginId × PluginId)} {given given' : List PluginId},
    (∀ q ∈ given, q ∈ given') → InTurn given l → InTurn given' l
  | [], _, _, _, _ => trivial
  | (x, _) :: _, given, given', hsub, h => by
    refine ⟨hsub _ h.1, InTurn.mono (fun q hq => ?_) h.2⟩
    rcases List.mem_cons.mp hq with rfl | hq
    · exact List.mem_cons_self
    · exact List.mem_cons_of_mem _ (hsub q hq)

theorem InTurn.append : ∀ {l m : List (PluginId × PluginId)} {given : List PluginId}, InTurn given l →
    InTurn (l.map Prod.fst ++ given) m → InTurn given (l ++ m)
  | [], _, _, _, hm => hm
  | (x, _) :: l, _, given, h, hm => by
    refine ⟨h.1, InTurn.append h.2 (hm.mono fun q hq => ?_)⟩
    simp only [List.map_cons, List.cons_append, List.mem_cons, List.mem_append] at hq ⊢
    tauto

theorem inTurn_reachedFrom {given : List PluginId} : ∀ {l : List PluginId} (_ : current ∈ given),
    InTurn given (l.map fun x => (x, current))
  | [], _ => trivial
  | _ :: _, h => ⟨h, inTurn_reachedFrom (List.mem_cons_of_mem _ h)⟩

/-- What is reached is told with an id of the queue, or with one that was reached before. -/
theorem inTurn_spread : InTurn queue (spread step room queue) := by
  fun_induction spread step room queue with
  | case1 => trivial
  | case2 room current queue ih =>
    refine (inTurn_reachedFrom List.mem_cons_self).append (ih.mono fun q hq => ?_)
    rw [map_fst_reachedFrom]
    rcases List.mem_append.mp hq with hq | hq
    · exact List.mem_append_right _ (List.mem_cons_of_mem _ hq)
    · exact List.mem_append_left _ hq

namespace Graph

variable {r : Relation} {nodes : List PluginId} {start goal : PluginId}

/-- The pairs of a relation as steps. -/
def Relation.Step (r : Relation) (x y : PluginId) : Prop := (x, y) ∈ r

/-- A relation whose pairs lead to nodes leads from one node to another when there is a path. -/
theorem Relation.reaches_iff (hr : ∀ p ∈ r, p.2 ∈ nodes) :
    r.reaches nodes start goal = true ↔ ReflTransGen r.Step start goal := by
  have hstep : ∀ x y, SpreadStep (fun y x => (x, y) ∈ r) (nodes.filter (· ≠ start)) x y ↔
      r.Step x y ∧ y ≠ start := by
    intro x y
    simp only [SpreadStep, Relation.Step, List.mem_filter, decide_eq_true_eq]
    constructor
    · rintro ⟨⟨_, hne⟩, h⟩
      exact ⟨h, hne⟩
    · rintro ⟨h, hne⟩
      exact ⟨⟨hr _ h, hne⟩, h⟩
  rw [Relation.reaches, Bool.or_eq_true, beq_iff_eq, List.contains_iff_mem, mem_spread_iff]
  constructor
  · rintro (rfl | ⟨q, hq, hpath⟩)
    · exact .refl
    · obtain rfl : q = start := by simpa using hq
      exact (TransGen.mono (fun x y h => ((hstep x y).mp h).1) _ _ hpath).to_reflTransGen
  · intro h
    rcases eq_or_transGen_avoiding h with h | h
    · exact Or.inl h
    · exact Or.inr ⟨start, by simp, TransGen.mono (fun x y h => (hstep x y).mpr h) _ _ h⟩

end Graph
end PluginHost
