import PluginHost.Ordered.IdMap
import PluginHost.Proofs.Ordered.Ascending

/-!
# Look-ups in maps from ids

What stands in a map is what its look-ups answer (`IdMap.mem_entries_iff`, `IdMap.mem_keys_iff`). A map that was filled
from a list answers with the last pair of the list (`IdMap.find?_ofList`). New keys leave the others as they are
(`IdMap.extends_foldl_insert`).
-/

namespace PluginHost.IdMap

variable {α : Type}

/-- A list with distinct keys has the pairs that a look-up finds. -/
theorem lookup_eq_some_iff {k : String} {v : α} : ∀ {l : List (String × α)}, (l.map Prod.fst).Nodup →
    (l.lookup k = some v ↔ (k, v) ∈ l)
  | [], _ => by simp
  | (k', v') :: rest, h => by
    have hk : k' ∉ rest.map Prod.fst := (List.nodup_cons.mp h).1
    have ih := lookup_eq_some_iff (k := k) (v := v) (List.nodup_cons.mp h).2
    rw [Keyed.lookup_cons, List.mem_cons]
    split
    · rename_i e
      subst e
      constructor
      · intro hv
        exact Or.inl (by rw [Option.some.inj hv])
      · rintro (hv | hv)
        · rw [(Prod.mk.inj hv).2]
        · exact absurd (List.mem_map_of_mem (f := Prod.fst) hv) hk
    · rename_i hne
      rw [ih]
      constructor
      · exact Or.inr
      · rintro (hv | hv)
        · exact absurd (Prod.mk.inj hv).1 hne
        · exact hv

@[simp] theorem not_mem_keys_empty {k : String} : k ∉ (empty : IdMap α).keys :=
  List.not_mem_nil

theorem nodup_keys (m : IdMap α) : m.keys.Nodup :=
  Ascending.nodup m.ascending

/-- The entries of a map are what its look-ups answer. -/
theorem mem_entries_iff {m : IdMap α} {k : String} {v : α} : (k, v) ∈ m.entries ↔ m.find? k = some v :=
  (lookup_eq_some_iff m.nodup_keys).symm

/-- The keys of a map are those under which something is found. -/
theorem mem_keys_iff {m : IdMap α} {k : String} : k ∈ m.keys ↔ ∃ v, m.find? k = some v := by
  constructor
  · intro h
    obtain ⟨⟨k', v⟩, hp, rfl⟩ := List.mem_map.mp h
    exact ⟨v, mem_entries_iff.mp hp⟩
  · rintro ⟨v, h⟩
    exact List.mem_map.mpr ⟨(k, v), mem_entries_iff.mpr h, rfl⟩

theorem mem_values_iff {m : IdMap α} {v : α} : v ∈ m.values ↔ ∃ k, m.find? k = some v := by
  constructor
  · intro h
    obtain ⟨⟨k, v'⟩, hp, rfl⟩ := List.mem_map.mp h
    exact ⟨k, mem_entries_iff.mp hp⟩
  · rintro ⟨k, h⟩
    exact List.mem_map.mpr ⟨(k, v), mem_entries_iff.mpr h, rfl⟩

theorem contains_iff {m : IdMap α} {k : String} : m.contains k = true ↔ k ∈ m.keys := by
  rw [contains, Option.isSome_iff_exists, mem_keys_iff]

theorem mem_keys_insert {m : IdMap α} {key k : String} {value : α} :
    k ∈ (m.insert key value).keys ↔ k = key ∨ k ∈ m.keys :=
  Keyed.mem_keys_insert

/-- One after the other, insertions add their keys and keep the others. -/
theorem mem_keys_foldl_insert {β : Type} {key : β → String} {value : β → α} {k : String} : ∀ (l : List β) (m : IdMap α),
    k ∈ (l.foldl (fun m b => m.insert (key b) (value b)) m).keys ↔ k ∈ l.map key ∨ k ∈ m.keys
  | [], m => by simp
  | b :: l, m => by
    rw [List.foldl_cons, mem_keys_foldl_insert l, mem_keys_insert, List.map_cons, List.mem_cons, or_left_comm,
      or_assoc]

theorem length_keys (m : IdMap α) : m.keys.length = m.size := List.length_map _

/-- A map that kept its keys has grown by the number of those that are new. -/
theorem size_sub_size {m m' : IdMap α} (h : ∀ k ∈ m.keys, k ∈ m'.keys) :
    m'.size - m.size = (m'.keys.filter (· ∉ m.keys)).length := by
  have hkept : (m'.keys.filter (· ∈ m.keys)).Perm m.keys := by
    refine (List.perm_ext_iff_of_nodup (m'.nodup_keys.filter _) m.nodup_keys).mpr fun k => ?_
    simpa using h k
  have hsplit : m'.keys.length = m.keys.length + (m'.keys.filter (· ∉ m.keys)).length := by
    simpa [hkept.length_eq] using List.length_eq_length_filter_add (l := m'.keys) (· ∈ m.keys)
  rw [← length_keys, ← length_keys, hsplit]
  omega

/-- Everything in a map is in another one, too. -/
def Extends (m m' : IdMap α) : Prop := ∀ k v, m.find? k = some v → m'.find? k = some v

section Insertions

variable {β : Type} {key : β → String} {value : β → α}

theorem find?_foldl_insert_of_not_mem {k : String} : ∀ {l : List β} (m : IdMap α), k ∉ l.map key →
    (l.foldl (fun m b => m.insert (key b) (value b)) m).find? k = m.find? k
  | [], _, _ => rfl
  | b :: l, m, h => by
    obtain ⟨hb, hl⟩ := List.ne_and_not_mem_of_not_mem_cons h
    rw [List.foldl_cons, find?_foldl_insert_of_not_mem _ hl, find?_insert, if_neg hb]

/-- With distinct keys every pair is found that was inserted. -/
theorem find?_foldl_insert_of_mem {b : β} : ∀ {l : List β} (m : IdMap α), (l.map key).Nodup → b ∈ l →
    (l.foldl (fun m b => m.insert (key b) (value b)) m).find? (key b) = some (value b)
  | b' :: l, m, hn, hb => by
    obtain ⟨hnot, hn⟩ := List.nodup_cons.mp hn
    rw [List.foldl_cons]
    rcases List.mem_cons.mp hb with rfl | hb
    · rw [find?_foldl_insert_of_not_mem _ hnot, find?_insert, if_pos rfl]
    · exact find?_foldl_insert_of_mem _ hn hb

/-- Insertions under new keys keep what is there. -/
theorem extends_foldl_insert {l : List β} {m : IdMap α} (hnew : ∀ b ∈ l, key b ∉ m.keys) :
    m.Extends (l.foldl (fun m b => m.insert (key b) (value b)) m) := by
  intro k v hk
  have hnot : k ∉ l.map key := by
    intro h
    obtain ⟨b, hb, rfl⟩ := List.mem_map.mp h
    exact hnew b hb (mem_keys_iff.mpr ⟨v, hk⟩)
  rw [find?_foldl_insert_of_not_mem m hnot, hk]

end Insertions

/-- The first entry of a kind has the least key of all entries of that kind. -/
theorem find?_entries_least {m : IdMap α} {p : String × α → Bool} {k : String} {v : α}
    (h : m.entries.find? p = some (k, v)) : m.find? k = some v ∧ p (k, v) = true ∧
      ∀ k' v', m.find? k' = some v' → p (k', v') = true → k ≤ k' := by
  refine ⟨mem_entries_iff.mp (List.mem_of_find?_eq_some h), List.find?_some h, fun k' v' hk' hp' => ?_⟩
  obtain ⟨_, before, after, he, hbefore⟩ := List.find?_eq_some_iff_append.mp h
  have hmem : (k', v') ∈ before ++ (k, v) :: after := he ▸ mem_entries_iff.mpr hk'
  have hsorted : ((before ++ (k, v) :: after).map Prod.fst).Pairwise (· < ·) := he ▸ m.ascending
  rcases List.mem_append.mp hmem with hb | hb
  · have hno : (!p (k', v')) = true := hbefore _ hb
    rw [hp'] at hno
    cases hno
  · rcases List.mem_cons.mp hb with hb | hb
    · obtain ⟨rfl, _⟩ := Prod.mk.inj hb
      exact Std.le_refl k'
    · rw [List.map_append, List.map_cons] at hsorted
      have hlt := (List.pairwise_cons.mp (List.pairwise_append.mp hsorted).2.1).1 k' (List.mem_map_of_mem hb)
      exact Std.le_of_lt hlt

theorem find?_mapValues {β : Type} {f : String → α → β} {m : IdMap α} {k : String} :
    (m.mapValues f).find? k = (m.find? k).map (f k) := by
  have hlist : ∀ l : List (String × α), (l.map fun p => (p.1, f p.1 p.2)).lookup k = (l.lookup k).map (f k) := by
    intro l
    induction l with
    | nil => rfl
    | cons p l ih =>
      rw [List.map_cons, Keyed.lookup_cons, ih, Keyed.lookup_cons]
      by_cases hk : k = p.1
      · simp [hk]
      · simp [hk]
  exact hlist m.entries

theorem find?_erase {m : IdMap α} {key k : String} :
    (m.erase key).find? k = if k = key then none else m.find? k := by
  have hlist : ∀ l : List (String × α),
      (l.filter fun p => p.1 ≠ key).lookup k = if k = key then none else l.lookup k := by
    intro l
    induction l with
    | nil => simp
    | cons p l ih =>
      obtain ⟨k', v⟩ := p
      by_cases hk' : k' = key
      · rw [List.filter_cons_of_neg (by simp [hk']), ih, Keyed.lookup_cons]
        by_cases hk : k = key
        · simp [hk]
        · simp [hk, hk']
      · rw [List.filter_cons_of_pos (by simp [hk']), Keyed.lookup_cons, Keyed.lookup_cons, ih]
        by_cases hk : k = k'
        · simp [hk, hk']
        · simp [hk]
  exact hlist m.entries

/-- A map that was filled from a list answers with the last pair under a key. -/
theorem find?_ofList (pairs : List (String × α)) (k : String) :
    (ofList pairs).find? k = (pairs.reverse.find? (·.1 = k)).map Prod.snd := by
  have go : ∀ (rest : List (String × α)) (m : IdMap α),
      (rest.foldl (fun m p => m.insert p.1 p.2) m).find? k =
        ((rest.reverse.find? (·.1 = k)).map Prod.snd).or (m.find? k) := by
    intro rest
    induction rest with
    | nil => exact fun _ => rfl
    | cons p rest ih =>
      intro m
      rw [List.foldl_cons, ih, find?_insert, List.reverse_cons, List.find?_append]
      cases rest.reverse.find? (·.1 = k) with
      | some q => rfl
      | none =>
        by_cases h : p.1 = k
        · simp [h]
        · simp [h, Ne.symm h]
  rw [ofList, go, find?_empty, Option.or_none]

end PluginHost.IdMap
