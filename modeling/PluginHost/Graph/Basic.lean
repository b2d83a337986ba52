import PluginHost.Manifest.Dependency
import PluginHost.Ordered.Ascending
import PluginHost.Plugin.Container

/-!
# Graphs of dependencies

The nodes are ids; an edge leads from a plugin to one it depends on and is required or optional. Nodes and edges are
ascending lists, so everything computed from a graph is in a fixed order. A pair of nodes has at most one edge: a
required one replaces an optional one and is not replaced by it.
-/

namespace PluginHost

/-- `source` depends on `target`. -/
structure Edge where
  source : PluginId
  target : PluginId
  required : Bool
deriving DecidableEq, Repr

namespace Edge

/-- Edges are ordered by source, then by target, then optional before required. -/
def before (a b : Edge) : Bool :=
  a.source < b.source || a.source == b.source &&
    (a.target < b.target || a.target == b.target && (!a.required && b.required))

instance : LT Edge := ⟨fun a b => a.before b = true⟩
instance : DecidableLT Edge := fun a b => inferInstanceAs (Decidable (a.before b = true))

/-- The order of edges, spelled out. -/
theorem lt_iff {a b : Edge} : a < b ↔ a.source < b.source ∨ a.source = b.source ∧
    (a.target < b.target ∨ a.target = b.target ∧ a.required = false ∧ b.required = true) := by
  show a.before b = true ↔ _
  simp [before]

instance : Trans (α := Edge) (· < ·) (· < ·) (· < ·) where
  trans {a b c} hab hbc := by
    rw [lt_iff] at hab hbc ⊢
    rcases hab with h1 | ⟨h1, h1'⟩ <;> rcases hbc with h2 | ⟨h2, h2'⟩
    · exact Or.inl (String.lt_trans h1 h2)
    · exact Or.inl (h2 ▸ h1)
    · exact Or.inl (h1 ▸ h2)
    · refine Or.inr ⟨h1.trans h2, ?_⟩
      rcases h1' with g1 | ⟨g1, g1'⟩ <;> rcases h2' with g2 | ⟨g2, g2'⟩
      · exact Or.inl (String.lt_trans g1 g2)
      · exact Or.inl (g2 ▸ g1)
      · exact Or.inl (g1 ▸ g2)
      · rw [g1'.2] at g2'
        exact absurd g2'.1 (by simp)

instance : Std.Trichotomous (α := Edge) (· < ·) where
  trichotomous a b hab hba := by
    rw [lt_iff] at hab hba
    have hs : a.source = b.source :=
      Std.Trichotomous.trichotomous (r := (· < ·)) _ _ (fun h => hab (Or.inl h)) (fun h => hba (Or.inl h))
    have ht : a.target = b.target :=
      Std.Trichotomous.trichotomous (r := (· < ·)) _ _ (fun h => hab (Or.inr ⟨hs, Or.inl h⟩))
        (fun h => hba (Or.inr ⟨hs.symm, Or.inl h⟩))
    cases a with
    | mk s t r =>
      cases b with
      | mk s' t' r' =>
        simp only at hs ht
        subst hs ht
        cases r <;> cases r'
        · rfl
        · exact absurd (Or.inr ⟨rfl, Or.inr ⟨rfl, rfl, rfl⟩⟩) hab
        · exact absurd (Or.inr ⟨rfl, Or.inr ⟨rfl, rfl, rfl⟩⟩) hba
        · rfl

end Edge

/-- A graph of dependencies. -/
structure Graph where
  nodes : List PluginId := []
  edges : List Edge := []
deriving DecidableEq, Repr

namespace Graph

def contains (g : Graph) (id : PluginId) : Bool := id ∈ g.nodes

def size (g : Graph) : Nat := g.nodes.length

def isEmpty (g : Graph) : Bool := g.nodes.isEmpty

/-- Adds a node; a known one stays as it is. -/
def addNode (g : Graph) (id : PluginId) : Graph := { g with nodes := insertAscending id g.nodes }

def addPlugin (g : Graph) (c : Container) : Graph := g.addNode c.id

/-- Adds an edge to a list of edges: a required one takes the place of an optional one between the same nodes, an
optional one gives way to a required one. -/
def insertEdge (e : Edge) (edges : List Edge) : List Edge :=
  if e.required then insertAscending e (edges.erase { e with required := false })
  else if { e with required := true } ∈ edges then edges
  else insertAscending e edges

/-- Adds an edge between two nodes; an end that is no node is an error. -/
def addEdge (g : Graph) (source target : PluginId) (required : Bool) : Except PluginError Graph :=
  if !g.contains source then .error (.notFound source)
  else if !g.contains target then .error (.notFound target)
  else .ok { g with edges := insertEdge { source, target, required } g.edges }

def removeNode (g : Graph) (id : PluginId) : Graph :=
  { nodes := g.nodes.filter (· ≠ id), edges := g.edges.filter fun e => e.source ≠ id ∧ e.target ≠ id }

/-- Drops nodes and every edge that touches one of them. -/
def removeNodes (g : Graph) (ids : List PluginId) : Graph := ids.foldl removeNode g

def requires (g : Graph) (source target : PluginId) : Bool := { source, target, required := true : Edge } ∈ g.edges

/-- What an id depends on directly; with `requiredOnly`, along required edges only. -/
def dependenciesOf (g : Graph) (id : PluginId) (requiredOnly : Bool) : List PluginId :=
  (g.edges.filter fun e => e.source = id ∧ (e.required ∨ !requiredOnly)).map (·.target)

def dependentsOf (g : Graph) (id : PluginId) : List PluginId :=
  (g.edges.filter fun e => e.required ∧ e.target = id).map (·.source)

end Graph
end PluginHost
