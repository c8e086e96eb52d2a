import Sift.Proofs.Join.Build
import Mathlib.Data.List.Perm.Subperm
import Mathlib.Logic.Relation

/-!
# Walking the edges of a plan

The places of a plan are visited breadth first: a queue of places is worked off, and the
places below the one that is visited are added to its end. The walk ends, since no place
comes up twice, and its places are the root with those below the visited ones, in the
order of the visits.
-/
namespace Sift.JoinPlan

variable {edges : List JoinEdge}

/-- The places that are visited when a queue is worked off until it is empty. -/
inductive Walk (edges : List JoinEdge) : List Nat → List Nat → Prop where
  | done : Walk edges [] []
  | visit {i : Nat} {queue order : List Nat} (rest : Walk edges (queue ++ placesBelow edges i) order) :
    Walk edges (i :: queue) (i :: order)

/-- The places at a distance from a layer. -/
def layerAt (edges : List JoinEdge) : Nat → List Nat → List Nat
  | 0, layer => layer
  | n + 1, layer => layerAt edges n (layer.flatMap (placesBelow edges))

/-! ## Layers -/

theorem layers_concat (edges : List JoinEdge) (n : Nat) (layer : List Nat) :
    layers edges (n + 1) layer = layers edges n layer ++ layerAt edges n layer := by
  induction n generalizing layer with
  | zero => simp [layers, layerAt]
  | succ n ih => rw [layers, ih, ← List.append_assoc, layerAt, layers]

theorem flatMap_layers (n : Nat) (layer : List Nat) :
    (layers edges n layer).flatMap (placesBelow edges) =
      layers edges n (layer.flatMap (placesBelow edges)) := by
  induction n generalizing layer with
  | zero => rfl
  | succ n ih => rw [layers, List.flatMap_append, ih, layers]

theorem le_length_layers {n : Nat} (layer : List Nat) (some : layerAt edges n layer ≠ []) :
    n + 1 ≤ (layers edges (n + 1) layer).length := by
  induction n generalizing layer with
  | zero =>
    have : layer.length ≠ 0 := fun none => some (List.length_eq_zero_iff.mp none)
    simp only [layers, List.append_nil]
    omega
  | succ n ih =>
    have more := ih (layer.flatMap (placesBelow edges)) some
    have here : layer.length ≠ 0 := by
      intro none
      rw [List.length_eq_zero_iff.mp none] at more
      have nothing (k : Nat) : layers edges k [] = [] := by
        induction k with
        | zero => rfl
        | succ k ih => simpa [layers] using ih
      simp [nothing] at more
    rw [layers, List.length_append]
    omega

theorem mem_range_of_placesBelow {i parent : Nat} (below : i ∈ placesBelow edges parent) :
    i ∈ List.range (edges.length + 1) := by
  obtain ⟨first, e, edge, -⟩ := mem_placesBelow.mp below
  obtain ⟨bound, -⟩ := List.getElem?_eq_some_iff.mp edge
  exact List.mem_range.mpr (by omega)

theorem layers_subset (n : Nat) {layer : List Nat} (inside : layer ⊆ List.range (edges.length + 1)) :
    layers edges n layer ⊆ List.range (edges.length + 1) := by
  induction n generalizing layer with
  | zero => exact List.nil_subset _
  | succ n ih =>
    rw [layers]
    refine List.append_subset.mpr ⟨inside, ih fun i next => ?_⟩
    obtain ⟨parent, -, below⟩ := List.mem_flatMap.mp next
    exact mem_range_of_placesBelow below

theorem nodup_layers (edges : List JoinEdge) (n : Nat) : (layers edges n [0]).Nodup :=
  (listed_order edges n).nodup List.nodup_nil

theorem root_mem_range : [0] ⊆ List.range (edges.length + 1) := by simp

/-- As many steps as there are places leave nothing to visit: each layer before would have a place
of its own. -/
theorem layerAt_length (edges : List JoinEdge) : layerAt edges (edges.length + 1) [0] = [] := by
  by_contra some
  have long := le_length_layers [0] some
  have short := ((nodup_layers edges (edges.length + 1 + 1)).subperm
    (layers_subset _ root_mem_range)).length_le
  rw [List.length_range] at short
  omega

/-- The places of all layers, the root first. -/
def walkOrder (edges : List JoinEdge) : List Nat := layers edges (edges.length + 1) [0]

/-- The walk visits the root and the places below those it visits, in the order of the visits. -/
theorem walkOrder_eq (edges : List JoinEdge) :
    walkOrder edges = 0 :: (walkOrder edges).flatMap (placesBelow edges) := by
  have whole := layers_concat edges (edges.length + 1) [0]
  rw [layerAt_length, List.append_nil, layers, ← flatMap_layers] at whole
  exact whole.symm

/-- A queue is worked off layer by layer. -/
theorem Walk.append {layer later order : List Nat}
    (rest : Walk edges (later ++ layer.flatMap (placesBelow edges)) order) :
    Walk edges (layer ++ later) (layer ++ order) := by
  induction layer generalizing later with
  | nil => simpa using rest
  | cons i is ih =>
    rw [List.cons_append, List.cons_append]
    refine .visit ?_
    rw [List.append_assoc]
    refine ih ?_
    rwa [List.append_assoc]

theorem walk_layers {n : Nat} {layer : List Nat} (ends : layerAt edges n layer = []) :
    Walk edges layer (layers edges n layer) := by
  induction n generalizing layer with
  | zero =>
    rw [show layer = [] from ends]
    exact .done
  | succ n ih =>
    have rest : Walk edges ([] ++ layer.flatMap (placesBelow edges)) _ := ih ends
    simpa [layers] using rest.append

/-- The walk from the root ends. -/
theorem walk_walkOrder (edges : List JoinEdge) : Walk edges [0] (walkOrder edges) :=
  walk_layers (layerAt_length edges)

/-! ## Visited places -/

theorem nodup_walkOrder (edges : List JoinEdge) : (walkOrder edges).Nodup := nodup_layers edges _

theorem walkOrder_subset (edges : List JoinEdge) : walkOrder edges ⊆ List.range (edges.length + 1) :=
  layers_subset _ root_mem_range

theorem root_mem_walkOrder (edges : List JoinEdge) : 0 ∈ walkOrder edges := by
  rw [walkOrder_eq]
  exact List.mem_cons_self

/-- The place that a place hangs on. -/
def Below (edges : List JoinEdge) (i parent : Nat) : Prop := i ∈ placesBelow edges parent

/-- A place is visited exactly if following the edges from it leads to the root. -/
theorem mem_walkOrder_iff {i : Nat} : i ∈ walkOrder edges ↔ Relation.ReflTransGen (Below edges) i 0 := by
  constructor
  · have reached (n : Nat) (layer : List Nat) (all : ∀ i ∈ layer, Relation.ReflTransGen (Below edges) i 0) :
        ∀ i ∈ layers edges n layer, Relation.ReflTransGen (Below edges) i 0 := by
      induction n generalizing layer with
      | zero => simp [layers]
      | succ n ih =>
        rw [layers, List.forall_mem_append]
        refine ⟨all, ih _ fun i next => ?_⟩
        obtain ⟨parent, member, below⟩ := List.mem_flatMap.mp next
        exact .head below (all parent member)
    refine reached _ [0] (fun i member => ?_) i
    rw [List.mem_singleton.mp member]
  · intro path
    induction path using Relation.ReflTransGen.head_induction_on with
    | refl => exact root_mem_walkOrder edges
    | head below _ ih =>
      rw [walkOrder_eq]
      exact List.mem_cons_of_mem _ (List.mem_flatMap.mpr ⟨_, ih, below⟩)

/-- A place hangs on one place only. -/
theorem parent_unique {i p q : Nat} (first : i ∈ placesBelow edges p) (second : i ∈ placesBelow edges q) : p = q := by
  obtain ⟨-, e, edge, rfl⟩ := mem_placesBelow.mp first
  obtain ⟨-, e', edge', rfl⟩ := mem_placesBelow.mp second
  rw [Option.some.inj (edge.symm.trans edge')]

/-- A place is visited after the one that it hangs on. -/
theorem idxOf_parent_lt {i parent : Nat} (below : i ∈ placesBelow edges parent) (visited : i ∈ walkOrder edges) :
    (walkOrder edges).idxOf parent < (walkOrder edges).idxOf i := by
  obtain ⟨first, e, edge, rfl⟩ := mem_placesBelow.mp below
  have listed := listed_order edges (edges.length + 1)
  have distinct := nodup_walkOrder edges
  rw [← walkOrder] at listed
  obtain ⟨before, after, split⟩ := List.append_of_mem visited
  rw [split] at listed distinct ⊢
  obtain ⟨e', edge', earlier⟩ := listed.parent (by omega)
  rw [edge] at edge'
  cases edge'
  rw [List.nil_append] at earlier
  have apart : i ∉ before := fun member => (List.nodup_append'.mp distinct).2.2 member List.mem_cons_self
  rw [List.idxOf_append_of_mem earlier, List.idxOf_append_of_notMem apart]
  exact Nat.lt_add_right _ (List.idxOf_lt_length_of_mem earlier)

/-- Of two visited places below others, the first one hangs on a place that is visited earlier, or on
the same one and stands before the second. -/
def Precedes (edges : List JoinEdge) (i k : Nat) : Prop :=
  ∀ p q, i ∈ placesBelow edges p → k ∈ placesBelow edges q →
    (walkOrder edges).idxOf p < (walkOrder edges).idxOf q ∨ p = q ∧ i < k

theorem pairwise_idxOf {α : Type} [BEq α] [LawfulBEq α] {order : List α} (distinct : order.Nodup) :
    order.Pairwise fun i k => order.idxOf i < order.idxOf k := by
  rw [List.pairwise_iff_getElem]
  intro a b first second before
  rwa [distinct.idxOf_getElem, distinct.idxOf_getElem]

theorem pairwise_precedes (edges : List JoinEdge) :
    ((walkOrder edges).flatMap (placesBelow edges)).Pairwise (Precedes edges) := by
  rw [List.pairwise_flatMap]
  constructor
  · intro parent _
    refine (pairwise_placesBelow edges parent).imp_of_mem fun first second before p q hangs hangs' => .inr ⟨?_, before⟩
    rw [parent_unique hangs first, parent_unique hangs' second]
  · refine (pairwise_idxOf (nodup_walkOrder edges)).imp fun before i first k second p q hangs hangs' => .inl ?_
    rwa [parent_unique hangs first, parent_unique hangs' second]

end Sift.JoinPlan
