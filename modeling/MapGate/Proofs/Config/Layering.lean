import Mathlib.Data.List.Induction
import MapGate.Config.Finalize

/-!
Merging configuration layers. Merging is associative and the empty layer is neutral, so a group of
neighbouring layers may be merged beforehand. Each field of the completed configuration has the
value of the last layer that sets it, or else its default; finalizing returns this configuration
or refuses it as a whole.
-/
namespace MapGate

namespace BruteForceLayer

theorem merge_assoc (a b c : BruteForceLayer) : (a.merge b).merge c = a.merge (b.merge c) := by
  simp only [merge, Option.or_assoc]

end BruteForceLayer

namespace LoggingLayer

theorem merge_assoc (a b c : LoggingLayer) : (a.merge b).merge c = a.merge (b.merge c) := by
  simp only [merge, Option.or_assoc]

end LoggingLayer

namespace ConfigLayer

theorem mergeSection_assoc {σ : Type} {merge : σ → σ → σ}
    (assoc : ∀ a b c, merge (merge a b) c = merge a (merge b c)) (x y z : Option σ) :
    mergeSection merge (mergeSection merge x y) z =
      mergeSection merge x (mergeSection merge y z) := by
  cases x <;> cases y <;> cases z <;> simp [mergeSection, assoc]

theorem merge_assoc (a b c : ConfigLayer) : (a.merge b).merge c = a.merge (b.merge c) := by
  simp only [merge, Option.or_assoc, mergeSection_assoc BruteForceLayer.merge_assoc,
    mergeSection_assoc LoggingLayer.merge_assoc]

theorem merge_empty (layer : ConfigLayer) : layer.merge {} = layer := by
  simp [merge, mergeSection]

theorem empty_merge (layer : ConfigLayer) : merge {} layer = layer := by
  obtain ⟨bruteForce, logging, filterChains⟩ := layer
  cases bruteForce <;> cases logging <;> simp [merge, mergeSection]

theorem mergeAll_concat (layers : List ConfigLayer) (last : ConfigLayer) :
    mergeAll (layers ++ [last]) = (mergeAll layers).merge last := by
  simp [mergeAll]

theorem mergeAll_append (before after : List ConfigLayer) :
    mergeAll (before ++ after) = (mergeAll before).merge (mergeAll after) := by
  induction after using List.reverseRecOn with
  | nil =>
    rw [List.append_nil]
    exact (merge_empty _).symm
  | append_singleton after last ih =>
    rw [← List.append_assoc, mergeAll_concat, mergeAll_concat, ih, merge_assoc]

theorem mergeAll_group (before group after : List ConfigLayer) :
    mergeAll (before ++ mergeAll group :: after) = mergeAll (before ++ group ++ after) := by
  have single : mergeAll [mergeAll group] = mergeAll group := empty_merge _
  rw [List.append_cons, mergeAll_append, mergeAll_append before, single, ← mergeAll_append,
    ← mergeAll_append]

/-- The value of a field in the last layer that sets it. -/
def lastSet {α : Type} (field : ConfigLayer → Option α) (layers : List ConfigLayer) : Option α :=
  (layers.filterMap field).getLast?

theorem lastSet_concat {α : Type} (field : ConfigLayer → Option α) (layers : List ConfigLayer)
    (last : ConfigLayer) :
    lastSet field (layers ++ [last]) = (field last).or (lastSet field layers) := by
  unfold lastSet
  rw [List.filterMap_append, List.getLast?_append]
  cases set : field last <;> simp [set]

/-- A field that no layer sets by default and that merging takes from the upper layer first. -/
structure Overridden {α : Type} (field : ConfigLayer → Option α) : Prop where
  unset : field {} = none
  upper_first : ∀ lower upper, field (merge lower upper) = (field upper).or (field lower)

theorem Overridden.mergeAll {α : Type} {field : ConfigLayer → Option α}
    (overridden : Overridden field) (layers : List ConfigLayer) :
    field (mergeAll layers) = lastSet field layers := by
  induction layers using List.reverseRecOn with
  | nil => exact overridden.unset
  | append_singleton layers last ih =>
    rw [mergeAll_concat, overridden.upper_first, ih, lastSet_concat]

theorem bind_mergeSection {σ α : Type} {merge : σ → σ → σ} {field : σ → Option α}
    (upper_first : ∀ lower upper, field (merge lower upper) = (field upper).or (field lower))
    (x y : Option σ) : (mergeSection merge x y).bind field = (y.bind field).or (x.bind field) := by
  cases x <;> cases y <;> simp [mergeSection, upper_first]

theorem getD_section {σ α : Type} {default : σ} {field : σ → Option α}
    (unset : field default = none) (x : Option σ) : field (x.getD default) = x.bind field := by
  cases x with
  | none => exact unset
  | some layer => rfl

theorem bruteForce_mergeAll {α : Type} (field : BruteForceLayer → Option α)
    (unset : field {} = none)
    (upper_first : ∀ lower upper, field (.merge lower upper) = (field upper).or (field lower))
    (layers : List ConfigLayer) :
    field ((mergeAll layers).bruteForce.getD {}) = lastSet (·.bruteForce.bind field) layers := by
  have overridden : Overridden fun layer => layer.bruteForce.bind field :=
    ⟨rfl, fun lower upper => bind_mergeSection upper_first lower.bruteForce upper.bruteForce⟩
  rw [getD_section unset]
  exact overridden.mergeAll layers

theorem logging_mergeAll {α : Type} (field : LoggingLayer → Option α) (unset : field {} = none)
    (upper_first : ∀ lower upper, field (.merge lower upper) = (field upper).or (field lower))
    (layers : List ConfigLayer) :
    field ((mergeAll layers).logging.getD {}) = lastSet (·.logging.bind field) layers := by
  have overridden : Overridden fun layer => layer.logging.bind field :=
    ⟨rfl, fun lower upper => bind_mergeSection upper_first lower.logging upper.logging⟩
  rw [getD_section unset]
  exact overridden.mergeAll layers

theorem filterChains_mergeAll (layers : List ConfigLayer) :
    (mergeAll layers).filterChains = lastSet (·.filterChains) layers := by
  have overridden : Overridden ConfigLayer.filterChains := ⟨rfl, fun _ _ => rfl⟩
  exact overridden.mergeAll layers

/-- Each field as the last layer that sets it has it. The built-in defaults stand for the rest. -/
def resolved (layers : List ConfigLayer) : Config where
  bruteForce := {
    enabled := (lastSet (·.bruteForce.bind (·.enabled)) layers).getD true
    minDelay := (lastSet (·.bruteForce.bind (·.minDelay)) layers).getD 1000
    maxDelay := (lastSet (·.bruteForce.bind (·.maxDelay)) layers).getD 5000
    maxBlocked := (lastSet (·.bruteForce.bind (·.maxBlocked)) layers).getD 100
    whitelist :=
      (lastSet (·.bruteForce.bind (·.whitelist)) layers).getD ["127.0.0.1", "::1"] }
  logging := {
    level := (lastSet (·.logging.bind (·.level)) layers).getD "info"
    json := (lastSet (·.logging.bind (·.json)) layers).getD false }
  filterChains := (lastSet (·.filterChains) layers).getD []

theorem complete_mergeAll (layers : List ConfigLayer) :
    (mergeAll layers).complete = resolved layers := by
  unfold complete BruteForceLayer.complete LoggingLayer.complete resolved
  congr 1
  · rw [bruteForce_mergeAll (·.enabled) rfl fun _ _ => rfl,
      bruteForce_mergeAll (·.minDelay) rfl fun _ _ => rfl,
      bruteForce_mergeAll (·.maxDelay) rfl fun _ _ => rfl,
      bruteForce_mergeAll (·.maxBlocked) rfl fun _ _ => rfl,
      bruteForce_mergeAll (·.whitelist) rfl fun _ _ => rfl]
  · rw [logging_mergeAll (·.level) rfl fun _ _ => rfl,
      logging_mergeAll (·.json) rfl fun _ _ => rfl]
  · rw [filterChains_mergeAll]

theorem finalize_eq_ok_iff {layer : ConfigLayer} {config : Config} :
    layer.finalize = .ok config ↔ layer.complete.violation? = none ∧ layer.complete = config := by
  unfold finalize
  cases layer.complete.violation? <;> simp

theorem finalize_eq_error_iff {layer : ConfigLayer} {e : ConfigError} :
    layer.finalize = .error e ↔ ∃ v, e = .invalid v ∧ layer.complete.violation? = some v := by
  unfold finalize
  cases layer.complete.violation? with
  | none => simp
  | some v => simp [eq_comm]

end ConfigLayer
end MapGate
