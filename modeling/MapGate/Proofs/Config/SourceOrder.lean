import Mathlib.Data.List.Nodup
import Mathlib.Data.List.Pairwise
import MapGate.Config.Source
import MapGate.Proofs.Config.Layering
import MapGate.Proofs.List.Traverse

/-!
The order of configuration sources. Defaults come before the file and the file before the
environment; sources of one kind stay in the order given. The first failure in this order is the
error. Without one, the last source that sets a field decides it, and the configuration made of
these fields and the defaults is returned or refused.
-/
namespace MapGate

theorem Precedence.eq_of_rank {a b : Precedence} (same : a.rank = b.rank) : a = b := by
  cases a <;> cases b <;> first | rfl | contradiction

namespace ConfigSource

def ofKind (p : Precedence) (sources : List ConfigSource) : List ConfigSource :=
  sources.filter fun s => s.precedence = p

/-- The sources from the weakest to the strongest, those of one kind as they were given. -/
def inOrder (sources : List ConfigSource) : List ConfigSource :=
  ofKind .defaults sources ++ ofKind .configFile sources ++ ofKind .environment sources

def NoStronger (a b : ConfigSource) : Prop := a.precedence.rank ≤ b.precedence.rank

theorem rank_trans (a b c : ConfigSource)
    (lower : decide (a.precedence.rank ≤ b.precedence.rank) = true)
    (upper : decide (b.precedence.rank ≤ c.precedence.rank) = true) :
    decide (a.precedence.rank ≤ c.precedence.rank) = true :=
  decide_eq_true (Nat.le_trans (of_decide_eq_true lower) (of_decide_eq_true upper))

theorem rank_total (a b : ConfigSource) :
    (decide (a.precedence.rank ≤ b.precedence.rank) ||
      decide (b.precedence.rank ≤ a.precedence.rank)) = true := by
  simp only [Bool.or_eq_true, decide_eq_true_eq]
  omega

theorem ordered_pairwise (sources : List ConfigSource) : (ordered sources).Pairwise NoStronger :=
  (List.pairwise_mergeSort rank_trans rank_total sources).imp of_decide_eq_true

theorem ordered_perm (sources : List ConfigSource) : (ordered sources).Perm sources :=
  List.mergeSort_perm sources _

theorem ofKind_cons (p : Precedence) (s : ConfigSource) (rest : List ConfigSource) :
    ofKind p (s :: rest) = if s.precedence = p then s :: ofKind p rest else ofKind p rest := by
  simp [ofKind, List.filter_cons]

theorem kind_of_mem {p : Precedence} {sources : List ConfigSource} {s : ConfigSource}
    (member : s ∈ ofKind p sources) : s.precedence = p :=
  of_decide_eq_true (List.mem_filter.mp member).2

/-- Sorting keeps sources of one kind in their order. -/
theorem ofKind_ordered (p : Precedence) (sources : List ConfigSource) :
    ofKind p (ordered sources) = ofKind p sources := by
  have alike : (ofKind p sources).Pairwise fun a b =>
      decide (a.precedence.rank ≤ b.precedence.rank) = true := by
    rw [List.pairwise_iff_forall_sublist]
    intro a b both
    have first := kind_of_mem (both.subset List.mem_cons_self)
    have second := kind_of_mem (both.subset (List.mem_cons_of_mem _ List.mem_cons_self))
    rw [first, second]
    exact decide_eq_true (Nat.le_refl _)
  -- sorting is stable, so they are a part of those in the sorted list, and just as many
  have kept := List.sublist_mergeSort rank_trans rank_total alike List.filter_sublist
  have twice := kept.filter fun s => decide (s.precedence = p)
  simp only [ofKind, List.filter_filter, Bool.and_self] at twice
  have count := ((ordered_perm sources).filter fun s => decide (s.precedence = p)).length_eq
  exact (twice.eq_of_length count.symm).symm

theorem eq_inOrder {sources : List ConfigSource} (sorted : sources.Pairwise NoStronger) :
    sources = inOrder sources := by
  induction sources with
  | nil => rfl
  | cons s rest ih =>
    obtain ⟨head, tail⟩ := List.pairwise_cons.mp sorted
    have later := ih tail
    have none {p : Precedence} (weaker : p.rank < s.precedence.rank) : ofKind p rest = [] := by
      apply List.filter_eq_nil_iff.mpr
      intro other member same
      have stronger := head other member
      rw [NoStronger, of_decide_eq_true same] at stronger
      omega
    cases kind : s.precedence with
    | defaults =>
      simp only [inOrder, ofKind_cons, kind, reduceCtorEq, if_true, if_false, List.cons_append]
      exact congrArg (s :: ·) later
    | configFile =>
      have first := none (p := .defaults) (by rw [kind]; decide)
      rw [inOrder, first] at later
      simp only [inOrder, ofKind_cons, kind, reduceCtorEq, if_true, if_false, first]
      exact congrArg (s :: ·) later
    | environment =>
      have first := none (p := .defaults) (by rw [kind]; decide)
      have second := none (p := .configFile) (by rw [kind]; decide)
      rw [inOrder, first, second] at later
      simp only [inOrder, ofKind_cons, kind, reduceCtorEq, if_true, if_false, first, second]
      exact congrArg (s :: ·) later

theorem ordered_eq_inOrder (sources : List ConfigSource) : ordered sources = inOrder sources := by
  rw [eq_inOrder (ordered_pairwise sources), inOrder, inOrder]
  simp only [ofKind_ordered]

/-- With one source of each kind the order given does not matter. -/
theorem inOrder_perm {sources other : List ConfigSource} (same : sources.Perm other)
    (kinds : (sources.map ConfigSource.precedence).Nodup) : inOrder other = inOrder sources := by
  rw [← ordered_eq_inOrder, ← ordered_eq_inOrder]
  have perm : (ordered other).Perm (ordered sources) :=
    (ordered_perm other).trans (same.symm.trans (ordered_perm sources).symm)
  apply perm.eq_of_pairwise _ (ordered_pairwise other) (ordered_pairwise sources)
  intro a b first second lower upper
  have kind := Precedence.eq_of_rank (Nat.le_antisymm lower upper)
  have listed : a ∈ sources := same.mem_iff.mpr ((ordered_perm other).mem_iff.mp first)
  exact List.inj_on_of_nodup_map kinds listed ((ordered_perm sources).mem_iff.mp second) kind

theorem mapM_layer_error {before after : List ConfigSource} {s : ConfigSource} {e : ConfigError}
    (loaded : ∀ earlier ∈ before, ∃ layer, earlier.layer = .ok layer)
    (failed : s.layer = .error e) :
    (before ++ s :: after).mapM ConfigSource.layer = .error e :=
  mapM_error_iff.mpr ⟨before, s, after, rfl, loaded, failed⟩

theorem ofSources_of_loaded {sources : List ConfigSource} {layers : List ConfigLayer}
    (loaded : (inOrder sources).map ConfigSource.layer = layers.map .ok) :
    Config.ofSources sources = (ConfigLayer.mergeAll layers).finalize := by
  rw [Config.ofSources, ordered_eq_inOrder, mapM_ok_iff.mpr loaded]
  rfl

section Loaded

variable {sources : List ConfigSource} {layers : List ConfigLayer}
  (loaded : (inOrder sources).map ConfigSource.layer = layers.map .ok)

include loaded

theorem ofSources_eq_ok_iff {config : Config} :
    Config.ofSources sources = .ok config ↔
      (ConfigLayer.resolved layers).violation? = none ∧ config = ConfigLayer.resolved layers := by
  rw [ofSources_of_loaded loaded, ConfigLayer.finalize_eq_ok_iff, ConfigLayer.complete_mergeAll,
    eq_comm (b := config)]

theorem ofSources_eq_error_iff {e : ConfigError} :
    Config.ofSources sources = .error e ↔
      ∃ v, e = .invalid v ∧ (ConfigLayer.resolved layers).violation? = some v := by
  rw [ofSources_of_loaded loaded, ConfigLayer.finalize_eq_error_iff, ConfigLayer.complete_mergeAll]

end Loaded

/-- What sources in this order come to. -/
structure DecidedInOrder (sources : List ConfigSource) : Prop where
  first_failure : ∀ before s after e, inOrder sources = before ++ s :: after →
    (∀ earlier ∈ before, ∃ layer, earlier.layer = .ok layer) → s.layer = .error e →
      Config.ofSources sources = .error e
  last_setting : ∀ layers, (inOrder sources).map ConfigSource.layer = layers.map .ok →
    (ConfigLayer.mergeAll layers).complete = ConfigLayer.resolved layers ∧
      Config.ofSources sources = (ConfigLayer.mergeAll layers).finalize
  /-- The configuration returned has every field as the last source that sets it, or its default. -/
  returned : ∀ layers, (inOrder sources).map ConfigSource.layer = layers.map .ok → ∀ config,
    Config.ofSources sources = .ok config ↔
      (ConfigLayer.resolved layers).violation? = none ∧ config = ConfigLayer.resolved layers
  refused : ∀ layers, (inOrder sources).map ConfigSource.layer = layers.map .ok → ∀ e,
    Config.ofSources sources = .error e ↔
      ∃ v, e = .invalid v ∧ (ConfigLayer.resolved layers).violation? = some v
  permuted : ∀ other, sources.Perm other → (sources.map ConfigSource.precedence).Nodup →
    Config.ofSources other = Config.ofSources sources
  /-- Neighbours may be merged beforehand. -/
  grouped : ∀ before group after,
    (inOrder sources).map ConfigSource.layer = (before ++ group ++ after).map .ok →
      Config.ofSources sources =
        (ConfigLayer.mergeAll (before ++ ConfigLayer.mergeAll group :: after)).finalize

/-- The first source that fails, or else for each field the last one that sets it, decides what a
list of sources comes to; and merging is associative with the empty layer as its identity. -/
theorem ofSources_decidedInOrder (sources : List ConfigSource) :
    DecidedInOrder sources ∧
    (∀ a b c : ConfigLayer, (a.merge b).merge c = a.merge (b.merge c)) ∧
    ∀ layer : ConfigLayer, layer.merge {} = layer ∧ ConfigLayer.merge {} layer = layer := by
  refine ⟨?_, ConfigLayer.merge_assoc, fun layer => ⟨layer.merge_empty, layer.empty_merge⟩⟩
  constructor
  case first_failure =>
    intro before s after e order loaded failed
    rw [Config.ofSources, ordered_eq_inOrder, order, mapM_layer_error loaded failed]
    rfl
  case last_setting =>
    intro layers loaded
    exact ⟨ConfigLayer.complete_mergeAll layers, ofSources_of_loaded loaded⟩
  case returned =>
    intro layers loaded config
    exact ofSources_eq_ok_iff loaded
  case refused =>
    intro layers loaded e
    exact ofSources_eq_error_iff loaded
  case permuted =>
    intro other same kinds
    rw [Config.ofSources, Config.ofSources, ordered_eq_inOrder, ordered_eq_inOrder,
      inOrder_perm same kinds]
  case grouped =>
    intro before group after loaded
    rw [ofSources_of_loaded loaded, ConfigLayer.mergeAll_group]

end ConfigSource
end MapGate
