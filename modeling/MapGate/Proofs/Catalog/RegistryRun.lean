import MapGate.Catalog.RegistryManager

/-!
Runs of a registry. Accesses and resets come in any order, and the loader's answer may change from
one consultation to the next. The resets cut a run into stretches. The loader is called once for
each stretch that has an access, and what it returns to the first access answers the whole stretch.
-/
namespace MapGate.Catalog

/-- What a registry can be asked, itself or through a manager in front of a delegate. A delegate
that consults the same registry makes accesses of its own. -/
inductive FilterRequest where
  | filters
  | isHidden (e : Entity)
  | combinedFilter (kind : EntityKind) (delegate : Predicate)
  | limits (delegate : AccessManager) (caller : Caller) (e : Entity)
  | securityFilter (delegate : AccessManager) (caller : Caller) (kind : EntityKind)

/-- A request, with what the loader would answer at each consultation that it takes. -/
structure FilterAccess where
  request : FilterRequest
  answers : Nat → List Filter

inductive RegistryEvent where
  | access (a : FilterAccess)
  | reset

inductive FilterAnswer where
  | list (filters : List Filter)
  | hidden (verdict : Bool)
  | limits (limits : Option Limits)
  | predicate (p : Predicate)

def FilterRequest.under (list : List Filter) : FilterRequest → FilterAnswer
  | filters => .list list
  | isHidden e => .hidden (hiddenBy list e)
  | combinedFilter kind delegate => .predicate (restrict list kind delegate)
  | limits delegate caller e => .limits ((delegate.filtered list).limits caller e)
  | securityFilter delegate caller kind =>
    .predicate ((delegate.filtered list).securityFilter caller kind)

namespace Registry

def access (r : Registry) (a : FilterAccess) : FilterAnswer × Registry :=
  match a.request with
  | .filters => (r.filters (a.answers 0)).map .list id
  | .isHidden e => (r.isHidden (a.answers 0) e).map .hidden id
  | .combinedFilter kind delegate =>
    (r.combinedFilter (a.answers 0) kind delegate).map .predicate id
  | .limits delegate caller e => (r.limits a.answers delegate caller e).map .limits id
  | .securityFilter delegate caller kind =>
    (r.securityFilter a.answers delegate caller kind).map .predicate id

def step (r : Registry) : RegistryEvent → Registry
  | .access a => (r.access a).2
  | .reset => r.reset

def run (r : Registry) (events : List RegistryEvent) : Registry := events.foldl step r

def responses (r : Registry) : List RegistryEvent → List FilterAnswer
  | [] => []
  | .access a :: rest => (r.access a).1 :: (r.access a).2.responses rest
  | .reset :: rest => r.reset.responses rest

variable {r : Registry} {list : List Filter}

theorem filters_of_loaded (loaded : r.loaded = some list) (answer : List Filter) :
    r.filters answer = (list, r) := by
  rw [filters, loaded]

theorem filters_of_forgotten (forgotten : r.loaded = none) (answer : List Filter) :
    r.filters answer = (answer, ⟨some answer, r.loads + 1⟩) := by
  rw [filters, forgotten]

theorem loaded_filters (r : Registry) (answer : List Filter) :
    (r.filters answer).2.loaded = some (r.filters answer).1 := by
  unfold filters
  split
  case h_1 list loaded => exact loaded
  case h_2 forgotten => rfl

theorem isAnyHidden_of_loaded (loaded : r.loaded = some list) (answers : Nat → List Filter)
    (entities : List Entity) :
    r.isAnyHidden answers entities = (entities.any (hiddenBy list), r) := by
  induction entities generalizing answers with
  | nil => rfl
  | cons e rest ih =>
    rw [isAnyHidden, isHidden, filters_of_loaded loaded]
    cases hidden : hiddenBy list e with
    | true => simp [hidden]
    | false => simp [hidden, ih]

theorem isAnyHidden_cons (r : Registry) (answers : Nat → List Filter) (e : Entity)
    (rest : List Entity) :
    r.isAnyHidden answers (e :: rest) =
      ((e :: rest).any (hiddenBy (r.filters (answers 0)).1), (r.filters (answers 0)).2) := by
  -- after the first consultation the registry holds a list, whatever it held before
  have later := isAnyHidden_of_loaded (loaded_filters r (answers 0)) (fun n => answers (n + 1)) rest
  rw [isAnyHidden, isHidden]
  cases hidden : hiddenBy (r.filters (answers 0)).1 e with
  | true => simp [hidden]
  | false => simp [hidden, later]

theorem veto_cons {α : Type} (r : Registry) (answers : Nat → List Filter) (e : Entity)
    (rest : List Entity) (hidden : α) (shown : Option α) :
    r.veto answers (e :: rest) hidden shown =
      (if (e :: rest).any (hiddenBy (r.filters (answers 0)).1) then some hidden else shown,
        (r.filters (answers 0)).2) := by
  rw [veto, isAnyHidden_cons]

theorem limits_eq (r : Registry) (answers : Nat → List Filter) (delegate : AccessManager)
    (caller : Caller) (e : Entity) : r.limits answers delegate caller e =
      ((delegate.filtered (r.filters (answers 0)).1).limits caller e,
        (r.filters (answers 0)).2) := by
  cases e with
  | layer l => simp [limits, layerLimits, veto_cons, AccessManager.limits, AccessManager.filtered]
  | resource resource =>
    simp [limits, resourceLimits, veto_cons, AccessManager.limits, AccessManager.filtered]
  | workspace w =>
    simp [limits, workspaceLimits, veto_cons, AccessManager.limits, AccessManager.filtered]
  | style s => simp [limits, styleLimits, veto_cons, AccessManager.limits, AccessManager.filtered]
  | layerGroup g =>
    simp [limits, layerGroupLimits, veto_cons, AccessManager.limits, AccessManager.filtered]

/-- An access is answered under the filters in force, and leaves the registry as one look at them
does. -/
theorem access_eq (r : Registry) (a : FilterAccess) :
    r.access a =
      (a.request.under (r.filters (a.answers 0)).1, (r.filters (a.answers 0)).2) := by
  unfold access
  cases a.request with
  | limits delegate caller e =>
    dsimp only
    rw [limits_eq]
    rfl
  | filters | isHidden | combinedFilter | securityFilter => rfl

end Registry

/-- The accesses of a run, cut at its resets. -/
def stretches : List RegistryEvent → List (List FilterAccess)
  | [] => [[]]
  | .access a :: rest => (stretches rest).modifyHead (a :: ·)
  | .reset :: rest => [] :: stretches rest

/-- The answers of a stretch, all under the list that the loader would return to its first access. -/
def answeredTogether : List FilterAccess → List FilterAnswer
  | [] => []
  | first :: rest => (first :: rest).map fun a => a.request.under (first.answers 0)

theorem stretches_ne_nil (events : List RegistryEvent) : stretches events ≠ [] := by
  induction events with
  | nil => simp [stretches]
  | cons event rest ih =>
    cases event with
    | access a => simpa [stretches] using ih
    | reset => simp [stretches]

namespace Registry

/-- How a run goes on from a registry: one that holds a list answers the rest of the present stretch
by it, and one that holds none loads for the present stretch as for the later ones. -/
structure GoesOn (r : Registry) (events : List RegistryEvent) : Prop where
  forgotten : r.loaded = none →
    (r.run events).loads = r.loads + (stretches events).countP (!·.isEmpty) ∧
      r.responses events = (stretches events).flatMap answeredTogether
  loaded : ∀ list, r.loaded = some list → ∀ present later, stretches events = present :: later →
    (r.run events).loads = r.loads + later.countP (!·.isEmpty) ∧
      r.responses events = present.map (·.request.under list) ++ later.flatMap answeredTogether

namespace GoesOn

variable {r : Registry} {rest : List RegistryEvent}

theorem nil (r : Registry) : r.GoesOn [] := by
  constructor
  case forgotten =>
    intro _
    exact ⟨rfl, rfl⟩
  case loaded =>
    intro list _ present later cut
    obtain ⟨rfl, rfl⟩ := List.cons.inj cut
    exact ⟨rfl, rfl⟩

theorem access {a : FilterAccess} (after : (r.access a).2.GoesOn rest) :
    r.GoesOn (.access a :: rest) := by
  obtain ⟨present, later, cut⟩ := List.exists_cons_of_ne_nil (stretches_ne_nil rest)
  have cut_access : stretches (.access a :: rest) = (a :: present) :: later := by
    rw [stretches, cut, List.modifyHead_cons]
  have first : (r.access a).1 = a.request.under (r.filters (a.answers 0)).1 := by rw [access_eq]
  have state : (r.access a).2 = (r.filters (a.answers 0)).2 := by rw [access_eq]
  have run_access : r.run (.access a :: rest) = (r.filters (a.answers 0)).2.run rest := by
    rw [← state]
    rfl
  have responses_access : r.responses (.access a :: rest) =
      (r.access a).1 :: (r.filters (a.answers 0)).2.responses rest := by
    rw [← state]
    rfl
  rw [state] at after
  obtain ⟨loads, answered⟩ := after.loaded _ (loaded_filters r _) present later cut
  rw [← run_access] at loads
  rw [answered, first] at responses_access
  constructor
  case forgotten =>
    intro forgotten
    rw [filters_of_forgotten forgotten] at loads responses_access
    dsimp only at loads
    rw [loads, responses_access, cut_access, List.countP_cons_of_pos rfl]
    exact ⟨by omega, rfl⟩
  case loaded =>
    intro list loaded before others same
    rw [cut_access] at same
    obtain ⟨rfl, rfl⟩ := List.cons.inj same
    rw [filters_of_loaded loaded] at loads responses_access
    exact ⟨loads, responses_access⟩

theorem reset (after : r.reset.GoesOn rest) : r.GoesOn (.reset :: rest) := by
  -- a reset ends a stretch whether it was answered by a list or not
  obtain ⟨loads, answered⟩ := after.forgotten rfl
  constructor
  case forgotten =>
    intro _
    exact ⟨loads, answered⟩
  case loaded =>
    intro list _ present later cut
    obtain ⟨rfl, rfl⟩ := List.cons.inj cut
    exact ⟨loads, answered⟩

end GoesOn

theorem goesOn (r : Registry) (events : List RegistryEvent) : r.GoesOn events := by
  induction events generalizing r with
  | nil => exact .nil r
  | cons event rest ih =>
    cases event with
    | access a => exact .access (ih _)
    | reset => exact .reset (ih _)

end Registry

/-- In every run of a registry the loader is called exactly once for each stretch between resets
that has an access, and all accesses of a stretch are answered under the list that it returned at
the first one. As this holds of every part of a run from its start, the calls are made at those
first accesses. -/
theorem loaded_once_per_stretch (events : List RegistryEvent) :
    (Registry.run {} events).loads = (stretches events).countP (!·.isEmpty) ∧
      Registry.responses {} events = (stretches events).flatMap answeredTogether := by
  obtain ⟨loads, answered⟩ := (Registry.goesOn {} events).forgotten rfl
  rw [Nat.zero_add] at loads
  exact ⟨loads, answered⟩

/-- A loader that begins to hide the resource between the two consultations for a layer. -/
example :
    let vault : Filter := { name := "vault", hideResource := some fun _ => true }
    let layer : Layer := .ofResource ⟨"plans", "vault", .coverage⟩
    let a : FilterAccess :=
      ⟨.limits .allowAll {} (.layer layer), fun n => if n = 0 then [] else [vault]⟩
    Registry.responses {} [.access a, .reset] = [.limits none] := rfl

end MapGate.Catalog
