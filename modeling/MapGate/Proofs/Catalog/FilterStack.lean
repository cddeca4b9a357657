import MapGate.Catalog.AccessManager

/-!
Filtered access managers inside each other. What a stack of them answers depends on its filters
alone and not on how they are spread over its levels: it is the manager with all filters in one
list, those of the innermost level first.
-/
namespace MapGate.Catalog

theorem hiddenBy_append (inner outer : List Filter) (e : Entity) :
    hiddenBy (inner ++ outer) e = (hiddenBy inner e || hiddenBy outer e) :=
  List.any_append

theorem restrict_append (inner outer : List Filter) (kind : EntityKind) (delegate : Predicate) :
    restrict (inner ++ outer) kind delegate = restrict outer kind (restrict inner kind delegate) :=
  List.foldl_append

/-- Two vetoes with the same outcome, the outer one asked first, are one veto. -/
theorem veto_twice {α : Type} (outer inner : Bool) (hidden shown : α) :
    (if outer then hidden else if inner then hidden else shown) =
      if inner || outer then hidden else shown := by
  cases outer <;> cases inner <;> rfl

/-- A layer is vetoed by its own hook and by its resource's; the hooks of two levels trade places. -/
theorem layer_hiddenBy_append (inner outer : List Filter) (l : Layer) :
    (hiddenBy (inner ++ outer) (.layer l) || hiddenBy (inner ++ outer) (.resource l.resource)) =
      ((hiddenBy inner (.layer l) || hiddenBy inner (.resource l.resource)) ||
        (hiddenBy outer (.layer l) || hiddenBy outer (.resource l.resource))) := by
  rw [hiddenBy_append, hiddenBy_append, Bool.or_assoc,
    Bool.or_left_comm (hiddenBy outer (.layer l)), ← Bool.or_assoc]

namespace AccessManager

theorem filtered_nil (delegate : AccessManager) : filtered [] delegate = delegate := rfl

theorem filtered_filtered (outer inner : List Filter) (delegate : AccessManager) :
    filtered outer (filtered inner delegate) = filtered (inner ++ outer) delegate := by
  unfold filtered
  congr 1
  case e_workspaceLimits =>
    funext caller w
    rw [hiddenBy_append]
    exact veto_twice ..
  case e_layerLimits =>
    funext caller l
    rw [layer_hiddenBy_append]
    exact veto_twice ..
  case e_resourceLimits =>
    funext caller r
    rw [hiddenBy_append]
    exact veto_twice ..
  case e_styleLimits =>
    funext caller s
    rw [hiddenBy_append]
    exact veto_twice ..
  case e_layerGroupLimits =>
    funext caller g
    rw [hiddenBy_append]
    exact veto_twice ..
  case e_securityFilter =>
    funext caller kind
    exact (restrict_append ..).symm

/-- Filtered managers inside each other, the lists of their filters from the innermost level on. -/
def stack (delegate : AccessManager) : List (List Filter) → AccessManager
  | [] => delegate
  | filters :: outer => stack (filtered filters delegate) outer

/-- A stack of any depth answers every request as the one manager with all its filters does. -/
theorem stack_eq_filtered (delegate : AccessManager) (levels : List (List Filter)) :
    stack delegate levels = filtered levels.flatten delegate := by
  induction levels generalizing delegate with
  | nil => rw [stack, List.flatten_nil, filtered_nil]
  | cons filters outer ih => rw [stack, ih, filtered_filtered, List.flatten_cons]

end AccessManager
end MapGate.Catalog
