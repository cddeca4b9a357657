/-!
Declarations of request filter chains. Each pattern entry may hold several comma separated path
patterns. The methods only count when method matching is on.
-/
namespace MapGate

structure FilterChain where
  name : String
  patterns : List String := []
  httpMethods : Option (List String) := none
  matchHttpMethod : Bool := false
  disabled : Bool := false
  allowSessionCreation : Bool := false
  requireSsl : Bool := false
  roleFilterName : Option String := none
  filterNames : List String := []
deriving DecidableEq, Repr

end MapGate
