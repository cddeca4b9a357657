/-!
The authenticated caller for whom access is decided.
-/
namespace MapGate

structure Caller where
  username : Option String := none
  roles : List String := []
deriving DecidableEq, Repr

namespace Caller

def isAnonymous (c : Caller) : Bool := c.username.isNone

def hasRole (c : Caller) (role : String) : Bool := c.roles.contains role

end Caller
end MapGate
