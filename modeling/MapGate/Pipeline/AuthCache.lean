/-!
A cache of authentication results by stage and key. Every entry has an idle and a live timeout; it
has expired as soon as one of them has run out. Expired entries go when they are read, and a put
sweeps all of them at most once per default idle timeout. Times are milliseconds of a clock that is
read by the caller.
-/
namespace MapGate

structure CachedAuth where
  username : String
  roles : List String
deriving DecidableEq, Repr

structure CacheEntry where
  stage : String
  key : String
  value : CachedAuth
  created : Nat
  lastAccess : Nat
  idle : Nat
  live : Nat
deriving DecidableEq, Repr

def CacheEntry.isExpired (e : CacheEntry) (now : Nat) : Bool :=
  e.live ≤ now - e.created || e.idle ≤ now - e.lastAccess

def CacheEntry.isFor (e : CacheEntry) (stage key : String) : Bool :=
  e.stage == stage && e.key == key

structure AuthCache where
  entries : List CacheEntry := []
  lastSweep : Nat := 0
  defaultIdle : Nat := 300000
  defaultLive : Nat := 600000
deriving DecidableEq, Repr

namespace AuthCache

def size (c : AuthCache) : Nat := c.entries.length

def find? (c : AuthCache) (stage key : String) : Option CacheEntry :=
  c.entries.find? fun e => e.isFor stage key

def remove (c : AuthCache) (stage key : String) : AuthCache :=
  { c with entries := c.entries.filter fun e => !e.isFor stage key }

def removeStage (c : AuthCache) (stage : String) : AuthCache :=
  { c with entries := c.entries.filter fun e => e.stage != stage }

def clear (c : AuthCache) : AuthCache := { c with entries := [] }

def sweep (c : AuthCache) (now : Nat) : AuthCache :=
  { c with entries := c.entries.filter fun e => !e.isExpired now, lastSweep := now }

def evictExpired (c : AuthCache) (now : Nat) : Nat × AuthCache :=
  (c.size - (c.sweep now).size, c.sweep now)

/-- The value of a pair, unless it has expired, which removes it. -/
def get (c : AuthCache) (now : Nat) (stage key : String) : Option CachedAuth × AuthCache :=
  match c.find? stage key with
  | none => (none, c)
  | some e =>
    if e.isExpired now then (none, c.remove stage key)
    else (some e.value,
      { c with entries := c.entries.map fun e =>
          if e.isFor stage key then { e with lastAccess := now } else e })

/-- Stores a value. Absent timeouts are those of the cache. -/
def put (c : AuthCache) (now : Nat) (stage key : String) (value : CachedAuth)
    (idle live : Option Nat) : AuthCache :=
  let swept := if c.defaultIdle ≤ now - c.lastSweep then c.sweep now else c
  let entry : CacheEntry :=
    ⟨stage, key, value, now, now, idle.getD c.defaultIdle, live.getD c.defaultLive⟩
  { (swept.remove stage key) with entries := (swept.remove stage key).entries ++ [entry] }

end AuthCache
end MapGate
