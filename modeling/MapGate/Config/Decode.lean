import MapGate.Config.Layer
import MapGate.Document.Record

/-!
Configuration sections as records of a document.
-/
namespace MapGate

namespace FilterChain

def fieldNames : List String :=
  ["name", "patterns", "http_methods", "match_http_method", "disabled", "allow_session_creation",
    "require_ssl", "role_filter_name", "filter_names"]

variable {δ : Type} [Document δ]

def ofDocument? (d : δ) : Option FilterChain := do
  let r ← Record.ofDocument? fieldNames d
  let name ← r.required? "name" Document.text?
  let patterns ← r.defaulted? "patterns" [] Document.texts?
  let httpMethods ← r.defaulted? "http_methods" none (Document.nullable? Document.texts?)
  let matchHttpMethod ← r.defaulted? "match_http_method" false Document.flag?
  let disabled ← r.defaulted? "disabled" false Document.flag?
  let allowSessionCreation ← r.defaulted? "allow_session_creation" false Document.flag?
  let requireSsl ← r.defaulted? "require_ssl" false Document.flag?
  let roleFilterName ← r.defaulted? "role_filter_name" none (Document.nullable? Document.text?)
  let filterNames ← r.defaulted? "filter_names" [] Document.texts?
  return ⟨name, patterns, httpMethods, matchHttpMethod, disabled, allowSessionCreation,
    requireSsl, roleFilterName, filterNames⟩

def toJson (c : FilterChain) : Json :=
  .record (
    [("name", .ofString c.name), ("patterns", .strings c.patterns)] ++
    (match c.httpMethods with
      | some methods => [("http_methods", .strings methods)]
      | none => []) ++
    [("match_http_method", .bool c.matchHttpMethod), ("disabled", .bool c.disabled),
      ("allow_session_creation", .bool c.allowSessionCreation),
      ("require_ssl", .bool c.requireSsl)] ++
    (match c.roleFilterName with
      | some name => [("role_filter_name", .ofString name)]
      | none => []) ++
    [("filter_names", .strings c.filterNames)])

end FilterChain

namespace BruteForceLayer

def fieldNames : List String :=
  ["enabled", "min_delay_ms", "max_delay_ms", "max_blocked_threads", "whitelist"]

variable {δ : Type} [Document δ]

def ofDocument? (d : δ) : Option BruteForceLayer := do
  let r ← Record.ofDocument? fieldNames d
  let enabled ← r.optional? "enabled" Document.flag?
  let minDelay ← r.optional? "min_delay_ms" Document.word64?
  let maxDelay ← r.optional? "max_delay_ms" Document.word64?
  let maxBlocked ← r.optional? "max_blocked_threads" Document.word32?
  let whitelist ← r.optional? "whitelist" Document.texts?
  return ⟨enabled, minDelay, maxDelay, maxBlocked, whitelist⟩

def toJson (l : BruteForceLayer) : Json :=
  .record [
    ("enabled", .optional .bool l.enabled),
    ("min_delay_ms", .optional .ofWord64 l.minDelay),
    ("max_delay_ms", .optional .ofWord64 l.maxDelay),
    ("max_blocked_threads", .optional .ofWord32 l.maxBlocked),
    ("whitelist", .optional .strings l.whitelist)]

end BruteForceLayer

namespace BruteForceConfig

variable {δ : Type} [Document δ]

def ofDocument? (d : δ) : Option BruteForceConfig := do
  let r ← Record.ofDocument? BruteForceLayer.fieldNames d
  let enabled ← r.required? "enabled" Document.flag?
  let minDelay ← r.required? "min_delay_ms" Document.word64?
  let maxDelay ← r.required? "max_delay_ms" Document.word64?
  let maxBlocked ← r.required? "max_blocked_threads" Document.word32?
  let whitelist ← r.required? "whitelist" Document.texts?
  return ⟨enabled, minDelay, maxDelay, maxBlocked, whitelist⟩

def toJson (c : BruteForceConfig) : Json :=
  .record [
    ("enabled", .bool c.enabled),
    ("min_delay_ms", .ofWord64 c.minDelay),
    ("max_delay_ms", .ofWord64 c.maxDelay),
    ("max_blocked_threads", .ofWord32 c.maxBlocked),
    ("whitelist", .strings c.whitelist)]

end BruteForceConfig

namespace LoggingLayer

def fieldNames : List String := ["level", "json"]

variable {δ : Type} [Document δ]

def ofDocument? (d : δ) : Option LoggingLayer := do
  let r ← Record.ofDocument? fieldNames d
  let level ← r.optional? "level" Document.text?
  let json ← r.optional? "json" Document.flag?
  return ⟨level, json⟩

def toJson (l : LoggingLayer) : Json :=
  .record [("level", .optional .ofString l.level), ("json", .optional .bool l.json)]

end LoggingLayer

namespace LoggingConfig

variable {δ : Type} [Document δ]

def ofDocument? (d : δ) : Option LoggingConfig := do
  let r ← Record.ofDocument? LoggingLayer.fieldNames d
  let level ← r.required? "level" Document.text?
  let json ← r.required? "json" Document.flag?
  return ⟨level, json⟩

def toJson (c : LoggingConfig) : Json :=
  .record [("level", .ofString c.level), ("json", .bool c.json)]

end LoggingConfig

namespace ConfigLayer

def fieldNames : List String := ["brute_force", "logging", "filter_chains"]

variable {δ : Type} [Document δ]

def ofDocument? (d : δ) : Option ConfigLayer := do
  let r ← Record.ofDocument? fieldNames d
  let bruteForce ← r.optional? "brute_force" BruteForceLayer.ofDocument?
  let logging ← r.optional? "logging" LoggingLayer.ofDocument?
  let filterChains ← r.optional? "filter_chains" (Document.list? FilterChain.ofDocument?)
  return ⟨bruteForce, logging, filterChains⟩

def toJson (l : ConfigLayer) : Json :=
  .record [
    ("brute_force", .optional BruteForceLayer.toJson l.bruteForce),
    ("logging", .optional LoggingLayer.toJson l.logging),
    ("filter_chains", .optional (fun chains => .array (chains.map FilterChain.toJson))
      l.filterChains)]

end ConfigLayer

namespace Config

def toJson (c : Config) : Json :=
  .record [
    ("brute_force", c.bruteForce.toJson),
    ("logging", c.logging.toJson),
    ("filter_chains", .array (c.filterChains.map FilterChain.toJson))]

end Config
end MapGate
