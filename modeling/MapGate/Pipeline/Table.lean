import MapGate.Config.FilterChain
import MapGate.Pipeline.PathPattern
import MapGate.Pipeline.Stage

/-!
Pipeline tables: the declared filter chains compiled for serving requests. Problems never fail a
table; stages that do not resolve, bad patterns and invalid methods are left out of their chain.
-/
namespace MapGate

def isTokenChar (c : Char) : Bool :=
  c.isAlphanum || ['!', '#', '$', '%', '&', '\'', '*', '+', '-', '.', '^', '_', '`', '|', '~'].contains c

/-- The method a configured text names, trimmed and in upper case; `none` when it is no token. -/
def httpMethod? (text : String) : Option String :=
  let cs := (Text.trim text.toList).map Char.toUpper
  if !cs.isEmpty && cs.all isTokenChar then some (String.ofList cs) else none

structure CompiledChain where
  name : String
  patterns : List PathPattern
  methods : Option (List String)
  stages : List Stage
deriving DecidableEq, Repr

namespace CompiledChain

def stageNames (c : CompiledChain) : List String := c.stages.map Stage.name

def isMatch (c : CompiledChain) (path method : String) : Bool :=
  (c.patterns.any fun p => p.isMatch path) &&
    match c.methods with
    | some methods => methods.contains method
    | none => true

end CompiledChain

namespace FilterChain

def stageNames (c : FilterChain) : List String :=
  if c.disabled then []
  else
    (if c.requireSsl then [sslStage] else []) ++
    [sessionStageFor c.allowSessionCreation] ++
    (match c.roleFilterName with
      | some name => if blank name then [] else [trimmed name]
      | none => []) ++
    c.filterNames

def pathPatterns (c : FilterChain) : List PathPattern :=
  (c.patterns.flatMap PathPattern.compileList).filterMap Except.toOption

/-- The methods a chain is restricted to, when method matching is on and methods are given. -/
def restriction (c : FilterChain) : Option (List String) :=
  if c.matchHttpMethod then c.httpMethods.map fun ms => ms.filterMap httpMethod? else none

def compile {σ : Type} (r : Resolver σ) (c : FilterChain) (s : σ) : CompiledChain × σ :=
  let (stages, s) := r.resolveAll c.stageNames s
  (⟨c.name, c.pathPatterns, c.restriction, stages⟩, s)

end FilterChain

structure PipelineTable where
  chains : List CompiledChain
deriving DecidableEq, Repr

namespace PipelineTable

def empty : PipelineTable := ⟨[]⟩

def compileChains {σ : Type} (r : Resolver σ) : List FilterChain → σ → List CompiledChain × σ
  | [], s => ([], s)
  | c :: rest, s =>
    let (chain, s) := c.compile r s
    let (chains, s) := compileChains r rest s
    (chain :: chains, s)

def compile {σ : Type} (r : Resolver σ) (chains : List FilterChain) (s : σ) : PipelineTable × σ :=
  let (compiled, s) := compileChains r chains s
  (⟨compiled⟩, s)

/-- The first chain that matches a request. -/
def lookupChain (t : PipelineTable) (path method : String) : Option CompiledChain :=
  t.chains.find? fun c => c.isMatch path method

def lookup (t : PipelineTable) (path method : String) : Option (List Stage) :=
  (t.lookupChain path method).map CompiledChain.stages

/-- All stages in the order of the chains, with repetitions. -/
def allStages (t : PipelineTable) : List Stage := t.chains.flatMap CompiledChain.stages

/-- Keeps the first stage of each identity that is not among those seen. -/
def distinct (seen : List StageId) : List Stage → List Stage
  | [] => []
  | s :: rest =>
    if seen.contains s.id then distinct seen rest else s :: distinct (s.id :: seen) rest

/-- Every stage instance of the table once, in the order of first use. -/
def uniqueStages (t : PipelineTable) : List Stage := distinct [] t.allStages

def containsStage (t : PipelineTable) (stage : Stage) : Bool :=
  t.allStages.any fun s => s.id == stage.id

end PipelineTable
end MapGate
