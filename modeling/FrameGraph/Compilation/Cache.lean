import FrameGraph.Compilation.Basic

/-!
# Reusing a Compilation

Most frames declare the passes of the frame before, so the last successful
compilation is kept together with what it was made from, and declaring the
same passes again answers with it. A failed compilation leaves what is kept
alone.

That two answers are the same compilation, and not merely equal ones, can
be observed by the caller. Each compilation therefore carries a token.
There is only one compilation of no passes, ever.

## Main definitions

* `Token`: Which compilation this is.
* `Cache`: The last compilation and its source.
* `Cache.compile`: Compile, or reuse.
* `Cache.invalidate`: Forget the last compilation.
-/

namespace FrameGraph

/-- Which compilation an answer is. -/
inductive Token where
  | empty
  | made (serial : Nat)
  deriving DecidableEq, Repr

/-- A compilation with its token and the passes it was made from. -/
structure CacheEntry where
  source : List Pass
  compiled : Compiled
  token : Token
  deriving DecidableEq, Repr

/-- The last successful compilation, and how many were made. -/
structure Cache where
  entry : Option CacheEntry
  made : Nat
  deriving DecidableEq, Repr

/-- The answer of a cache: a compilation, and whether it is a new one. -/
structure CacheAnswer where
  compiled : Compiled
  token : Token
  recompiled : Bool
  deriving DecidableEq, Repr

namespace Cache

/-- A cache that holds nothing. -/
def new : Cache := ⟨none, 0⟩

/-- Forget the last compilation. -/
def invalidate (cache : Cache) : Cache := { cache with entry := none }

/-- The kept compilation, if it was made from these passes. -/
def hit? (cache : Cache) (passes : List Pass) : Option CacheEntry :=
  cache.entry.filter fun entry => entry.source = passes

/-- The token of the next compilation of some passes. -/
def nextToken (cache : Cache) (passes : List Pass) : Token :=
  if passes.isEmpty then .empty else .made cache.made

/-- Compile passes, unless the last compilation was made from them. -/
def compile (cache : Cache) (passes : List Pass) : Cache × Except Error CacheAnswer :=
  match cache.hit? passes with
  | some entry => (cache, .ok ⟨entry.compiled, entry.token, false⟩)
  | none =>
    match FrameGraph.compile passes with
    | .error error => (cache, .error error)
    | .ok compiled =>
      let token := cache.nextToken passes
      (⟨some ⟨passes, compiled, token⟩, cache.made + 1⟩, .ok ⟨compiled, token, true⟩)

/-- What is reported while compiling passes through a cache. -/
def compileLog (cache : Cache) (passes : List Pass) : List LogEntry :=
  if (cache.hit? passes).isSome then [] else FrameGraph.compileLog passes

end Cache

end FrameGraph
