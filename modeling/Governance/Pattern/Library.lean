/-!
# Libraries of patterns

Patterns are compiled and matched by a library that is not part of the program. A `Library` is what
the program uses of it, and `build_mono` all that is relied on. Everything that compiles or matches
a pattern takes the library as an instance, so that what is proved holds whichever library is used.
-/

namespace Governance.Pattern

/-- Why a library does not build a pattern. -/
inductive BuildError
  /-- The compiled pattern would pass the size limit. -/
  | tooBig
  /-- The pattern is not one of the library's language; `message` says where it goes wrong. -/
  | malformed (message : String)
deriving DecidableEq

/-- A library that compiles patterns under a limit on their size, and matches texts. What `build`
gives depends on the `pattern` and the `sizeLimit` alone, and what `isMatch` says on the compiled
pattern and the text. -/
class Library where
  /-- Compiled patterns. -/
  Program : Type
  build (pattern : String) (sizeLimit : Nat) : Except BuildError Program
  /-- Whether the pattern matches somewhere in the text. -/
  isMatch (program : Program) (text : String) : Bool
  /-- A pattern that is built under a limit is built under every larger one. -/
  build_mono {pattern : String} {sizeLimit larger : Nat} (hle : sizeLimit ≤ larger)
    (h : ∃ program, build pattern sizeLimit = .ok program) :
    ∃ program, build pattern larger = .ok program

end Governance.Pattern
