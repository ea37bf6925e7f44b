import DenseMedium.Coefficient.Single

/-!
Sources of random words, and numbers drawn from them.

A source is an infinite sequence of words. Drawing reads the words one after another, and the state
of a drawing is the number of words taken so far.
-/

namespace DenseMedium

/-- The word at each place of a sequence. -/
abbrev WordSource := Nat → UInt32

namespace WordSource

/-- The given words over and over. -/
def cycle (words : Array UInt32) : WordSource := fun n => words.getD (n % words.size) 0

variable {m : Type → Type} [Monad m]

/-- Takes the next word. -/
def next (source : WordSource) : StateT Nat m UInt32 := do
  let taken ← get
  set (taken + 1)
  return source taken

/-- A uniform coefficient in `[0, 1)`; it takes one word. -/
def uniform (source : WordSource) : StateT Nat m Single := return Single.ofRandom (← source.next)

end WordSource

end DenseMedium
