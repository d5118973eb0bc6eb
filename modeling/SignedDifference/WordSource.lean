/-!
# Word sources

An endless sequence of 64-bit words and the number of words taken from it.  Words may come from a
list that is repeated, or from a seed by the SplitMix64 generator, whose `n`-th word depends on the
seed and on `n` alone.
-/

set_option autoImplicit false

namespace SignedDifference

structure WordSource where
  word : Nat → UInt64
  used : Nat

namespace WordSource

def take (source : WordSource) : UInt64 × WordSource :=
  (source.word source.used, { source with used := source.used + 1 })

/-- The words of the list, again and again; zeros if there are none. -/
def cyclic (words : List UInt64) : WordSource :=
  let table := words.toArray
  ⟨fun n => table.getD (n % table.size) 0, 0⟩

def splitMixStep : UInt64 := 0x9E3779B97F4A7C15

def splitMix (state : UInt64) : UInt64 :=
  let x := (state ^^^ (state >>> 30)) * 0xBF58476D1CE4E5B9
  let y := (x ^^^ (x >>> 27)) * 0x94D049BB133111EB
  y ^^^ (y >>> 31)

def seeded (seed : UInt64) : WordSource :=
  ⟨fun n => splitMix (seed + UInt64.ofNat (n + 1) * splitMixStep), 0⟩

end WordSource

end SignedDifference
