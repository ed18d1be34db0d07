/-!
The source of random numbers: four words of state that are mixed with every number drawn. Equal seeds
give equal numbers.
-/

set_option autoImplicit false

namespace TemplateCalc

structure Random where
  a : UInt64
  b : UInt64
  c : UInt64
  d : UInt64
  deriving DecidableEq, Repr

namespace Random

def seedStep : UInt64 := 0x9e3779b97f4a7c15

def scramble (x : UInt64) : UInt64 :=
  let z := (x ^^^ (x >>> 30)) * 0xbf58476d1ce4e5b9
  let z := (z ^^^ (z >>> 27)) * 0x94d049bb133111eb
  z ^^^ (z >>> 31)

def ofSeed (seed : UInt64) : Random where
  a := scramble (seed + seedStep)
  b := scramble (seed + 2 * seedStep)
  c := scramble (seed + 3 * seedStep)
  d := scramble (seed + 4 * seedStep)

def turn (x n : UInt64) : UInt64 :=
  (x <<< n) ||| (x >>> (64 - n))

def next (r : Random) : UInt64 × Random :=
  let word := turn (r.a + r.d) 23 + r.a
  let shifted := r.b <<< 17
  let c := r.c ^^^ r.a
  let d := r.d ^^^ r.b
  let b := r.b ^^^ c
  let a := r.a ^^^ d
  (word, ⟨a, b, c ^^^ shifted, turn d 45⟩)

end Random

end TemplateCalc
