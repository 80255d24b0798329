import ServiceHost.Runs
import ServiceHost.Tls.Octets

/-!
The digest of 512 bits. A message is padded to whole blocks of sixteen words; each block is stretched to
a schedule of eighty words, which are mixed into eight words of state one after the other.
-/

namespace ServiceHost.Tls.Digest

/-- The fractional parts of the cube roots of the first eighty primes. -/
def roundConstants : List UInt64 :=
   [0x428A2F98D728AE22, 0x7137449123EF65CD, 0xB5C0FBCFEC4D3B2F, 0xE9B5DBA58189DBBC, 0x3956C25BF348B538,
    0x59F111F1B605D019, 0x923F82A4AF194F9B, 0xAB1C5ED5DA6D8118, 0xD807AA98A3030242, 0x12835B0145706FBE,
    0x243185BE4EE4B28C, 0x550C7DC3D5FFB4E2, 0x72BE5D74F27B896F, 0x80DEB1FE3B1696B1, 0x9BDC06A725C71235,
    0xC19BF174CF692694, 0xE49B69C19EF14AD2, 0xEFBE4786384F25E3, 0xFC19DC68B8CD5B5, 0x240CA1CC77AC9C65,
    0x2DE92C6F592B0275, 0x4A7484AA6EA6E483, 0x5CB0A9DCBD41FBD4, 0x76F988DA831153B5, 0x983E5152EE66DFAB,
    0xA831C66D2DB43210, 0xB00327C898FB213F, 0xBF597FC7BEEF0EE4, 0xC6E00BF33DA88FC2, 0xD5A79147930AA725,
    0x6CA6351E003826F, 0x142929670A0E6E70, 0x27B70A8546D22FFC, 0x2E1B21385C26C926, 0x4D2C6DFC5AC42AED,
    0x53380D139D95B3DF, 0x650A73548BAF63DE, 0x766A0ABB3C77B2A8, 0x81C2C92E47EDAEE6, 0x92722C851482353B,
    0xA2BFE8A14CF10364, 0xA81A664BBC423001, 0xC24B8B70D0F89791, 0xC76C51A30654BE30, 0xD192E819D6EF5218,
    0xD69906245565A910, 0xF40E35855771202A, 0x106AA07032BBD1B8, 0x19A4C116B8D2D0C8, 0x1E376C085141AB53,
    0x2748774CDF8EEB99, 0x34B0BCB5E19B48A8, 0x391C0CB3C5C95A63, 0x4ED8AA4AE3418ACB, 0x5B9CCA4F7763E373,
    0x682E6FF3D6B2B8A3, 0x748F82EE5DEFB2FC, 0x78A5636F43172F60, 0x84C87814A1F0AB72, 0x8CC702081A6439EC,
    0x90BEFFFA23631E28, 0xA4506CEBDE82BDE9, 0xBEF9A3F7B2C67915, 0xC67178F2E372532B, 0xCA273ECEEA26619C,
    0xD186B8C721C0C207, 0xEADA7DD6CDE0EB1E, 0xF57D4F7FEE6ED178, 0x6F067AA72176FBA, 0xA637DC5A2C898A6,
    0x113F9804BEF90DAE, 0x1B710B35131C471B, 0x28DB77F523047D84, 0x32CAAB7B40C72493, 0x3C9EBE0A15C9BEBC,
    0x431D67C49C100D4C, 0x4CC5D4BECB3E42B6, 0x597F299CFC657E2A, 0x5FCB6FAB3AD6FAEC, 0x6C44198C4A475817]

/-- Eight words, which are mixed and in the end are the digest. -/
structure State where
  a : UInt64
  b : UInt64
  c : UInt64
  d : UInt64
  e : UInt64
  f : UInt64
  g : UInt64
  h : UInt64
  deriving DecidableEq, Repr

namespace State

/-- The fractional parts of the square roots of the first eight primes. -/
def initial : State where
  a := 0x6A09E667F3BCC908
  b := 0xBB67AE8584CAA73B
  c := 0x3C6EF372FE94F82B
  d := 0xA54FF53A5F1D36F1
  e := 0x510E527FADE682D1
  f := 0x9B05688C2B3E6C1F
  g := 0x1F83D9ABFB41BD6B
  h := 0x5BE0CD19137E2179

/-- The words in order. -/
def words (state : State) : List UInt64 :=
  [state.a, state.b, state.c, state.d, state.e, state.f, state.g, state.h]

/-- The sum of two states, word by word. -/
def add (first second : State) : State where
  a := first.a + second.a
  b := first.b + second.b
  c := first.c + second.c
  d := first.d + second.d
  e := first.e + second.e
  f := first.f + second.f
  g := first.g + second.g
  h := first.h + second.h

end State

/-- A word turned to the right by a number of bits. -/
def turned (word count : UInt64) : UInt64 :=
  (word >>> count) ||| (word <<< (64 - count))

/-- The words of a schedule, of which the latest comes first, with further ones. -/
def stretch (further : Nat) (words : List UInt64) : List UInt64 :=
  match further with
  | 0 => words
  | further + 1 =>
    let before (count : Nat) : UInt64 := words.getD (count - 1) 0
    let far := turned (before 15) 1 ^^^ turned (before 15) 8 ^^^ (before 15 >>> 7)
    let near := turned (before 2) 19 ^^^ turned (before 2) 61 ^^^ (before 2 >>> 6)
    stretch further ((before 16 + far + before 7 + near) :: words)

/-- The schedule of a block of sixteen words. -/
def schedule (block : List UInt64) : List UInt64 :=
  (stretch 64 block.reverse).reverse

/-- Mixes a word, already added to its constant, into the state. -/
def mix (state : State) (word : UInt64) : State :=
  let rise := turned state.e 14 ^^^ turned state.e 18 ^^^ turned state.e 41
  let choice := (state.e &&& state.f) ^^^ (~~~state.e &&& state.g)
  let fresh := state.h + rise + choice + word
  let fall := turned state.a 28 ^^^ turned state.a 34 ^^^ turned state.a 39
  let majority := (state.a &&& state.b) ^^^ (state.a &&& state.c) ^^^ (state.b &&& state.c)
  ⟨fresh + fall + majority, state.a, state.b, state.c, state.d + fresh, state.e, state.f, state.g⟩

/-- Mixes a block into the state. -/
def absorb (state : State) (block : List UInt64) : State :=
  state.add ((List.zipWith (· + ·) (schedule block) roundConstants).foldl mix state)

/-- A message with a single bit, zeros and its length in bits behind it, in whole blocks. -/
def padded (message : Bytes) : Bytes :=
  let zeros := 127 - (message.length + 16) % 128
  message ++ 128 :: List.replicate zeros 0 ++ octets 16 (8 * message.length)

/-- The digest of a message. -/
def digest (message : Bytes) : Bytes :=
  let words := (runs 8 (padded message)).map fun word => UInt64.ofNat (natural word)
  let state := (runs 16 words).foldl absorb State.initial
  state.words.flatMap fun word => octets 8 word.toNat

end ServiceHost.Tls.Digest
