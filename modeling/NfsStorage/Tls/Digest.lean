import NfsStorage.Text.Base64

/-!
Digests of 512 bits (SHA-512). The text is cut into blocks of 128 bytes, and each of them stirs a
state of eight words in eighty rounds.
-/

namespace NfsStorage.Tls

namespace Digest

/-- The greatest number of so many bits whose power is at most `n`. -/
def root (power bits n : Nat) : Nat :=
  (List.range bits).reverse.foldl (fun r i =>
    let candidate := r + 1 <<< i
    if Nat.pow candidate power ≤ n then candidate else r) 0

def isPrime (n : Nat) : Bool := 1 < n && (List.range n).all fun d => d < 2 || n % d ≠ 0

def primes : List Nat := (List.range 410).filter isPrime

/-- The first 64 bits after the point of a root of a prime. -/
def fraction (power prime : Nat) : UInt64 :=
  UInt64.ofNat (root power 70 (prime <<< (64 * power)))

structure State where
  a : UInt64
  b : UInt64
  c : UInt64
  d : UInt64
  e : UInt64
  f : UInt64
  g : UInt64
  h : UInt64

namespace State

def initial : State :=
  ⟨fraction 2 2, fraction 2 3, fraction 2 5, fraction 2 7, fraction 2 11, fraction 2 13,
    fraction 2 17, fraction 2 19⟩

def add (s t : State) : State :=
  ⟨s.a + t.a, s.b + t.b, s.c + t.c, s.d + t.d, s.e + t.e, s.f + t.f, s.g + t.g, s.h + t.h⟩

def words (s : State) : List UInt64 := [s.a, s.b, s.c, s.d, s.e, s.f, s.g, s.h]

end State

def rotate (word : UInt64) (count : UInt64) : UInt64 :=
  (word >>> count) ||| (word <<< (64 - count))

def round (s : State) (word constant : UInt64) : State :=
  let choice := (s.e &&& s.f) ^^^ ((s.e ^^^ 0xFFFFFFFFFFFFFFFF) &&& s.g)
  let majority := (s.a &&& s.b) ^^^ (s.a &&& s.c) ^^^ (s.b &&& s.c)
  let first := s.h + (rotate s.e 14 ^^^ rotate s.e 18 ^^^ rotate s.e 41) + choice + constant + word
  let second := (rotate s.a 28 ^^^ rotate s.a 34 ^^^ rotate s.a 39) + majority
  ⟨first + second, s.a, s.b, s.c, s.d + first, s.e, s.f, s.g⟩

/-- More words of a block, each from four before it. The words are given last first. -/
def extend : (count : Nat) → List UInt64 → List UInt64
  | 0, words => words
  | count + 1, words =>
    let before (distance : Nat) : UInt64 := words.getD (distance - 1) 0
    let near := before 2
    let far := before 15
    let word := (rotate near 19 ^^^ rotate near 61 ^^^ (near >>> 6)) + before 7 +
      (rotate far 1 ^^^ rotate far 8 ^^^ (far >>> 7)) + before 16
    extend count (word :: words)

def wordOfBytes (bytes : Bytes) : UInt64 := bytes.foldl (fun word b => word <<< 8 ||| b.toUInt64) 0

def bytesOfWord (word : UInt64) : Bytes :=
  let counts : List UInt64 := [56, 48, 40, 32, 24, 16, 8, 0]
  counts.map fun count => (word >>> count).toUInt8

def block (s : State) (bytes : Bytes) : State :=
  let words := (List.range 16).map fun i => wordOfBytes ((bytes.drop (8 * i)).take 8)
  let all := (extend 64 words.reverse).reverse
  let rounds := all.zip (primes.map (fraction 3))
  s.add (rounds.foldl (fun s (word, constant) => round s word constant) s)

/-- A text is filled up with one bit, with zeros and with its length in bits. -/
def padded (text : Bytes) : Bytes :=
  let zeros := (128 - (text.length + 17) % 128) % 128
  text ++ 0x80 :: List.replicate (zeros + 8) 0 ++ bytesOfWord (UInt64.ofNat (8 * text.length))

def ofText (text : Bytes) : Bytes :=
  let all := padded text
  let blocks := (List.range (all.length / 128)).map fun i => (all.drop (128 * i)).take 128
  (blocks.foldl block .initial).words.flatMap bytesOfWord

end Digest

end NfsStorage.Tls
