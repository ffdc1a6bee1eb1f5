import NfsStorage.Text.Base64

/-!
# Base64 is read back

A strict reader gives back the bytes that were written.
-/

namespace NfsStorage.Base64

theorem value?_symbol {n : Nat} (small : n < 64) : value? (symbol n) = some n := by
  have table : ∀ m : Fin 64, value? (symbol m) = some m.val := by decide
  exact table ⟨n, small⟩

theorem symbol_ne_padding {n : Nat} (small : n < 64) : symbol n ≠ '=' := by
  have table : ∀ m : Fin 64, symbol m ≠ '=' := by decide
  exact table ⟨n, small⟩

theorem decodeLast_one (a : UInt8) :
    decodeLast true (symbol (a.toNat * 16 / 64)) (symbol (a.toNat * 16 % 64)) '=' '=' =
      some [a] := by
  have bound := a.toNat_lt
  rw [decodeLast, value?_symbol (by omega), value?_symbol (by omega)]
  have aligned : a.toNat * 16 % 64 % 16 = 0 := by omega
  have value : a.toNat * 16 / 64 * 4 + a.toNat * 16 % 64 / 16 = a.toNat := by omega
  simp only [aligned, value, UInt8.ofNat_toNat, Option.bind_eq_bind, Option.bind_some, ↓reduceIte,
    ne_eq, not_true, decide_false, Bool.and_false, Bool.false_eq_true]

theorem decodeLast_two (a b : UInt8) :
    decodeLast true (symbol ((a.toNat * 256 + b.toNat) * 4 / 4096))
      (symbol ((a.toNat * 256 + b.toNat) * 4 / 64 % 64))
      (symbol ((a.toNat * 256 + b.toNat) * 4 % 64)) '=' = some [a, b] := by
  have first := a.toNat_lt
  have second := b.toNat_lt
  generalize number : a.toNat * 256 + b.toNat = n
  rw [decodeLast, value?_symbol (by omega), value?_symbol (by omega), value?_symbol (by omega)]
  have aligned : n * 4 % 64 % 4 = 0 := by omega
  have value : (n * 4 / 4096 * 64 + n * 4 / 64 % 64) * 16 + n * 4 % 64 / 4 = n := by omega
  have high : n / 256 = a.toNat := by omega
  have low : n % 256 = b.toNat := by omega
  simp [symbol_ne_padding (n := n * 4 % 64) (by omega), aligned, value, high, low]

theorem decodeLast_three (a b c : UInt8) :
    let n := (a.toNat * 256 + b.toNat) * 256 + c.toNat
    decodeLast true (symbol (n / 262144)) (symbol (n / 4096 % 64)) (symbol (n / 64 % 64))
      (symbol (n % 64)) = some [a, b, c] := by
  have first := a.toNat_lt
  have second := b.toNat_lt
  have third := c.toNat_lt
  intro n
  have number : (a.toNat * 256 + b.toNat) * 256 + c.toNat = n := rfl
  rw [decodeLast, value?_symbol (by omega), value?_symbol (by omega), value?_symbol (by omega),
    value?_symbol (by omega)]
  have value :
      ((n / 262144 * 64 + n / 4096 % 64) * 64 + n / 64 % 64) * 64 + n % 64 = n := by omega
  have high : n / 65536 = a.toNat := by omega
  have middle : n / 256 % 256 = b.toNat := by omega
  have low : n % 256 = c.toNat := by omega
  simp [symbol_ne_padding (n := n % 64) (by omega), value, high, middle, low]

theorem decode_encode (bytes : Bytes) : decode (encode bytes) = some bytes := by
  rw [decode]
  induction bytes using encode.induct with
  | case1 => rfl
  | case2 a => exact decodeLast_one a
  | case3 a b => exact decodeLast_two a b
  | case4 a b c rest inductionHypothesis =>
      have group := decodeLast_three a b c
      have filled : symbol (((a.toNat * 256 + b.toNat) * 256 + c.toNat) % 64) ≠ '=' :=
        symbol_ne_padding (by omega)
      rw [encode]
      cases others : encode rest with
      | nil =>
          rw [others] at inductionHypothesis
          obtain rfl : rest = [] := by simpa [decodeGroups, eq_comm] using inductionHypothesis
          exact group
      | cons d more =>
          rw [others] at inductionHypothesis
          simp only [decodeGroups]
          simp only [group, if_neg filled, inductionHypothesis, Option.bind_eq_bind,
            Option.bind_some, List.cons_append, List.nil_append]

end NfsStorage.Base64
