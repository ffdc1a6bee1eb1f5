import Mathlib.Algebra.Group.Nat.Defs
import NfsStorage.Proofs.Codec.Resource
import NfsStorage.Resource.Lease

/-!
# Leases as they are written

The times of a lease are written to the microsecond. A lease that was read once is read back from
what is written of it, and all it loses are the digits after those.
-/

namespace NfsStorage

open Json Text

namespace Time

def toMicroseconds (t : Time) : Time := { t with nanosecond := t.nanosecond / 1000 * 1000 }

theorem length_padded {width n : Nat} (digits : (Nat.toDigits 10 n).length ≤ width) :
    (padded width n).length = width := by
  rw [padded, List.length_append, List.length_replicate]
  omega

theorem fraction?_padded {n : Nat} (small : n < 1000000) :
    fraction? ('.' :: padded 6 n ++ ['Z']) = some (n * 1000, ['Z']) := by
  have length : (padded 6 n).length = 6 :=
    length_padded ((Nat.length_toDigits_le_iff (by decide) (by decide)).mpr small)
  have digits : ∀ c ∈ padded 6 n, c.isDigit = true := fun _ => isDigit_of_mem_padded 6 n
  have taken : ((padded 6 n ++ ['Z']).takeWhile (·.isDigit)).take 9 = padded 6 n := by
    rw [takeWhile_padded_append 6 n [] (by decide), List.take_of_length_le (by omega)]
  have rest : (padded 6 n ++ ['Z']).dropWhile (·.isDigit) = ['Z'] := by
    rw [List.dropWhile_append_of_pos digits]
    rfl
  have value : natOfDigits (padded 6 n ++ List.replicate (9 - (padded 6 n).length) '0') =
      n * 1000 := by
    rw [length]
    change Nat.ofDigitChars 10 _ 0 = _
    rw [Nat.ofDigitChars_append, Nat.ofDigitChars_replicate_zero]
    change 10 ^ 3 * natOfDigits (padded 6 n) = _
    rw [natOfDigits_padded]
    omega
  simp [fraction?, taken, rest, value, padded_ne_nil]

/-- Times are written to the microsecond and read back as they were written. -/
theorem parse?_microsecondsText {t : Time} (valid : t.Valid)
    (fraction : t.nanosecond < Moment.perSecond) :
    parse? t.microsecondsText = some t.toMicroseconds := by
  have small : t.nanosecond / 1000 < 1000000 := by
    rw [Moment.perSecond] at fraction
    omega
  exact parse?_clockText valid rfl (by decide) (fraction?_padded small)

theorem natOfDigits_lt {digits : List Char} (each : ∀ c ∈ digits, c.isDigit = true) :
    natOfDigits digits < 10 ^ digits.length := by
  have general : ∀ start, digits.foldl (fun n c => 10 * n + (c.toNat - 48)) start <
      (start + 1) * 10 ^ digits.length := by
    induction digits with
    | nil => simp
    | cons c rest inductionHypothesis =>
        intro start
        have bound : c.toNat ≤ 57 := by
          have digit := each c (List.mem_cons_self ..)
          simp only [Char.isDigit, UInt32.le_iff_toNat_le, Bool.and_eq_true,
            decide_eq_true_eq] at digit
          exact digit.2
        have less : 10 * start + (c.toNat - 48) + 1 ≤ (start + 1) * 10 := by omega
        calc
          _ < (10 * start + (c.toNat - 48) + 1) * 10 ^ rest.length :=
            inductionHypothesis (fun d later => each d (List.mem_cons_of_mem _ later)) _
          _ ≤ (start + 1) * 10 * 10 ^ rest.length := Nat.mul_le_mul_right _ less
          _ = (start + 1) * 10 ^ (c :: rest).length := by
            rw [List.length_cons, Nat.pow_succ, Nat.mul_assoc, Nat.mul_comm 10]
  have bound := general 0
  rwa [Nat.zero_add, Nat.one_mul] at bound

theorem fraction?_lt {text rest : List Char} {nanosecond : Nat}
    (read : fraction? text = some (nanosecond, rest)) : nanosecond < Moment.perSecond := by
  unfold fraction? at read
  split at read
  next after =>
    let digits := (after.takeWhile (·.isDigit)).take 9
    simp only at read
    split at read
    next => cases read
    next =>
      obtain ⟨rfl, -⟩ := Prod.mk.inj (Option.some.inj read)
      have short : digits.length ≤ 9 := List.length_take_le ..
      have each : ∀ c ∈ digits.rightpad 9 '0', c.isDigit = true := by
        intro c there
        rcases List.mem_append.mp there with digit | zero
        · exact List.all_eq_true.mp List.all_takeWhile c (List.mem_of_mem_take digit)
        · rw [(List.mem_replicate.mp zero).2]
          rfl
      have bound := natOfDigits_lt each
      rwa [List.rightpad, List.length_append, List.length_replicate,
        Nat.add_sub_cancel' short] at bound
  next =>
    obtain ⟨rfl, -⟩ := Prod.mk.inj (Option.some.inj read)
    decide

theorem nanosecond_lt_of_parse? {text : String} {t : Time} (read : parse? text = some t) :
    t.nanosecond < Moment.perSecond := by
  simp only [parse?, Option.bind_eq_bind, Option.bind_eq_some_iff] at read
  obtain ⟨year, -, month, -, day, -, read⟩ := read
  split at read
  all_goals
    simp only [Option.bind_some, Option.bind_none, Option.bind_eq_some_iff, reduceCtorEq] at read
  all_goals
    obtain ⟨_, -, _, -, _, -, fraction, fractionRead, _, -, checked⟩ := read
    split at checked
    next =>
      obtain rfl := Option.some.inj checked
      exact fraction?_lt fractionRead
    next => cases checked

end Time

namespace LeaseSpec

/-- The times of the lease are such as a reader finds. -/
def Timed (s : LeaseSpec) : Prop :=
  ∀ t, s.renewTime = some t ∨ s.acquireTime = some t →
    t.time.Valid ∧ t.time.nanosecond < Moment.perSecond

def mapTimes (f : Time → Time) (s : LeaseSpec) : LeaseSpec :=
  { s with
    renewTime := s.renewTime.map fun t => ⟨f t.time⟩
    acquireTime := s.acquireTime.map fun t => ⟨f t.time⟩ }

theorem decode_preciseTime {t : PreciseTime}
    (timed : t.time.Valid ∧ t.time.nanosecond < Moment.perSecond) :
    (decode (encode t) : Option PreciseTime) = some ⟨t.time.toMicroseconds⟩ := by
  change (Time.parse? t.time.microsecondsText).map PreciseTime.mk = _
  rw [Time.parse?_microsecondsText timed.1 timed.2]
  rfl

theorem timed_preciseTime {j : Json} {t : PreciseTime} (read : decode j = some t) :
    t.time.Valid ∧ t.time.nanosecond < Moment.perSecond := by
  cases j with
  | string text =>
      obtain ⟨time, parsed, rfl⟩ := Option.map_eq_some_iff.mp read
      exact ⟨Time.valid_of_parse? parsed, Time.nanosecond_lt_of_parse? parsed⟩
  | _ => exact nomatch read

theorem decode_encode {s : LeaseSpec} (timed : s.Timed) :
    (decode (encode s) : Option LeaseSpec) = some (s.mapTimes Time.toMicroseconds) := by
  simp only [decode, encode, Members.ofJson?, Option.bind_eq_bind, Option.bind_some]
  rw [Members.optional_of_values "holderIdentity" s.holderIdentity (by simp),
    Members.optional_of_reread "renewTime" s.renewTime (by simp) (fun _ _ => Json.noConfusion)
      fun t held => decode_preciseTime (timed t (Or.inl held)),
    Members.optional_of_reread "acquireTime" s.acquireTime (by simp) (fun _ _ => Json.noConfusion)
      fun t held => decode_preciseTime (timed t (Or.inr held)),
    Members.optional_of_values "leaseDurationSeconds" s.leaseDurationSeconds (by simp),
    Members.optional_of_values "leaseTransitions" s.leaseTransitions (by simp),
    Members.optional_of_values "strategy" s.strategy (by simp),
    Members.optional_of_values "preferredHolder" s.preferredHolder (by simp)]
  rfl

theorem encode_mapTimes (s : LeaseSpec) : encode (s.mapTimes Time.toMicroseconds) = encode s := by
  have same (t : PreciseTime) : encode (⟨t.time.toMicroseconds⟩ : PreciseTime) = encode t := by
    change Json.string (t.time.toMicroseconds).microsecondsText = .string t.time.microsecondsText
    rw [Time.microsecondsText, Time.toMicroseconds, Nat.mul_div_cancel _ (by decide)]
    rfl
  have fieldSame (key : String) (time : Option PreciseTime) :
      fieldOf? key (time.map fun t => (⟨t.time.toMicroseconds⟩ : PreciseTime)) =
        fieldOf? key time := by
    cases time with
    | none => rfl
    | some t => exact congrArg (fun value => [(key, value)]) (same t)
  simp only [encode, mapTimes, fieldSame]

theorem timed_of_decode {j : Json} {s : LeaseSpec} (read : decode j = some s) : s.Timed := by
  cases j with
  | object fields =>
      simp only [decode, Members.ofJson?, Option.bind_eq_bind, Option.bind_some,
        Option.bind_eq_some_iff] at read
      obtain ⟨_, -, renew, renewRead, acquire, acquireRead, _, -, _, -, _, -, _, -, made⟩ := read
      obtain rfl := Option.some.inj made
      intro t held
      rcases held with held | held
      · obtain rfl : renew = some t := held
        obtain ⟨_, decoded⟩ := Members.exists_decode_of_optional renewRead
        exact timed_preciseTime decoded
      · obtain rfl : acquire = some t := held
        obtain ⟨_, decoded⟩ := Members.exists_decode_of_optional acquireRead
        exact timed_preciseTime decoded
  | _ => simp [decode, Members.ofJson?] at read

end LeaseSpec

end NfsStorage
