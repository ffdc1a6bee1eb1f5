import NfsStorage.Time.Rfc3339

/-!
# Written times are read back

A time on a clock of the calendar is read back from its text to the whole second. Every time that
a reader accepts is on such a clock, so what was read once can be written and read again.
-/

namespace NfsStorage.Time

open Text

/-- A time that a clock shows: on a day of the calendar, with leap seconds. -/
def Valid (t : Time) : Prop :=
  t.date.Valid ∧ t.hour < 24 ∧ t.minute < 60 ∧ t.second ≤ 60

instance (t : Time) : Decidable t.Valid := by unfold Valid; infer_instance

def toSeconds (t : Time) : Time := { t with nanosecond := 0 }

theorem natOfDigits_padded (width n : Nat) : natOfDigits (padded width n) = n := by
  change Nat.ofDigitChars 10 (padded width n) 0 = n
  rw [padded, Nat.ofDigitChars_append, Nat.ofDigitChars_replicate_zero, Nat.mul_zero,
    Nat.ofDigitChars_ten_toDigits]

theorem isDigit_of_mem_padded (width n : Nat) {c : Char} (membership : c ∈ padded width n) :
    c.isDigit = true := by
  rcases List.mem_append.mp membership with zero | digit
  · rw [(List.mem_replicate.mp zero).2]
    rfl
  · exact Nat.isDigit_of_mem_toDigits (by decide) (by decide) digit

theorem padded_ne_nil (width n : Nat) : padded width n ≠ [] := by
  intro empty
  exact Nat.toDigits_ne_nil (List.append_eq_nil_iff.mp empty).2

theorem length_padded_le {width n : Nat} (digits : (Nat.toDigits 10 n).length ≤ width) :
    (padded width n).length ≤ width := by
  rw [padded, List.length_append, List.length_replicate]
  omega

theorem isBlank_eq_false_of_isDigit {c : Char} (digit : c.isDigit = true) : isBlank c = false := by
  have bounds : 48 ≤ c.toNat ∧ c.toNat ≤ 57 := by
    simpa [Char.isDigit, UInt32.le_iff_toNat_le] using digit
  simp [isBlank]
  omega

theorem skipBlank_padded_append (width n : Nat) (rest : List Char) :
    skipBlank (padded width n ++ rest) = padded width n ++ rest := by
  cases shape : padded width n with
  | nil => exact absurd shape (padded_ne_nil width n)
  | cons c digits =>
      have digit : c.isDigit = true :=
        isDigit_of_mem_padded width n (by simp [shape])
      rw [List.cons_append, skipBlank, List.dropWhile_cons_of_neg]
      simp [isBlank_eq_false_of_isDigit digit]

theorem takeWhile_padded_append (width n : Nat) {c : Char} (rest : List Char)
    (ends : c.isDigit = false) :
    (padded width n ++ c :: rest).takeWhile (·.isDigit) = padded width n := by
  rw [List.takeWhile_append_of_pos fun _ membership => isDigit_of_mem_padded width n membership,
    List.takeWhile_cons_of_neg (by simp [ends]), List.append_nil]

theorem number?_padded_append (width n bound : Nat) {c : Char} (rest : List Char)
    (ends : c.isDigit = false) (short : (padded width n).length ≤ bound) :
    number? bound (padded width n ++ c :: rest) = some (n, c :: rest) := by
  have nonempty : (padded width n).isEmpty = false := by simp [padded_ne_nil]
  rw [number?, takeWhile_padded_append width n rest ends, List.take_of_length_le short]
  simp [nonempty, natOfDigits_padded]

theorem partAfter?_padded {separator c : Char} {n : Nat} (rest : List Char)
    (solid : isBlank separator = false) (ends : c.isDigit = false) (small : n < 100) :
    partAfter? separator (separator :: (padded 2 n ++ c :: rest)) = some (n, c :: rest) := by
  rw [partAfter?, skipBlank, List.dropWhile_cons_of_neg (by simp [solid])]
  simp only [↓reduceIte, skipBlank_padded_append]
  have digits : (Nat.toDigits 10 n).length ≤ 2 :=
    (Nat.length_toDigits_le_iff (by decide) (by decide)).mpr small
  exact number?_padded_append 2 n 2 rest ends (length_padded_le digits)

theorem year?_yearText (year : Int) (rest : List Char) :
    year? (yearText year ++ '-' :: rest) = some (year, '-' :: rest) := by
  rw [yearText]
  split
  next plain =>
    have digits : (Nat.toDigits 10 year.toNat).length ≤ 4 :=
      (Nat.length_toDigits_le_iff (by decide) (by decide)).mpr (by omega)
    have short : (padded 4 year.toNat).length ≤ 4 := length_padded_le digits
    rw [year?, skipBlank_padded_append]
    cases shape : padded 4 year.toNat with
    | nil => exact absurd shape (padded_ne_nil 4 year.toNat)
    | cons c digits =>
        have digit : c.isDigit = true :=
          isDigit_of_mem_padded 4 year.toNat (by simp [shape])
        have read := number?_padded_append 4 year.toNat 4 rest (c := '-') rfl short
        rw [shape] at read
        rw [List.cons_append] at read ⊢
        split
        next sign => simp [(List.cons.inj sign).1] at digit
        next sign => simp [(List.cons.inj sign).1] at digit
        next =>
          simp only [read, Option.map_some, Int.toNat_of_nonneg plain.1]
  next signed =>
    have read := number?_padded_append 4 year.natAbs
      (padded 4 year.natAbs ++ '-' :: rest).length rest (c := '-') rfl (by simp)
    by_cases negative : year < 0
    · rw [if_pos negative, List.cons_append, year?, skipBlank,
        List.dropWhile_cons_of_neg (by decide)]
      simp only [read, Option.map_some]
      congr 2
      omega
    · rw [if_neg negative, List.cons_append, year?, skipBlank,
        List.dropWhile_cons_of_neg (by decide)]
      simp only [read, Option.map_some]
      congr 2
      omega

theorem ofLocal_zero {t : Time} (valid : t.Valid) : ofLocal t 0 = t := by
  obtain ⟨-, hourBound, minuteBound, -⟩ := valid
  have early : ¬ ((t.hour * 60 + t.minute : Int) - 0 < 0) := by omega
  have late : ¬ (1440 ≤ (t.hour * 60 + t.minute : Int) - 0) := by omega
  have hourBack : ((t.hour * 60 + t.minute : Int) - 0) % 1440 / 60 = t.hour := by omega
  have ofDay : (((t.hour * 60 + t.minute : Int) - 0) % 1440).toNat = t.hour * 60 + t.minute := by
    omega
  simp only [ofLocal, if_neg early, if_neg late, ofDay]
  have hour : (t.hour * 60 + t.minute) / 60 = t.hour := by omega
  have minute : (t.hour * 60 + t.minute) % 60 = t.minute := by omega
  rw [hour, minute]

/-- What is written of a clock is read back, with the fraction of a second that is read of what is
written of it. -/
theorem parse?_clockText {t : Time} (valid : t.Valid) {fraction rest : List Char} {c : Char}
    {nanosecond : Nat} (shape : fraction ++ ['Z'] = c :: rest) (ends : c.isDigit = false)
    (read : fraction? (c :: rest) = some (nanosecond, ['Z'])) :
    parse? (t.clockText fraction) = some { t with nanosecond } := by
  obtain ⟨dateValid, hourBound, minuteBound, secondBound⟩ := valid
  have monthBound : t.date.month < 100 := by
    have := dateValid.2.2.2.1
    omega
  have dayBound : t.date.day < 100 := by
    have := dateValid.2.2.2.2.2
    have : Date.daysInMonth t.date.year t.date.month ≤ 31 := by
      unfold Date.daysInMonth
      split <;> (try split) <;> omega
    omega
  have hourDigits : (Nat.toDigits 10 t.hour).length ≤ 2 :=
    (Nat.length_toDigits_le_iff (by decide) (by decide)).mpr (by omega)
  have hourText := number?_padded_append 2 t.hour 2 (c := ':')
    (padded 2 t.minute ++ ':' :: (padded 2 t.second ++ c :: rest)) rfl (length_padded_le hourDigits)
  have whole := ofLocal_zero (t := { t with nanosecond })
    ⟨dateValid, hourBound, minuteBound, secondBound⟩
  simp only [parse?, clockText, String.toList_ofList, List.append_assoc, List.cons_append, shape,
    year?_yearText, Option.bind_eq_bind, Option.bind_some]
  rw [partAfter?_padded _ (by decide) (by decide) monthBound]
  simp only [Option.bind_some]
  rw [partAfter?_padded _ (by decide) (by decide) dayBound]
  simp only [Option.bind_some, skipBlank_padded_append, hourText]
  rw [partAfter?_padded _ (by decide) (by decide) (by omega)]
  simp only [Option.bind_some]
  rw [partAfter?_padded _ (by decide) ends (by omega)]
  have offset : offset? (skipBlank ['Z']) = some (0, []) := by decide
  simp only [Option.bind_some, read, offset]
  have same : (⟨⟨t.date.year, t.date.month, t.date.day⟩, t.hour, t.minute, t.second, nanosecond⟩ :
    Time) = { t with nanosecond } := rfl
  rw [same, whole]
  exact if_pos ⟨dateValid, hourBound, minuteBound, secondBound, rfl, dateValid⟩

/-- Times are written to the second and read back as they were written. -/
theorem parse?_secondsText {t : Time} (valid : t.Valid) :
    parse? t.secondsText = some t.toSeconds :=
  parse?_clockText valid (by rfl) (by decide) (by rfl)

theorem valid_of_checked {t u : Time} {ahead : Int} {rest : List Char}
    (checked : (if t.date.Valid ∧ t.hour < 24 ∧ t.minute < 60 ∧ t.second ≤ 60 ∧
      skipBlank rest = [] ∧ (ofLocal t ahead).date.Valid then some (ofLocal t ahead) else none) =
        some u) : u.Valid := by
  split at checked
  next accepted =>
    obtain rfl := Option.some.inj checked
    refine ⟨accepted.2.2.2.2.2, ?_, ?_, accepted.2.2.2.1⟩ <;> simp only [ofLocal] <;> omega
  next => simp at checked

theorem valid_of_parse? {text : String} {t : Time} (read : parse? text = some t) : t.Valid := by
  simp only [parse?, Option.bind_eq_bind, Option.bind_eq_some_iff] at read
  obtain ⟨year, -, month, -, day, -, read⟩ := read
  split at read
  all_goals
    simp only [Option.bind_some, Option.bind_none, Option.bind_eq_some_iff, reduceCtorEq] at read
  all_goals
    obtain ⟨hour, -, minute, -, second, -, fraction, -, offset, -, checked⟩ := read
    exact valid_of_checked
      (t := ⟨⟨year.1, month.1, day.1⟩, hour.1, minute.1, second.1, fraction.1⟩) checked

end NfsStorage.Time
