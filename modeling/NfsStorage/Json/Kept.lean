import NfsStorage.Proofs.Codec.Schema

/-!
Values that are carried along: of a record that nothing looks into, what is kept is what is written of
it.
-/

namespace NfsStorage.Json

/-- A value of a schema, by what is written of it. -/
structure Kept (s : Schema) where
  json : Json
  again : s.rewrite json = some json
deriving DecidableEq

namespace Kept

section

variable {s : Schema} [s.Proper]

def ofJson? (j : Json) : Option (Kept s) :=
  (s.rewrite j).pmap Kept.mk fun _ => s.rewrite_rewrite Schema.Proper.isProper

instance : JsonCodec (Kept s) where
  decode := ofJson?
  encode := json

instance : Inhabited (Kept s) := ⟨⟨s.empty, s.rewrite_empty Schema.Proper.isProper⟩⟩

instance : Shaped (Kept s) := ⟨s.toShape⟩

theorem ofJson?_eq_some_iff {j : Json} {kept : Kept s} :
    ofJson? j = some kept ↔ s.rewrite j = some kept.json := by
  refine Option.pmap_eq_some_iff.trans ⟨?_, fun read => ⟨_, kept.again, read, rfl⟩⟩
  rintro ⟨_, -, read, rfl⟩
  exact read

instance : LawfulCodec (Kept s) where
  decode_encode kept := ofJson?_eq_some_iff.mpr kept.again
  encode_ne_null kept := s.ne_null_of_rewrite kept.again

end

end Kept

/-- Fields of a record that stand beside others. -/
abbrev Rest (known : List Schema.Field) := Kept (.object known)

namespace Rest

variable {known : List Schema.Field}

def fields (rest : Rest known) : List (String × Json) := rest.json.fields

variable [proper : (Schema.object known).Proper]

theorem written_fields (rest : Rest known) :
    rest.json = .object rest.fields ∧ Schema.Written known rest.fields := by
  obtain ⟨json, again⟩ := rest
  cases json <;> simp only [Schema.rewrite, reduceCtorEq] at again
  obtain ⟨fields, read, made⟩ := Option.map_eq_some_iff.mp again
  have isProper := proper.isProper
  rw [Schema.isProper, Bool.and_eq_true] at isProper
  cases made
  exact ⟨rfl, Schema.written_of_rewriteFields known isProper.2 read⟩

theorem valuesAt_fields_of_unknown (rest : Rest known) {key : String}
    (unknown : key ∉ known.map (·.1)) : valuesAt rest.fields key = [] :=
  rest.written_fields.2.valuesAt_eq_nil unknown

/-- What stands beside others is read again from any fields of which its own are as they were
written. -/
theorem ofJson?_of_values (rest : Rest known) {given : List (String × Json)}
    (same : ∀ key ∈ known.map (·.1), valuesAt given key = valuesAt rest.fields key) :
    Kept.ofJson? (.object given) = some rest := by
  obtain ⟨whole, written⟩ := rest.written_fields
  have isProper := proper.isProper
  rw [Schema.isProper, Bool.and_eq_true, decide_eq_true_eq] at isProper
  rw [Kept.ofJson?_eq_some_iff, Schema.rewrite, written.rewriteFields_eq isProper.1 same, whole]
  rfl

end Rest

end NfsStorage.Json
