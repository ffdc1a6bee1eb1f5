import NfsStorage.Text.Base64
import NfsStorage.Text.Blank

/-!
Bundles of certificates. Each stands in a section of its own, which may begin anywhere and may have
headers. Sections of other labels are passed over, but all of them have to be in order. A section
that does not end is none.
-/

namespace NfsStorage.Tls

/-- The bytes before the first place where a mark stands, and those after the mark. -/
def cut? (mark : Bytes) : Bytes → Option (Bytes × Bytes)
  | [] => none
  | b :: bytes =>
    if mark.isPrefixOf (b :: bytes) then some ([], (b :: bytes).drop mark.length)
    else (cut? mark bytes).map fun (before, rest) => (b :: before, rest)

theorem cut?_length {mark bytes before rest : Bytes} (h : cut? mark bytes = some (before, rest)) :
    rest.length + mark.length ≤ bytes.length := by
  induction bytes generalizing before with
  | nil => simp [cut?] at h
  | cons b bytes ih =>
    simp only [cut?] at h
    split at h
    next begins =>
      have := (List.isPrefixOf_iff_prefix.mp begins).length_le
      simp only [Option.some.injEq, Prod.mk.injEq] at h
      simp only [← h.2, List.length_drop]
      omega
    next =>
      obtain ⟨⟨before', rest'⟩, found, same⟩ := Option.map_eq_some_iff.mp h
      simp only [Prod.mk.injEq] at same
      have := ih (same.2 ▸ found)
      simp only [List.length_cons]
      omega

structure Section where
  label : Bytes
  content : Bytes
  endLabel : Bytes
deriving DecidableEq, Repr

namespace Section

def beginMark : Bytes := Bytes.ofText "-----BEGIN "
def endMark : Bytes := Bytes.ofText "-----END "
def dashes : Bytes := Bytes.ofText "-----"

/-- Blanks and line ends after a mark do not count. -/
def skipBlanks (bytes : Bytes) : Bytes :=
  bytes.dropWhile fun b => b = 0x20 || b = 0x09 || b = 0x0A || b = 0x0D

def first? (bytes : Bytes) : Option (Section × Bytes) := do
  let (_, inLabel) ← cut? beginMark bytes
  let (label, afterLabel) ← cut? dashes inLabel
  let (content, inEnd) ← cut? endMark (skipBlanks afterLabel)
  let (endLabel, rest) ← cut? dashes inEnd
  return (⟨label, content, endLabel⟩, skipBlanks rest)

theorem skipBlanks_length (bytes : Bytes) : (skipBlanks bytes).length ≤ bytes.length :=
  (List.dropWhile_sublist _).length_le

theorem first?_length {bytes rest : Bytes} {s : Section} (h : first? bytes = some (s, rest)) :
    rest.length < bytes.length := by
  simp only [first?, Option.bind_eq_bind, Option.bind_eq_some_iff, Option.pure_def,
    Option.some.injEq, Prod.mk.injEq] at h
  obtain ⟨_, inLabel, ⟨_, afterLabel⟩, atLabel, ⟨_, inEnd⟩, atEnd, ⟨_, left⟩, last, _, rfl⟩ := h
  have := cut?_length inLabel
  have := cut?_length atLabel
  have := cut?_length atEnd
  have := cut?_length last
  have := skipBlanks_length afterLabel
  have := skipBlanks_length left
  have : 0 < beginMark.length := by decide
  simp only at *
  omega

def all (bytes : Bytes) : List Section :=
  match _ : first? bytes with
  | some (s, rest) => s :: all rest
  | none => []
termination_by bytes.length
decreasing_by exact first?_length ‹_›

/-- A blank line ends the headers. -/
def headersAndData (s : Section) : Bytes × Bytes :=
  ((cut? [0x0A, 0x0A] s.content).or (cut? [0x0D, 0x0A, 0x0D, 0x0A] s.content)).getD ([], s.content)

/-- Each header has a name before a colon. -/
def areHeaders (text : List Char) : Bool :=
  let lines := Text.splitAt '\n' text
  (if lines.getLast? = some [] then lines.dropLast else lines).all (·.contains ':')

/-- The bytes that a section holds. What follows them on a line may be blank. -/
def bytes? (s : Section) : Option Bytes := do
  let (headers, data) := s.headersAndData
  let label ← s.label.text?
  let headers ← headers.text?
  let data ← data.text?
  let lines := (Text.splitAt '\n' data.toList).map fun line =>
    (Text.skipBlank line.reverse).reverse
  if label ≠ "" && s.endLabel = s.label && areHeaders headers.toList then
    Base64.decode lines.flatten
  else none

end Section

def bundled? (bundle : Bytes) : Option (List Bytes) := do
  let found ← (Section.all bundle).mapM fun s => s.bytes?.map (s.label, ·)
  return (found.filter fun item => item.1 = Bytes.ofText "CERTIFICATE").map (·.2)

end NfsStorage.Tls
