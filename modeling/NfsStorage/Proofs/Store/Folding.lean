import NfsStorage.Convergence
import NfsStorage.Proofs.Codec.Dictionary
import NfsStorage.Proofs.Store.Verdict

/-!
# Texts that are given for the data of a secret

A secret may be given texts beside the bytes of its data. A store keeps them as their bytes, which
win over bytes that are given under the same key. A server does so in the written form of the object:
the texts, in base64 as all bytes are, are a patch that is laid over the data, and the outcome is read
again. `stringData_folded` says that both come to the same, and that all else is kept as it was given.
-/

namespace NfsStorage

open Json

/-- The bytes of a text; what is no text has none. -/
def Json.textBytes : Json → Bytes
  | .string text => Bytes.ofText text
  | _ => []

/-- The texts of an object in its written form are taken out and laid over its data in base64. An
object without such texts stays as it is. -/
def Resource.foldWritten {K : Type} [Resource K] (object : K) : Option K :=
  match (encode object).fields.lookup "stringData" with
  | some (.object texts) =>
    decode (merge (.object (dropField "stringData" (encode object).fields))
      (.object [("data", .object (texts.map fun field => (field.1, encode field.2.textBytes)))]))
  | _ => some object

/-- Who writes another time of deletion does not see the fraction of the old one. -/
theorem Store.setDeletion_toSeconds {K : Type} [Resource K] [LawfulResource K] (object : K)
    (time : Option Time) :
    setDeletion (Resource.withMetadata object (Resource.metadata object).toSeconds) time =
      setDeletion object time := by
  rw [setDeletion, setDeletion, Resource.metadata_withMetadata, Resource.withMetadata_withMetadata]
  rfl

namespace Secret

variable {s : Secret}

theorem settled_of_none (absent : s.stringData = none) : Resource.settled s = s := by
  change s.foldStringData = s
  rw [foldStringData, absent]

theorem settled_eq (s : Secret) :
    Resource.settled s = { s with data := (Resource.settled s).data, stringData := none } := by
  change s.foldStringData = { s with data := s.foldStringData.data, stringData := none }
  rcases s with ⟨_, _, _, _ | texts, _⟩ <;> rfl

theorem stringData_settled (s : Secret) : (Resource.settled s).stringData = none :=
  congrArg stringData (settled_eq s)

/-- What is kept under a key: the bytes of the text that is given for it, or else the bytes. -/
theorem get?_data_settled (s : Secret) (key : String) :
    ((Resource.settled s).data.getD ∅).get? key =
      (((s.stringData.getD ∅).get? key).map Bytes.ofText).or ((s.data.getD ∅).get? key) := by
  change (s.foldStringData.data.getD ∅).get? key = _
  rw [foldStringData]
  cases s.stringData with
  | none => rfl
  | some texts =>
      rw [Option.getD_some, Dict.get?_overlay, Dict.get?_map]
      rfl

theorem lookup_stringData (s : Secret) :
    (encode s).fields.lookup "stringData" = s.stringData.map encode := by
  have values : valuesAt (encode s).fields "stringData" = (s.stringData.map encode).toList := by
    simp [encode, Json.fields]
  rw [lookup_eq_head?_valuesAt, values, Option.head?_toList]

theorem foldWritten_of_none (absent : s.stringData = none) : Resource.foldWritten s = some s := by
  rw [Resource.foldWritten, lookup_stringData, absent]
  rfl

theorem encode_map_ofText (texts : Dict String) :
    Json.object ((encode texts).fields.map fun field => (field.1, encode field.2.textBytes)) =
      encode (texts.map Bytes.ofText) := by
  simp only [encode, Json.fields, Dict.map, List.map_map]
  rfl

/-- Fields that are those of a written secret, but for other data and no texts. -/
theorem decode_of_values {fields : List (String × Json)} {j : Json} {data : Dict Bytes}
    (timed : s.metadata.Timed)
    (same : ∀ key, key ≠ "data" → key ≠ "stringData" →
      valuesAt fields key = valuesAt (encode s).fields key)
    (dataValues : valuesAt fields "data" = [j]) (given : j ≠ .null) (read : decode j = some data)
    (textless : valuesAt fields "stringData" = []) :
    decode (.object fields) = some { s with
      metadata := s.metadata.toSeconds
      data := some data
      stringData := none } := by
  have written : (encode s).fields = fieldOf "apiVersion" "v1" ++ fieldOf "kind" "Secret" ++
      fieldOf "metadata" s.metadata ++ fieldOf? "type" s.type ++ fieldOf? "data" s.data ++
      fieldOf? "stringData" s.stringData ++ fieldOf? "immutable" s.immutable := rfl
  rw [written] at same
  simp only [decode, Members.ofJson?, Option.bind_eq_bind, Option.bind_some]
  rw [Members.constant_of_values (by rw [same _ (by decide) (by decide)]; simp [encode]),
    Members.constant_of_values (by rw [same _ (by decide) (by decide)]; simp [encode]),
    Members.orDefault_of_values_single (j := encode s.metadata) _
      (by rw [same _ (by decide) (by decide)]; simp) Json.noConfusion,
    Metadata.decode_encode timed,
    Members.optional_of_values "type" s.type (by rw [same _ (by decide) (by decide)]; simp),
    Members.optional_of_values_single dataValues given, read,
    Members.optional_of_values_nil textless,
    Members.optional_of_values "immutable" s.immutable
      (by rw [same _ (by decide) (by decide)]; simp)]
  rfl

theorem foldWritten_of_some {texts : Dict String} (given : s.stringData = some texts)
    (timed : s.metadata.Timed) :
    Resource.foldWritten s =
      some (Resource.withMetadata (Resource.settled s) s.metadata.toSeconds) := by
  let bare := dropField "stringData" (encode s).fields
  have dataValues : valuesAt bare "data" = (s.data.map encode).toList := by
    simp [bare, valuesAt_dropField, encode, Json.fields]
  have before : bare.lookup "data" = s.data.map encode := by
    rw [lookup_eq_head?_valuesAt, dataValues, Option.head?_toList]
  -- Where there is no data, the texts are laid over null, which counts as an object without fields.
  let laid := merge ((s.data.map encode).getD .null) (encode (texts.map Bytes.ofText))
  have written : Resource.foldWritten s = decode (.object (setField "data" laid bare)) := by
    rw [Resource.foldWritten, lookup_stringData, given, Option.map_some]
    change decode (merge (.object bare) (.object [("data", .object
      ((encode texts).fields.map fun field => (field.1, encode field.2.textBytes)))])) = _
    rw [encode_map_ofText, merge, Json.fields, mergeFields_value _ _ (encode_ne_null _), before]
  have read : decode laid = some ((s.data.getD ∅).overlay (texts.map Bytes.ofText)) :=
    Dict.decode_merge_encode (fun _ => rfl) s.data _
  have single : valuesAt (setField "data" laid bare) "data" = [laid] := by
    rw [valuesAt_setField, if_pos rfl, dataValues]
    cases s.data <;> rfl
  have textless : valuesAt (setField "data" laid bare) "stringData" = [] := by
    rw [valuesAt_setField, if_neg (by decide), valuesAt_dropField, if_pos rfl]
  have same : ∀ key, key ≠ "data" → key ≠ "stringData" →
      valuesAt (setField "data" laid bare) key = valuesAt (encode s).fields key := by
    intro key notData notTexts
    rw [valuesAt_setField, if_neg notData.symm, valuesAt_dropField, if_neg notTexts.symm]
  rw [written, decode_of_values timed same single (merge_object_ne_null _ _) read textless]
  change _ = some { s.foldStringData with metadata := s.metadata.toSeconds }
  rw [foldStringData, given]

/-- Both ways of folding come to the same, whatever time of deletion is written after it, and the way
over the written form leaves nothing to fold. -/
theorem exists_foldWritten (timed : s.metadata.Timed) :
    ∃ folded, Resource.foldWritten s = some folded ∧ Resource.foldWritten folded = some folded ∧
      ∀ time, Store.setDeletion folded time = Store.setDeletion (Resource.settled s) time := by
  cases given : s.stringData with
  | none =>
      refine ⟨s, foldWritten_of_none given, foldWritten_of_none given, fun time => ?_⟩
      rw [settled_of_none given]
  | some texts =>
      refine ⟨_, foldWritten_of_some given timed, foldWritten_of_none (stringData_settled s),
        fun time => ?_⟩
      have dated : s.metadata = Resource.metadata (Resource.settled s) :=
        (Resource.metadata_settled s).symm
      rw [dated, Store.setDeletion_toSeconds]

theorem action_of_payload {live desired : Secret} (managed : live.metadata.isManaged = true)
    (same : live.data.getD ∅ = desired.data.getD ∅) :
    Secret.action (some live) desired false = .ok .keep := by
  simp [Secret.action, managed, same]

end Secret

namespace Collection

variable {c : Collection} {object : c.Object}

theorem foldWritten_of_ne (other : c ≠ .secrets) (object : c.Object) :
    Resource.foldWritten object = some object ∧ Resource.settled object = object := by
  have absent : (encode object).fields.lookup "stringData" = none := by
    rw [lookup_eq_head?_valuesAt]
    cases c <;> first | exact absurd rfl other | simp [encode, Json.fields]
  constructor
  · rw [Resource.foldWritten, absent]
  · cases c <;> first | exact absurd rfl other | rfl

/-- Whatever the kind of an object, folding it in its written form always comes to what a store makes
of it, but for the time of its deletion, and leaves nothing to fold. -/
theorem exists_foldWritten (timed : (Resource.metadata object).Timed) :
    ∃ folded, Resource.foldWritten object = some folded ∧
      Resource.foldWritten folded = some folded ∧
      ∀ time, Store.setDeletion folded time = Store.setDeletion (Resource.settled object) time := by
  by_cases secrets : c = .secrets
  · subst secrets
    exact Secret.exists_foldWritten timed
  · obtain ⟨folded, settled⟩ := foldWritten_of_ne secrets object
    exact ⟨object, folded, folded, fun time => by rw [settled]⟩

end Collection

/-- What a declaration asks a secret to hold can be given as texts. -/
theorem Declaration.exists_texts (tls : Bool) («namespace» : String) (d : Declaration) :
    ∃ texts : Dict String,
      (d.derive tls «namespace»).secret.data = some (texts.map Bytes.ofText) := by
  refine ⟨Dict.ofList ((Names.mountOptionsKey, ",".intercalate (d.spec.mountOptionList tls)) ::
    (nonEmpty? d.spec.volumeCleanup).toList.map fun cleanup =>
      (Names.volumeCleanupKey, cleanup)), ?_⟩
  rw [Dict.map_ofList, List.map_cons, List.map_map]
  rfl

namespace Store

variable {s s' : Store Secret} {name : String} {given kept answer : Secret}

/-- A secret that is given and what a store keeps of it under a name: the texts as their bytes, and
all else as it was given but for the name, the version and the time of deletion. Folded in its written
form the secret comes to the same, and what is kept does not change when it is folded again. -/
structure KeptAs (s : Store Secret) (name : String) (given kept : Secret) : Prop where
  textless : kept.stringData = none
  entries : ∀ key, (kept.data.getD ∅).get? key =
    (((given.stringData.getD ∅).get? key).map Bytes.ofText).or ((given.data.getD ∅).get? key)
  others : kept = { given with
    metadata := { given.metadata with
      name := some name
      resourceVersion := some (toString (s.version + 1))
      deletionTimestamp := kept.metadata.deletionTimestamp }
    data := kept.data
    stringData := none }
  written : given.metadata.Timed →
    ∃ folded, Resource.foldWritten given = some folded ∧ Resource.foldWritten folded = some folded ∧
      kept = s.stamped name (setDeletion folded kept.metadata.deletionTimestamp)
  settled : Resource.settled kept = kept ∧ Resource.foldWritten kept = some kept

theorem keptAs_stamped (s : Store Secret) (name : String) (given : Secret) (time : Option Time) :
    s.KeptAs name given (s.stamped name (setDeletion (Resource.settled given) time)) where
  textless := Secret.stringData_settled given
  entries := Secret.get?_data_settled given
  others := by
    rw [Secret.settled_eq]
    rfl
  written timed := by
    obtain ⟨folded, written, again, same⟩ := Collection.exists_foldWritten (c := .secrets) timed
    exact ⟨folded, written, again, congrArg (s.stamped name) (same time).symm⟩
  settled := ⟨Secret.settled_of_none (Secret.stringData_settled given),
    Secret.foldWritten_of_none (Secret.stringData_settled given)⟩

theorem KeptAs.isManaged_eq (keptAs : s.KeptAs name given kept) :
    kept.metadata.isManaged = given.metadata.isManaged :=
  (congrArg (fun secret : Secret => secret.metadata.isManaged) keptAs.others).trans rfl

theorem KeptAs.data_eq (keptAs : s.KeptAs name given kept) {texts : Dict String}
    (all : given.stringData = some texts)
    (covered : ∀ key, texts.get? key = none → (given.data.getD ∅).get? key = none) :
    kept.data.getD ∅ = texts.map Bytes.ofText := by
  refine Dict.ext_get? fun key => ?_
  rw [keptAs.entries, all, Option.getD_some, Dict.get?_map]
  cases text : texts.get? key with
  | none => exact covered key text
  | some text => rfl

theorem keptAs_of_create (made : s.create given = .ok (answer, s')) :
    s.KeptAs (Resource.name given) given answer ∧
      s'.get? (Resource.name given) = some answer := by
  rw [create_eq] at made
  obtain ⟨object, creates, rfl, rfl⟩ := exists_of_settle made
  cases found : s.get? (Resource.name given) with
  | some old =>
      rw [found] at creates
      cases creates
  | none =>
      rw [found] at creates
      obtain rfl := Except.ok.inj creates
      refine ⟨s.keptAs_stamped _ given none, ?_⟩
      rw [get?_put_self, isReleased_stamped, isReleased_made, if_neg Bool.false_ne_true]

theorem keptAs_of_replace (made : s.replace name given = .ok (answer, s')) :
    s.KeptAs name given answer ∧
      s'.get? name = if isReleased answer then none else some answer := by
  rw [replace_eq] at made
  obtain ⟨object, replaces, rfl, rfl⟩ := exists_of_settle made
  refine ⟨?_, get?_put_self s .replace name object⟩
  cases found : s.get? name with
  | none =>
      rw [found] at replaces
      cases replaces
  | some old =>
      rw [found, replacement] at replaces
      split at replaces
      next => cases replaces
      next =>
        obtain rfl := Except.ok.inj replaces
        exact s.keptAs_stamped name given _

/-- Whatever a store holds, of a secret that is created or put in the place of another it keeps the
texts as their bytes, beside the bytes under the other keys, and all else as it was given. So to
create a managed secret with the payload of a declaration as texts leaves nothing to be done. -/
theorem stringData_folded (s : Store Secret) (given : Secret) :
    (∀ answer s', s.create given = .ok (answer, s') →
      s.KeptAs (Resource.name given) given answer ∧
        s'.get? (Resource.name given) = some answer) ∧
    (∀ name answer s', s.replace name given = .ok (answer, s') →
      s.KeptAs name given answer ∧
        s'.get? name = if isReleased answer then none else some answer) ∧
    ∀ tls «namespace» (d : Declaration),
      (∃ texts : Dict String,
        (d.derive tls «namespace»).secret.data = some (texts.map Bytes.ofText)) ∧
      ∀ texts : Dict String,
        (d.derive tls «namespace»).secret.data = some (texts.map Bytes.ofText) →
        given.metadata.isManaged = true → given.stringData = some texts →
        (∀ key, texts.get? key = none → (given.data.getD ∅).get? key = none) →
        ∀ answer s', s.create given = .ok (answer, s') →
          Secret.action (s'.get? (Resource.name given)) (d.derive tls «namespace»).secret false =
            .ok .keep := by
  refine ⟨fun _ _ => keptAs_of_create, fun _ _ _ => keptAs_of_replace, fun tls «namespace» d =>
    ⟨d.exists_texts tls «namespace», fun texts payload managed all covered answer s' made => ?_⟩⟩
  obtain ⟨keptAs, stored⟩ := keptAs_of_create made
  rw [stored]
  refine Secret.action_of_payload (keptAs.isManaged_eq.trans managed) ?_
  rw [keptAs.data_eq all covered, payload, Option.getD_some]

/-- A secret with a text for a key that has bytes, too, a text that is not in ASCII, and bytes that are
no text. -/
def overlappingSecret : Secret :=
  { metadata := { name := some "credentials" }
    data := some (Dict.ofList [("token", [0, 255]), ("user", [1])])
    stringData := some (Dict.ofList [("user", "né☃"), ("empty", "")]) }

def cleaningDeclaration : Declaration :=
  { metadata := { name := some "a" }
    spec :=
      { connection := { host := "h", share := "/s", nfsVersion := .v41 }
        volumeCleanup := some "Discard"
        reclaimPolicy := .delete
        volumeBindingMode := .immediate } }

def payloadSecret : Secret :=
  { metadata := Declaration.managedMetadata (Names.secretNameOf "a") (some "d8-csi-nfs")
    stringData := some (Dict.ofList
      [(Names.mountOptionsKey, "nfsvers=4.1"), (Names.volumeCleanupKey, "Discard")]) }

theorem stringData_folded_overlapping :
    (∃ answer s', ({} : Store Secret).create overlappingSecret = .ok (answer, s') ∧
      s'.get? "credentials" = some answer ∧ answer.stringData = none ∧
      answer.data.getD ∅ = Dict.ofList
        [("empty", []), ("token", [0, 255]), ("user", [0x6e, 0xc3, 0xa9, 0xe2, 0x98, 0x83])]) ∧
    (∃ answer s', (ofList [payloadSecret]).replace (Names.secretNameOf "a") overlappingSecret =
        .ok (answer, s') ∧
      s'.get? (Names.secretNameOf "a") = some answer ∧
      Resource.foldWritten answer = some answer) ∧
    ∃ answer s', ({} : Store Secret).create payloadSecret = .ok (answer, s') ∧
      Secret.action (s'.get? (Names.secretNameOf "a"))
        (cleaningDeclaration.derive false "d8-csi-nfs").secret false = .ok .keep := by
  obtain ⟨creates, -, -⟩ := stringData_folded {} overlappingSecret
  obtain ⟨-, replaces, -⟩ := stringData_folded (ofList [payloadSecret]) overlappingSecret
  obtain ⟨-, -, leaves⟩ := stringData_folded {} payloadSecret
  refine ⟨⟨_, _, rfl, ?_⟩, ⟨_, _, rfl, ?_⟩, _, _, rfl, ?_⟩
  · obtain ⟨keptAs, stored⟩ := creates _ _ rfl
    refine ⟨stored, keptAs.textless, Dict.ext_get? fun key => ?_⟩
    have whole : (overlappingSecret.data.getD ∅).overlay
        ((overlappingSecret.stringData.getD ∅).map Bytes.ofText) = Dict.ofList
        [("empty", []), ("token", [0, 255]), ("user", [0x6e, 0xc3, 0xa9, 0xe2, 0x98, 0x83])] := by
      decide +kernel
    rw [keptAs.entries, ← whole, Dict.get?_overlay, Dict.get?_map]
  · obtain ⟨keptAs, stored⟩ := replaces (Names.secretNameOf "a") _ _ rfl
    exact ⟨stored, keptAs.settled.2⟩
  · have payload : (cleaningDeclaration.derive false "d8-csi-nfs").secret.data =
        some (Dict.map Bytes.ofText (payloadSecret.stringData.getD ∅)) := by decide +kernel
    exact (leaves false "d8-csi-nfs" cleaningDeclaration).2 _ payload (by decide +kernel) rfl
      (fun _ _ => rfl) _ _ rfl

end Store

end NfsStorage
