import NodeBootstrap.Json.Read
import NodeBootstrap.Text.Base64
import NodeBootstrap.Text.Moment

/-!
# Stored objects

The cluster keeps small texts in objects of the kind `ConfigMap`. All known fields of an object must
be of the right kind; of them only the texts are kept.

* `ConfigMap`: the texts of an object by name;
* `ConfigMap.ofData`: an object from data;
* `ConfigMap.entry?`: a text by name.
-/

namespace NodeBootstrap

/-- The texts of a stored object by name; of two with one name the later counts. -/
structure ConfigMap where
  entries : List (String × String) := []
deriving DecidableEq, Repr, Inhabited

namespace ConfigMap

open Data FieldReader

/-! ## Values that are only checked -/

/-- A field that is checked and not kept. -/
def checked (name : String) (value : Data → Typed β) : FieldReader α := of name value fun _ a => a

/-- A field that is checked unless it is null. -/
def checkedIfGiven (name : String) (value : Data → Typed β) : FieldReader α :=
  checked name (asOptional value)

/-- A value of which only the fields are checked. -/
def checkedRecord (readers : List (FieldReader Unit)) : Data → Typed Unit
  | record fields => takeAll readers fields ()
  | _ => .error .mistyped

/-- A whole number of 64 binary digits with a sign, without a point or an exponent. -/
def asWholeNumber : Data → Typed Unit
  | number spelling =>
    let fits := match spelling.toList with
      | '-' :: ds =>
        ds.all Decimal.isDigit && 0 < Decimal.value ds && Decimal.value ds ≤ Nat.pow 2 63
      | ds => ds.all Decimal.isDigit && Decimal.value ds < Nat.pow 2 63
    if fits then .ok () else .error .mistyped
  | _ => .error .mistyped

/-- A date, a time and a zone. -/
def asInstant : Data → Typed Unit
  | text s => if Moment.isInstant s.toList then .ok () else .error .mistyped
  | _ => .error .mistyped

/-- Bytes in Base64. -/
def asBytes : Data → Typed Unit
  | text s => if Base64.isEncoded s.toList then .ok () else .error .mistyped
  | _ => .error .mistyped

/-- A given text. -/
def asWord (word : String) : Data → Typed Unit
  | text s => if s = word then .ok () else .error .mistyped
  | _ => .error .mistyped

/-- Any value. -/
def asAnything (_ : Data) : Typed Unit := .ok ()

/-- An object that another one belongs to. -/
def asOwner : Data → Typed Unit :=
  checkedRecord
    [checkedIfGiven "apiVersion" asText, checkedIfGiven "blockOwnerDeletion" asFlag,
     checkedIfGiven "controller" asFlag, checkedIfGiven "kind" asText, checkedIfGiven "name" asText,
     checkedIfGiven "uid" asText]

/-- A note of who has set which fields. -/
def asManagedFields : Data → Typed Unit :=
  checkedRecord
    [checkedIfGiven "apiVersion" asText, checkedIfGiven "fieldsType" asText,
     checkedIfGiven "fieldsV1" asAnything, checkedIfGiven "manager" asText,
     checkedIfGiven "operation" asText, checkedIfGiven "subresource" asText,
     checkedIfGiven "time" asInstant]

/-- What is known about an object besides its content. -/
def asMetadata : Data → Typed Unit :=
  checkedRecord
    [checkedIfGiven "annotations" (asMapOf asText), checkedIfGiven "creationTimestamp" asInstant,
     checkedIfGiven "deletionGracePeriodSeconds" asWholeNumber,
     checkedIfGiven "deletionTimestamp" asInstant, checkedIfGiven "finalizers" (asListOf asText),
     checkedIfGiven "generateName" asText, checkedIfGiven "generation" asWholeNumber,
     checkedIfGiven "labels" (asMapOf asText),
     checkedIfGiven "managedFields" (asListOf asManagedFields), checkedIfGiven "name" asText,
     checkedIfGiven "namespace" asText, checkedIfGiven "ownerReferences" (asListOf asOwner),
     checkedIfGiven "resourceVersion" asText, checkedIfGiven "selfLink" asText,
     checkedIfGiven "uid" asText]

/-! ## Objects -/

/-- The fields of an object. -/
def readers : List (FieldReader ConfigMap) :=
  [checked "apiVersion" (asWord "v1"), checked "kind" (asWord "ConfigMap"),
   checkedIfGiven "binaryData" (asMapOf asBytes),
   of "data" (asOptional (asMapOf asText)) fun v _ => ⟨v.getD []⟩,
   checkedIfGiven "immutable" asFlag, checkedIfGiven "metadata" asMetadata]

/-- An object from data. -/
def ofData : Data → Typed ConfigMap
  | record fields => takeAll readers fields {}
  | _ => .error .mistyped

/-- A text by name. -/
def entry? (m : ConfigMap) (name : String) : Option String :=
  (m.entries.reverse.find? fun e => e.1 == name).map (·.2)

end ConfigMap

end NodeBootstrap
