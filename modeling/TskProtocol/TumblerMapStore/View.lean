import Mathlib.Logic.Function.Basic
import TskProtocol.TumblerMapStore.Authority
import TskProtocol.Lib.Replay

namespace TskProtocol

/-- What may be known of a credential without its secret. -/
structure CredentialEntry where
  publicMap : PublicMap
  revision : Int
  secretDigest : JsString
  deriving DecidableEq, Repr

/-- The credentials that there are, wherever they are kept. -/
abbrev CredentialView := JsString → Option CredentialEntry

def CredentialSnapshot.entry (s : CredentialSnapshot) : CredentialEntry :=
  ⟨s.publicMap, s.counter, s.secretDigest⟩

def CredentialMapRow.entry (D : Sha256Bytes) (row : CredentialMapRow) : CredentialEntry :=
  ⟨.ofMap row.map, row.revision, D.hex row.map.sharedSecret.utf8⟩

def viewOfMaps (D : Sha256Bytes) (maps : OrderedMap JsString CredentialMapRow) : CredentialView :=
  fun clientId => (maps.get? clientId).map (·.entry D)

def CredentialDb.view (D : Sha256Bytes) (db : CredentialDb) : CredentialView := viewOfMaps D db.maps

/-- The snapshot that comes after an entry, when `fits` says which maps may follow each other. -/
structure CredentialSnapshot.Next (fits : TumblerMap → TumblerMap → Prop) (current : CredentialEntry)
    (s : CredentialSnapshot) : Prop where
  counter : s.counter = current.revision + 1
  secretDigest : s.secretDigest = current.secretDigest
  fits : fits current.publicMap.map s.publicMap.map

namespace CredentialMutation

variable (fits : TumblerMap → TumblerMap → Prop) (view : CredentialView)

def applyTo : CredentialMutation → CredentialView
  | .snapshot _ s => Function.update view s.clientId (some s.entry)
  | .replace _ _ old replacement =>
    Function.update (Function.update view old.clientId (some old.entry)) replacement.clientId
      (some replacement.entry)
  | .delete _ clientId _ => Function.update view clientId none

def Admissible : CredentialMutation → Prop
  | .snapshot _ s => match view s.clientId with
    | none => s.counter = 1
    | some current => s.Next fits current
  | .replace _ _ old replacement => (∃ current, view old.clientId = some current ∧ old.Next fits current) ∧
      view replacement.clientId = none ∧ replacement.counter = 1
  | .delete _ clientId counter => ∃ current, view clientId = some current ∧ counter = current.revision + 1

end CredentialMutation

/-- Mutations as the entries of a log. -/
def credentialReplay (fits : TumblerMap → TumblerMap → Prop) : Replay CredentialView CredentialMutation where
  Admits := CredentialMutation.Admissible fits
  apply := CredentialMutation.applyTo

end TskProtocol
