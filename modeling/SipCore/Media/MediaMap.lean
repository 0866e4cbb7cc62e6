/-
Stream attributes as the string maps the application exchanges. Only the six
keys the code reads are kept; a value that is not understood leaves the default
of its attribute in place.
-/

import SipCore.Library.AssocMap
import SipCore.Sdp.Session

namespace SipCore

inductive MediaAttributeKey where
  | mediaType
  | enabled
  | muted
  | source
  | label
  | onHold
  deriving DecidableEq, Repr

abbrev MediaMap := AssocMap MediaAttributeKey String

def boolToString (val : Bool) : String := if val then "true" else "false"

def mediaTypeToString : MediaType → String
  | .audio => "MEDIA_TYPE_AUDIO"
  | .video => "MEDIA_TYPE_VIDEO"
  | _ => ""

def stringToMediaType (mediaType : String) : MediaType :=
  if mediaType = mediaTypeToString .audio then .audio
  else if mediaType = mediaTypeToString .video then .video
  else .none

namespace MediaMap

def getMediaType (map : MediaMap) : Option MediaType :=
  match map.find? .mediaType with
  | none => none
  | some value =>
    match stringToMediaType value with
    | .none => none
    | type => some type

def getBoolValue (map : MediaMap) (key : MediaAttributeKey) : Option Bool :=
  match map.find? key with
  | none => none
  | some value =>
    if value = boolToString true then some true
    else if value = boolToString false then some false
    else none

def getStringValue (map : MediaMap) (key : MediaAttributeKey) : Option String := map.find? key

end MediaMap

namespace MediaAttribute

def ofMediaMap (map : MediaMap) (secure : Bool) : MediaAttribute :=
  let initial : MediaAttribute := {}
  { type := map.getMediaType.getD initial.type
    muted := (map.getBoolValue .muted).getD initial.muted
    secure := secure
    enabled := (map.getBoolValue .enabled).getD initial.enabled
    sourceUri := (map.getStringValue .source).getD initial.sourceUri
    label := (map.getStringValue .label).getD initial.label
    onHold := (map.getBoolValue .onHold).getD initial.onHold }

def buildMediaAttributesList (mediaList : List MediaMap) (secure : Bool) : List MediaAttribute :=
  mediaList.map (fun mediaMap => ofMediaMap mediaMap secure)

def toMediaMap (mediaAttr : MediaAttribute) : MediaMap :=
  ((((((AssocMap.empty : MediaMap).emplace .mediaType (mediaTypeToString mediaAttr.type)).emplace
    .label mediaAttr.label).emplace
    .enabled (boolToString mediaAttr.enabled)).emplace
    .muted (boolToString mediaAttr.muted)).emplace
    .source mediaAttr.sourceUri).emplace
    .onHold (boolToString mediaAttr.onHold)

def mediaAttributesToMediaMaps (mediaAttrList : List MediaAttribute) : List MediaMap :=
  mediaAttrList.map toMediaMap

def hasValidVideo (mediaAttr : MediaAttribute) : Bool :=
  mediaAttr.type = .video && mediaAttr.enabled

end MediaAttribute

def MediaMap.type (map : MediaMap) : MediaType := map.getMediaType.getD .none

theorem MediaMap.type_ne_all (map : MediaMap) : map.type ≠ .all := by
  unfold MediaMap.type getMediaType
  cases map.find? .mediaType with
  | none => decide
  | some value =>
    simp only [stringToMediaType]
    by_cases audio : value = mediaTypeToString .audio
    · rw [if_pos audio]
      decide
    · by_cases video : value = mediaTypeToString .video
      · rw [if_neg audio, if_pos video]
        decide
      · rw [if_neg audio, if_neg video]
        decide

theorem MediaMap.getMediaType_eq (map : MediaMap) (type : MediaType)
    (stored : map.find? .mediaType = some (mediaTypeToString type)) :
    map.getMediaType = if type = .audio ∨ type = .video then some type else none := by
  unfold getMediaType
  rw [stored]
  cases type <;> decide

namespace MediaAttribute

variable (mediaAttr : MediaAttribute)

private theorem find?_toMediaMap (key : MediaAttributeKey) :
    (toMediaMap mediaAttr).find? key = some (match key with
      | .mediaType => mediaTypeToString mediaAttr.type
      | .enabled => boolToString mediaAttr.enabled
      | .muted => boolToString mediaAttr.muted
      | .source => mediaAttr.sourceUri
      | .label => mediaAttr.label
      | .onHold => boolToString mediaAttr.onHold) := by
  unfold toMediaMap
  cases key <;> simp [AssocMap.find?_emplace]

theorem type_toMediaMap :
    (toMediaMap mediaAttr).type =
      if mediaAttr.type = .audio ∨ mediaAttr.type = .video then mediaAttr.type else .none := by
  unfold MediaMap.type
  rw [MediaMap.getMediaType_eq _ mediaAttr.type (find?_toMediaMap mediaAttr .mediaType)]
  split <;> rfl

end MediaAttribute

end SipCore
