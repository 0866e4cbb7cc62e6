/-
Session descriptions as PJMEDIA hands them out: formats are payload numbers,
attributes are split into the kinds the code looks for. An `rtpmap` whose text
does not parse keeps the payload number it is found by. Attributes without a
value, directions among them, are flags.
-/

import SipCore.Media.Codec

namespace SipCore

def lowered (text : String) : List Char := text.toList.map Char.toLower

def stricmp (left right : String) : Bool := lowered left = lowered right

/-- The body of an `rtpmap`; `param` is the number PJLIB reads from a parameter
that is present, zero if it has no digits. -/
structure RtpMap where
  encName : String
  clockRate : Nat
  param : Option Nat
  deriving DecidableEq, Repr

inductive SdpAttr where
  | rtpmap (pt : Nat) (body : Option RtpMap)
  | fmtp (pt : Nat) (fmtParam : String)
  | crypto (value : String)
  | rtcp (port : Nat)
  | flag (name : String)
  deriving DecidableEq, Repr

structure SdpMedia where
  media : String
  port : Nat
  transport : String
  fmts : List Nat
  attrs : List SdpAttr
  conn : Option String
  deriving DecidableEq, Repr

structure SdpSession where
  media : List SdpMedia
  conn : Option String
  deriving DecidableEq, Repr

inductive MediaDirection where
  | sendrecv
  | sendonly
  | recvonly
  | inactive
  | unknown
  deriving DecidableEq, Repr

def MediaDirection.text : MediaDirection → String
  | .sendrecv => "sendrecv"
  | .sendonly => "sendonly"
  | .recvonly => "recvonly"
  | .inactive => "inactive"
  | .unknown => "unknown"

inductive MediaTransport where
  | rtpAvp
  | rtpSavp
  | unknown
  deriving DecidableEq, Repr

structure MediaAttribute where
  type : MediaType := .none
  muted : Bool := false
  secure : Bool := true
  enabled : Bool := false
  sourceUri : String := ""
  label : String := ""
  onHold : Bool := false
  deriving DecidableEq, Repr

namespace SdpMedia

def getSupportedMediaType (line : SdpMedia) : MediaType :=
  if stricmp line.media "audio" then .audio
  else if stricmp line.media "video" then .video
  else .none

def hasFlag (line : SdpMedia) (name : String) : Bool := line.attrs.contains (.flag name)

def getMediaDirection (line : SdpMedia) : MediaDirection :=
  if line.hasFlag MediaDirection.sendrecv.text then .sendrecv
  else if line.hasFlag MediaDirection.sendonly.text then .sendonly
  else if line.hasFlag MediaDirection.recvonly.text then .recvonly
  else if line.hasFlag MediaDirection.inactive.text then .inactive
  else .unknown

def getMediaTransport (line : SdpMedia) : MediaTransport :=
  if stricmp line.transport "RTP/SAVP" then .rtpSavp
  else if stricmp line.transport "RTP/AVP" then .rtpAvp
  else .unknown

def getCrypto (line : SdpMedia) : List String :=
  line.attrs.filterMap fun
    | .crypto value => some value
    | _ => none

def findRtpmap (line : SdpMedia) (pt : Nat) : Option (Option RtpMap) :=
  line.attrs.findSome? fun
    | .rtpmap other body => if other = pt then some body else none
    | _ => none

def findFmtp (line : SdpMedia) (pt : Nat) : Option String :=
  line.attrs.findSome? fun
    | .fmtp other fmtParam => if other = pt then some fmtParam else none
    | _ => none

end SdpMedia

end SipCore
