/-
Codecs as the system knows them and as an account configures them. The system list is
the one built with video enabled.
-/

import Mathlib.Data.List.Basic

namespace SipCore

/-- The bit set `MediaType` of the source; the two bits are audio and video. -/
inductive MediaType where
  | none
  | audio
  | video
  | all
  deriving DecidableEq, Repr

def MediaType.meets : MediaType → MediaType → Bool
  | .none, _ | _, .none => false
  | .audio, .video | .video, .audio => false
  | _, _ => true

inductive AvCodecId where
  | vp8
  | vp9
  | h264
  | opus
  | pcmAlaw
  | pcmMulaw
  | g729
  | adpcmG722
  deriving DecidableEq, Repr

structure AudioFormat where
  sampleRate : Nat
  nbChannels : Nat
  deriving DecidableEq, Repr

def AudioFormat.unset : AudioFormat := ⟨0, 0⟩

structure SystemCodecInfo where
  id : AvCodecId
  avcodecId : AvCodecId
  name : String
  mediaType : MediaType
  payloadType : Nat
  audioformat : AudioFormat
  deriving DecidableEq, Repr

/-- An account's copy of a codec; format and payload type start at the system
values and may be changed per account, the system record never is. -/
structure AccountCodecInfo where
  systemCodecInfo : SystemCodecInfo
  payloadType : Nat
  audioformat : AudioFormat
  parameters : String
  deriving DecidableEq, Repr

namespace SystemCodecInfo

def audioCodec (id : AvCodecId) (name : String) (sampleRate nbChannels payloadType : Nat) :
    SystemCodecInfo :=
  ⟨id, id, name, .audio, payloadType, ⟨sampleRate, nbChannels⟩⟩

def videoCodec (id : AvCodecId) (name : String) : SystemCodecInfo :=
  ⟨id, id, name, .video, 0, AudioFormat.unset⟩

def vp8 := videoCodec .vp8 "VP8"
def vp9 := videoCodec .vp9 "VP9"
def h264 := videoCodec .h264 "H264"
def opus := audioCodec .opus "opus" 48000 1 104
def pcma := audioCodec .pcmAlaw "PCMA" 8000 1 8
def pcmu := audioCodec .pcmMulaw "PCMU" 8000 1 0
def g729 := audioCodec .g729 "G729" 8000 1 18

end SystemCodecInfo

namespace SystemCodecContainer

open SystemCodecInfo in
def availableCodecList : List SystemCodecInfo := [vp8, vp9, h264, opus, pcma, pcmu, g729]

def searchCodecByName (name : String) (mediaType : MediaType) : Option SystemCodecInfo :=
  availableCodecList.find? (fun codec => codec.name = name && codec.mediaType.meets mediaType)

def searchCodecByPayload (payload : Nat) (mediaType : MediaType) : Option SystemCodecInfo :=
  availableCodecList.find? (fun codec =>
    codec.payloadType = payload && codec.mediaType.meets mediaType)

end SystemCodecContainer

namespace AccountCodecInfo

def ofSystem (system : SystemCodecInfo) : AccountCodecInfo :=
  { systemCodecInfo := system
    payloadType := system.payloadType
    audioformat := system.audioformat
    parameters := "" }

def isPCMG722 (codec : AccountCodecInfo) : Bool := codec.systemCodecInfo.avcodecId = .adpcmG722
def isG729 (codec : AccountCodecInfo) : Bool := codec.systemCodecInfo.avcodecId = .g729
def isOpus (codec : AccountCodecInfo) : Bool := codec.systemCodecInfo.avcodecId = .opus

end AccountCodecInfo

end SipCore
