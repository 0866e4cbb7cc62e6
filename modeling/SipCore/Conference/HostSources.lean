/-
The conference record and the media sources of its local host. The host is not a call:
its mute by a moderator is the id "host" among the muted participants, its own mute is a
flag of each host source. Sets of ids are lists without regard to order.
-/

import SipCore.Call.NegotiatedMedia
import SipCore.Media.MediaMap

namespace SipCore

namespace Conference

inductive State where
  | activeAttached
  | activeDetached
  | hold
  deriving DecidableEq, Repr

def defaultAudioStreamId : String := "audio_0"

def defaultVideoStreamId : String := "video_0"

def hostId : String := "host"

end Conference

structure Conference where
  id : String
  confState : Conference.State := .activeDetached
  hostSources : List MediaAttribute := []
  participants : List String := []
  participantsMuted : List String := []
  localPlaybackMuted : Bool := false
  videoEnabled : Bool := false
  deriving DecidableEq, Repr

namespace Conference

def isMuted (conference : Conference) (callId : String) : Bool :=
  conference.participantsMuted.contains callId

/-- Whether a source makes the host count as muted in the given kind of media:
it is one of that kind and muted, or it is no source at all. -/
def silences (type : MediaType) (source : MediaAttribute) : Bool :=
  (source.muted && source.type = type) || source.type = .none

def isMediaSourceMuted (conference : Conference) (type : MediaType) : Bool :=
  if conference.confState ≠ .activeAttached then true
  else if type ≠ .audio ∧ type ≠ .video then true
  else conference.hostSources.any (silences type)

def isHostMuted (conference : Conference) : Bool :=
  conference.isMediaSourceMuted .audio || conference.isMuted hostId

def defaultAudioSource : MediaAttribute :=
  { type := .audio, secure := false, enabled := true, label := defaultAudioStreamId }

def defaultVideoSource (platform : Platform) (source : String) : MediaAttribute :=
  { type := .video
    secure := false
    enabled := true
    sourceUri := if source = "" then platform.defaultMrl else source
    label := defaultVideoStreamId }

def setLocalHostDefaultMediaSource (platform : Platform) (conference : Conference)
    (addVideo : Bool) (source : String) : Conference :=
  { conference with
    hostSources := defaultAudioSource ::
      if conference.videoEnabled && addVideo then [defaultVideoSource platform source] else [] }

def setMuteState (type : MediaType) (muted : Bool) (sources : List MediaAttribute) :
    List MediaAttribute :=
  sources.map (fun source => if source.type = type then { source with muted := muted } else source)

def setLocalHostMuteState (conference : Conference) (type : MediaType) (muted : Bool) :
    Conference :=
  { conference with hostSources := setMuteState type muted conference.hostSources }

end Conference

end SipCore
