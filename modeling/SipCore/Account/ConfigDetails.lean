/-
A details map as an update of the configuration of a SIP account. Six parts of the
configuration are written whether the map names them or not. The update throws at the
first number it cannot read and at an unknown transport; what was written before stays.
-/

import SipCore.Library.AssocMap
import SipCore.Account.AccountConfig

namespace SipCore.Account

abbrev Details := AssocMap String String

abbrev Setting := Statement ConfigError SipAccountConfig

section FromMap

variable (details : Details)

def parseString (key : String) (field : TextField) : Setting :=
  .change (fun config => config.setText field ((details.find? key).getD (config.text field)))

def parseBool (key : String) (field : FlagField) : Setting :=
  .change (fun config => config.setFlag field
    (((details.find? key).map (fun text => decide (text = "true"))).getD (config.flag field)))

def intFailure (key : String) (low high : Int) : Option ConfigError :=
  match (details.find? key).map (toInt low high) with
  | some (.error error) => some error
  | _ => none

def intValue (key : String) (low high : Int) : Option (Within low high) :=
  match (details.find? key).map (toInt low high) with
  | some (.ok value) => some value
  | _ => none

def parseInt (key : String) (field : NumberField) : Setting :=
  { failure := intFailure details key field.low field.high
    effect := fun config => config.setNumber field
      ((intValue details key field.low field.high).getD (config.number field)) }

def parseLocalInt (key : String) : Setting :=
  { failure := intFailure details key intMin intMax
    effect := id }

/-- An end of a port range. A missing one is -1, which as a port is 65535. -/
def portDetail (key : String) : UInt16 :=
  toPort (((intValue details key intMin intMax).map Subtype.val).getD (-1))

def identitySettings : List Setting :=
  [parseString details "Account.alias" .accountAlias,
    parseString details "Account.displayName" .displayName,
    parseBool details "Account.enable" .enabled,
    parseBool details "Account.videoEnabled" .videoEnabled,
    parseString details "Account.hostname" .hostname,
    parseString details "Account.mailbox" .mailbox,
    parseBool details "Account.autoAnswer" .autoAnswerEnabled,
    parseBool details "Account.sendReadReceipt" .sendReadReceipt,
    parseBool details "Account.rendezVous" .isRendezVous,
    parseInt details "Account.activeCallLimit" .activeCallLimit,
    parseBool details "Account.ringtoneEnabled" .ringtoneEnabled,
    parseString details "Account.ringtonePath" .ringtonePath,
    parseInt details "Account.pauseAfterAlertInfo" .pauseAfterAlertInfo]

def noPause : NumberField.Value .pauseAfterAlertInfo := ⟨0, by decide⟩

def clampPause : Setting :=
  .change (fun config => config.setNumber .pauseAfterAlertInfo
    (if (config.number .pauseAfterAlertInfo).val < 0 then noPause
      else config.number .pauseAfterAlertInfo))

def agentSettings : List Setting :=
  [parseString details "Account.useragent" .customUserAgent,
    parseBool details "Account.upnpEnabled" .upnpEnabled]

def assignModerators : Setting :=
  .change (fun config =>
    { config with
      defaultModerators := stringSplitSet ((details.find? "Account.defaultModerators").getD "") })

def moderatorSettings : List Setting :=
  [parseBool details "Account.localModeratorsEnabled" .localModeratorsEnabled,
    parseBool details "Account.allModeratorEnabled" .allModeratorsEnabled,
    assignTransport ((details.find? "Account.transport").getD "")]

def accountSettings : List Setting :=
  identitySettings details ++ clampPause ::
    (agentSettings details ++ assignModerators details :: moderatorSettings details)

def addressSettings : List Setting :=
  [parseString details "Account.localInterface" .baseInterface,
    parseBool details "Account.publishedSameAsLocal" .publishedSameasLocal,
    parseString details "Account.publishedAddress" .publishedIp,
    parseString details "Account.dtmfType" .dtmfType]

def audioPorts : List Setting :=
  [parseLocalInt details "Account.audioPortMin", parseLocalInt details "Account.audioPortMax"]

def updateAudioRange : Setting :=
  .change (fun config =>
    { config with
      audioPortRange := updateRange (portDetail details "Account.audioPortMin")
        (portDetail details "Account.audioPortMax") config.audioPortRange })

def videoPorts : List Setting :=
  [parseLocalInt details "Account.videoPortMin", parseLocalInt details "Account.videoPortMax"]

def updateVideoRange : Setting :=
  .change (fun config =>
    { config with
      videoPortRange := updateRange (portDetail details "Account.videoPortMin")
        (portDetail details "Account.videoPortMax") config.videoPortRange })

def baseSettings : List Setting :=
  addressSettings details ++ audioPorts details ++ updateAudioRange details ::
    (videoPorts details ++ [updateVideoRange details])

def sipSettings : List Setting :=
  [parseString details "Account.username" .username,
    parseInt details "Account.localPort" .localPort,
    parseString details "Account.bindAddress" .bindAddress,
    parseString details "Account.routeset" .serviceRoute]

def assignRoutes : Setting :=
  .change (fun config =>
    { config with
      backServiceRoutes := stringSplitVec ((details.find? "Account.backRouteset").getD "") })

def assignKeyExchange : Setting :=
  .change (fun config =>
    { config with
      srtpKeyExchange :=
        ((details.find? "SRTP.keyExchange").map getKeyExchangeProtocol).getD
          config.srtpKeyExchange })

def assignKeepAliveType : Setting :=
  .change (fun config =>
    { config with
      keepAliveType :=
        ((details.find? "Account.keepAliveType").map getKeepAliveType).getD config.keepAliveType })

def networkSettings : List Setting :=
  [parseBool details "Account.allowIPAutoRewrite" .allowIPAutoRewrite,
    parseString details "Account.localInterface" .interface,
    parseBool details "Account.publishedSameAsLocal" .publishedSameasLocal,
    parseString details "Account.publishedAddress" .publishedIp,
    parseInt details "Account.publishedPort" .publishedPort,
    parseBool details "Account.presenceEnabled" .presenceEnabled,
    parseString details "Account.dtmfType" .dtmfType,
    parseInt details "Account.registrationExpire" .registrationExpire,
    parseBool details "SRTP.rtpFallback" .srtpFallback,
    assignKeyExchange details,
    parseInt details "Account.keepAliveInterval" .keepAliveInterval,
    assignKeepAliveType details]

def assignCredentials : Setting :=
  .change (fun config =>
    { config with
      credentials :=
        [{ realm := "*"
           username := config.text .username
           password := (details.find? "Account.password").getD ""
           passwordHash := (details.find? "Account.hash").getD "" }] })

def ownSettings : List Setting :=
  sipSettings details ++ assignRoutes details ::
    (networkSettings details ++ [assignCredentials details])

def fromMapSettings : List Setting :=
  accountSettings details ++ (baseSettings details ++ ownSettings details)

def SipAccountConfig.fromMap (config : SipAccountConfig) : SipAccountConfig × Option ConfigError :=
  Statement.run (fromMapSettings details) config

end FromMap

variable {key : String}

theorem intValue_of_absent {details : Details} {low high : Int} (absent : details.find? key = none) :
    intValue details key low high = none := by
  unfold intValue
  rw [absent]
  rfl

private theorem transportOr_empty (present : TransportType) : transportOr "" present = present := by
  have unknown : getTransportType "" = .error (.unknownTransport "") := by decide
  unfold transportOr
  rw [unknown]

/-! ### Fields and their keys -/

def TextField.detailKey : TextField → Option String
  | .accountType | .deviceKey | .notificationTopic | .password => none
  | .accountAlias => some "Account.alias"
  | .username => some "Account.username"
  | .hostname => some "Account.hostname"
  | .ringtonePath => some "Account.ringtonePath"
  | .displayName => some "Account.displayName"
  | .customUserAgent => some "Account.useragent"
  | .mailbox => some "Account.mailbox"
  | .baseInterface | .interface => some "Account.localInterface"
  | .publishedIp => some "Account.publishedAddress"
  | .dtmfType => some "Account.dtmfType"
  | .bindAddress => some "Account.bindAddress"
  | .serviceRoute => some "Account.routeset"

def FlagField.detailKey : FlagField → Option String
  | .publishSupported | .subscribeSupported => none
  | .enabled => some "Account.enable"
  | .autoAnswerEnabled => some "Account.autoAnswer"
  | .sendReadReceipt => some "Account.sendReadReceipt"
  | .isRendezVous => some "Account.rendezVous"
  | .ringtoneEnabled => some "Account.ringtoneEnabled"
  | .videoEnabled => some "Account.videoEnabled"
  | .upnpEnabled => some "Account.upnpEnabled"
  | .localModeratorsEnabled => some "Account.localModeratorsEnabled"
  | .allModeratorsEnabled => some "Account.allModeratorEnabled"
  | .publishedSameasLocal => some "Account.publishedSameAsLocal"
  | .allowIPAutoRewrite => some "Account.allowIPAutoRewrite"
  | .srtpFallback => some "SRTP.rtpFallback"
  | .presenceEnabled => some "Account.presenceEnabled"

def NumberField.detailKey : NumberField → String
  | .activeCallLimit => "Account.activeCallLimit"
  | .pauseAfterAlertInfo => "Account.pauseAfterAlertInfo"
  | .localPort => "Account.localPort"
  | .publishedPort => "Account.publishedPort"
  | .keepAliveInterval => "Account.keepAliveInterval"
  | .registrationExpire => "Account.registrationExpire"

inductive CredentialPart where
  | realm
  | username
  | password
  | passwordHash
deriving DecidableEq, Repr

def CredentialPart.of : CredentialPart → Credentials → String
  | .realm => Credentials.realm
  | .username => Credentials.username
  | .password => Credentials.password
  | .passwordHash => Credentials.passwordHash

def CredentialPart.detailKey : CredentialPart → Option String
  | .realm => none
  | .username => some "Account.username"
  | .password => some "Account.password"
  | .passwordHash => some "Account.hash"

/-- The map does not name the field of this key; a field without key is never named. -/
def Unnamed (details : Details) (key : Option String) : Prop :=
  ∀ name, key = some name → details.find? name = none

/-- The fields that are written only if the map names them. -/
structure Kept (details : Details) (before after : SipAccountConfig) : Prop where
  id : after.id = before.id
  activeCodecs : after.activeCodecs = before.activeCodecs
  serializeCredentials : after.serializeCredentials = before.serializeCredentials
  text : ∀ field : TextField, Unnamed details field.detailKey → after.text field = before.text field
  flag : ∀ field : FlagField, Unnamed details field.detailKey → after.flag field = before.flag field
  number : ∀ field : NumberField, field ≠ .pauseAfterAlertInfo →
    details.find? field.detailKey = none → after.number field = before.number field
  transport : details.find? "Account.transport" = none → after.transport = before.transport
  keepAliveType : details.find? "Account.keepAliveType" = none →
    after.keepAliveType = before.keepAliveType
  srtpKeyExchange : details.find? "SRTP.keyExchange" = none →
    after.srtpKeyExchange = before.srtpKeyExchange

/-- Every field the map does not name stays as it was. -/
structure Framed (details : Details) (before after : SipAccountConfig) : Prop extends
    Kept details before after where
  pauseAfterAlertInfo : details.find? "Account.pauseAfterAlertInfo" = none →
    after.number .pauseAfterAlertInfo = before.number .pauseAfterAlertInfo
  defaultModerators : details.find? "Account.defaultModerators" = none →
    after.defaultModerators = before.defaultModerators
  audioPortMin : details.find? "Account.audioPortMin" = none →
    after.audioPortRange.1 = before.audioPortRange.1
  audioPortMax : details.find? "Account.audioPortMax" = none →
    after.audioPortRange.2 = before.audioPortRange.2
  videoPortMin : details.find? "Account.videoPortMin" = none →
    after.videoPortRange.1 = before.videoPortRange.1
  videoPortMax : details.find? "Account.videoPortMax" = none →
    after.videoPortRange.2 = before.videoPortRange.2
  backServiceRoutes : details.find? "Account.backRouteset" = none →
    after.backServiceRoutes = before.backServiceRoutes
  credentials : ∀ part : CredentialPart, Unnamed details part.detailKey →
    after.credentials.map part.of = before.credentials.map part.of

namespace Kept

variable {details : Details}

theorem refl (config : SipAccountConfig) : Kept details config config :=
  ⟨rfl, rfl, rfl, fun _ _ => rfl, fun _ _ => rfl, fun _ _ _ => rfl, fun _ => rfl, fun _ => rfl,
    fun _ => rfl⟩

private theorem trans {first second third : SipAccountConfig} (earlier : Kept details first second)
    (later : Kept details second third) : Kept details first third :=
  { id := later.id.trans earlier.id
    activeCodecs := later.activeCodecs.trans earlier.activeCodecs
    serializeCredentials := later.serializeCredentials.trans earlier.serializeCredentials
    text := fun field unnamed => (later.text field unnamed).trans (earlier.text field unnamed)
    flag := fun field unnamed => (later.flag field unnamed).trans (earlier.flag field unnamed)
    number := fun field other absent =>
      (later.number field other absent).trans (earlier.number field other absent)
    transport := fun absent => (later.transport absent).trans (earlier.transport absent)
    keepAliveType := fun absent =>
      (later.keepAliveType absent).trans (earlier.keepAliveType absent)
    srtpKeyExchange := fun absent =>
      (later.srtpKeyExchange absent).trans (earlier.srtpKeyExchange absent) }

theorem parseString {field : TextField} (named : field.detailKey = some key)
    (config : SipAccountConfig) :
    Kept details config ((parseString details key field).effect config) := by
  refine { refl config with text := ?_ }
  intro other unnamed
  by_cases same : other = field
  · subst same
    change Function.update config.text other _ other = _
    rw [Function.update_self, unnamed key named]
    rfl
  · exact Function.update_of_ne same _ _

theorem parseBool {field : FlagField} (named : field.detailKey = some key)
    (config : SipAccountConfig) :
    Kept details config ((parseBool details key field).effect config) := by
  refine { refl config with flag := ?_ }
  intro other unnamed
  by_cases same : other = field
  · subst same
    change Function.update config.flag other _ other = _
    rw [Function.update_self, unnamed key named]
    rfl
  · exact Function.update_of_ne same _ _

theorem parseInt {field : NumberField} (named : field.detailKey = key) (config : SipAccountConfig) :
    Kept details config ((parseInt details key field).effect config) := by
  refine { refl config with number := ?_ }
  intro other _ absent
  by_cases same : other = field
  · subst same
    rw [named] at absent
    change Function.update config.number other _ other = _
    rw [Function.update_self, intValue_of_absent absent]
    rfl
  · exact Function.update_of_ne same _ _

theorem clampPause (config : SipAccountConfig) : Kept details config (clampPause.effect config) := by
  refine { refl config with number := ?_ }
  intro other different _
  exact Function.update_of_ne different _ _

theorem assignTransport (config : SipAccountConfig) :
    Kept details config
      ((assignTransport ((details.find? "Account.transport").getD "")).effect config) := by
  refine { refl config with transport := ?_ }
  intro absent
  rw [absent]
  exact transportOr_empty config.transport

private theorem keyExchange (config : SipAccountConfig) :
    Kept details config ((assignKeyExchange details).effect config) := by
  refine { refl config with srtpKeyExchange := ?_ }
  intro absent
  change ((details.find? "SRTP.keyExchange").map _).getD _ = _
  rw [absent]
  rfl

private theorem keepAlive (config : SipAccountConfig) :
    Kept details config ((assignKeepAliveType details).effect config) := by
  refine { refl config with keepAliveType := ?_ }
  intro absent
  change ((details.find? "Account.keepAliveType").map _).getD _ = _
  rw [absent]
  rfl

end Kept

section Run

variable (details : Details)

private theorem kept_accountSettings : ∀ setting ∈ accountSettings details, ∀ config,
    Kept details config (setting.effect config) := by
  simp only [accountSettings, identitySettings, agentSettings, moderatorSettings, List.cons_append,
    List.nil_append, List.forall_mem_cons]
  exact ⟨.parseString rfl, .parseString rfl, .parseBool rfl, .parseBool rfl, .parseString rfl,
    .parseString rfl, .parseBool rfl, .parseBool rfl, .parseBool rfl, .parseInt rfl,
    .parseBool rfl, .parseString rfl, .parseInt rfl, .clampPause, .parseString rfl,
    .parseBool rfl, fun config => { Kept.refl config with }, .parseBool rfl, .parseBool rfl,
    .assignTransport, nofun⟩

private theorem kept_baseSettings : ∀ setting ∈ baseSettings details, ∀ config,
    Kept details config (setting.effect config) := by
  simp only [baseSettings, addressSettings, audioPorts, videoPorts, List.cons_append,
    List.nil_append, List.forall_mem_cons]
  exact ⟨.parseString rfl, .parseBool rfl, .parseString rfl, .parseString rfl, .refl, .refl,
    fun config => { Kept.refl config with }, .refl, .refl,
    fun config => { Kept.refl config with }, nofun⟩

private theorem kept_ownSettings : ∀ setting ∈ ownSettings details, ∀ config,
    Kept details config (setting.effect config) := by
  simp only [ownSettings, sipSettings, networkSettings, List.cons_append, List.nil_append,
    List.forall_mem_cons]
  exact ⟨.parseString rfl, .parseInt rfl, .parseString rfl, .parseString rfl,
    fun config => { Kept.refl config with }, .parseBool rfl, .parseString rfl, .parseBool rfl,
    .parseString rfl, .parseInt rfl, .parseBool rfl, .parseString rfl, .parseInt rfl,
    .parseBool rfl, .keyExchange, .parseInt rfl, .keepAlive,
    fun config => { Kept.refl config with }, nofun⟩

theorem kept_fromMap (config : SipAccountConfig) : Kept details config (config.fromMap details).1 := by
  apply Statement.run_keeps (Kept details) Kept.refl (fun _ _ _ => Kept.trans)
  intro setting member
  rcases List.mem_append.mp member with account | later
  · exact kept_accountSettings details setting account
  · rcases List.mem_append.mp later with base | own
    · exact kept_baseSettings details setting base
    · exact kept_ownSettings details setting own

end Run

/-! ### How far the update gets -/

section Reach

variable (details : Details)

def Readable (key : String) (low high : Int) : Prop := intFailure details key low high = none

def ReadsAccount : Prop :=
  Readable details "Account.activeCallLimit" intMin intMax ∧
  Readable details "Account.pauseAfterAlertInfo" intMin intMax

def ReadsTransport : Prop :=
  ReadsAccount details ∧
  (assignTransport ((details.find? "Account.transport").getD "")).failure = none

def ReadsAudio : Prop :=
  ReadsTransport details ∧ Readable details "Account.audioPortMin" intMin intMax ∧
  Readable details "Account.audioPortMax" intMin intMax

def ReadsVideo : Prop :=
  ReadsAudio details ∧ Readable details "Account.videoPortMin" intMin intMax ∧
  Readable details "Account.videoPortMax" intMin intMax

def ReadsLocalPort : Prop :=
  ReadsVideo details ∧ Readable details "Account.localPort" 0 65535

def ReadsAll : Prop :=
  ReadsLocalPort details ∧ Readable details "Account.publishedPort" 0 65535 ∧
  Readable details "Account.registrationExpire" 0 4294967295 ∧
  Readable details "Account.keepAliveInterval" 0 4294967295

theorem passable_identitySettings :
    Statement.Passable (identitySettings details) ↔ ReadsAccount details := by
  simp [identitySettings, parseString, parseBool, parseInt, ReadsAccount, Readable,
    NumberField.low, NumberField.high]

theorem passable_accountSettings :
    Statement.Passable (accountSettings details) ↔ ReadsTransport details := by
  unfold accountSettings ReadsTransport
  rw [Statement.passable_append, passable_identitySettings]
  simp [clampPause, agentSettings, assignModerators, moderatorSettings, parseString, parseBool]

theorem passable_addressSettings : Statement.Passable (addressSettings details) := by
  simp [addressSettings, parseString, parseBool]

theorem passable_audioPorts :
    Statement.Passable (audioPorts details) ↔
      Readable details "Account.audioPortMin" intMin intMax ∧
      Readable details "Account.audioPortMax" intMin intMax := by
  simp [audioPorts, parseLocalInt, Readable]

theorem passable_videoPorts :
    Statement.Passable (videoPorts details) ↔
      Readable details "Account.videoPortMin" intMin intMax ∧
      Readable details "Account.videoPortMax" intMin intMax := by
  simp [videoPorts, parseLocalInt, Readable]

theorem passable_baseSettings :
    Statement.Passable (accountSettings details ++ baseSettings details) ↔ ReadsVideo details := by
  simp only [baseSettings, Statement.passable_append, Statement.passable_cons,
    passable_accountSettings, passable_audioPorts, passable_videoPorts, ReadsVideo, ReadsAudio,
    updateAudioRange, updateVideoRange, Statement.change_failure, Statement.passable_nil,
    passable_addressSettings, true_and, and_true, and_assoc]

theorem passable_sipSettings :
    Statement.Passable (sipSettings details) ↔ Readable details "Account.localPort" 0 65535 := by
  simp [sipSettings, parseString, parseInt, Readable, NumberField.low, NumberField.high]

private theorem passable_networkSettings :
    Statement.Passable (networkSettings details) ↔
      Readable details "Account.publishedPort" 0 65535 ∧
      Readable details "Account.registrationExpire" 0 4294967295 ∧
      Readable details "Account.keepAliveInterval" 0 4294967295 := by
  simp [networkSettings, parseString, parseBool, parseInt, assignKeyExchange, assignKeepAliveType,
    Readable, NumberField.low, NumberField.high]

end Reach

/-- An observed part that the settings of single fields do not change. -/
structure Indifferent {β : Type} (details : Details) (observe : SipAccountConfig → β) : Prop where
  text : ∀ {key : String} {field : TextField}, field.detailKey = some key → ∀ config,
    observe ((parseString details key field).effect config) = observe config
  flag : ∀ {key : String} {field : FlagField}, field.detailKey = some key → ∀ config,
    observe ((parseBool details key field).effect config) = observe config
  number : ∀ {key : String} {field : NumberField}, field.detailKey = key → ∀ config,
    observe ((parseInt details key field).effect config) = observe config
  transport : ∀ name config, observe ((assignTransport name).effect config) = observe config
  keyExchange : ∀ config, observe ((assignKeyExchange details).effect config) = observe config
  keepAlive : ∀ config, observe ((assignKeepAliveType details).effect config) = observe config

namespace Indifferent

open Statement

variable {β : Type} {details : Details} {observe : SipAccountConfig → β}

section

variable (same : Indifferent details observe)
include same

theorem identity : Untouched observe (identitySettings details) := by
  simp only [identitySettings, untouched_cons]
  exact ⟨same.text rfl, same.text rfl, same.flag rfl, same.flag rfl, same.text rfl, same.text rfl,
    same.flag rfl, same.flag rfl, same.flag rfl, same.number rfl, same.flag rfl, same.text rfl,
    same.number rfl, untouched_nil⟩

theorem agent : Untouched observe (agentSettings details) := by
  simp only [agentSettings, untouched_cons]
  exact ⟨same.text rfl, same.flag rfl, untouched_nil⟩

theorem moderator : Untouched observe (moderatorSettings details) := by
  simp only [moderatorSettings, untouched_cons]
  exact ⟨same.flag rfl, same.flag rfl, same.transport _, untouched_nil⟩

theorem address : Untouched observe (addressSettings details) := by
  simp only [addressSettings, untouched_cons]
  exact ⟨same.text rfl, same.flag rfl, same.text rfl, same.text rfl, untouched_nil⟩

theorem sip : Untouched observe (sipSettings details) := by
  simp only [sipSettings, untouched_cons]
  exact ⟨same.text rfl, same.number rfl, same.text rfl, same.text rfl, untouched_nil⟩

theorem network : Untouched observe (networkSettings details) := by
  simp only [networkSettings, untouched_cons]
  exact ⟨same.flag rfl, same.text rfl, same.flag rfl, same.text rfl, same.number rfl,
    same.flag rfl, same.text rfl, same.number rfl, same.flag rfl, same.keyExchange,
    same.number rfl, same.keepAlive, untouched_nil⟩

end

end Indifferent

section Written

open Statement

variable (details : Details) (config : SipAccountConfig)

section Untouched

variable {β : Type} {observe : SipAccountConfig → β} {details}

theorem untouched_audioPorts : Untouched observe (audioPorts details) := by
  simp only [audioPorts, untouched_cons]
  exact ⟨fun _ => rfl, fun _ => rfl, untouched_nil⟩

theorem untouched_videoPorts : Untouched observe (videoPorts details) := by
  simp only [videoPorts, untouched_cons]
  exact ⟨fun _ => rfl, fun _ => rfl, untouched_nil⟩

theorem untouched_accountSettings (same : Indifferent details observe)
    (pause : ∀ config, observe (clampPause.effect config) = observe config)
    (moderators : ∀ config, observe ((assignModerators details).effect config) = observe config) :
    Untouched observe (accountSettings details) :=
  untouched_append.mpr ⟨same.identity, untouched_cons.mpr ⟨pause,
    untouched_append.mpr ⟨same.agent, untouched_cons.mpr ⟨moderators, same.moderator⟩⟩⟩⟩

theorem untouched_baseSettings (same : Indifferent details observe)
    (audio : ∀ config, observe ((updateAudioRange details).effect config) = observe config)
    (video : ∀ config, observe ((updateVideoRange details).effect config) = observe config) :
    Untouched observe (baseSettings details) :=
  untouched_append.mpr ⟨untouched_append.mpr ⟨same.address, untouched_audioPorts⟩,
    untouched_cons.mpr ⟨audio, untouched_append.mpr ⟨untouched_videoPorts,
      untouched_cons.mpr ⟨video, untouched_nil⟩⟩⟩⟩

theorem untouched_ownSettings (same : Indifferent details observe)
    (routes : ∀ config, observe ((assignRoutes details).effect config) = observe config)
    (credentials : ∀ config, observe ((assignCredentials details).effect config) = observe config) :
    Untouched observe (ownSettings details) :=
  untouched_append.mpr ⟨same.sip, untouched_cons.mpr ⟨routes,
    untouched_append.mpr ⟨same.network, untouched_cons.mpr ⟨credentials, untouched_nil⟩⟩⟩⟩

end Untouched

private theorem fromMapSettings_pause :
    fromMapSettings details = identitySettings details ++ clampPause ::
      (agentSettings details ++ assignModerators details :: moderatorSettings details ++
        (baseSettings details ++ ownSettings details)) := by
  simp only [fromMapSettings, accountSettings, List.append_assoc, List.cons_append]

theorem fromMapSettings_moderators :
    fromMapSettings details =
      (identitySettings details ++ clampPause :: agentSettings details) ++ assignModerators details ::
        (moderatorSettings details ++ (baseSettings details ++ ownSettings details)) := by
  simp only [fromMapSettings, accountSettings, List.append_assoc, List.cons_append]

private theorem fromMapSettings_audio :
    fromMapSettings details =
      (accountSettings details ++ (addressSettings details ++ audioPorts details)) ++
        updateAudioRange details :: (videoPorts details ++ [updateVideoRange details] ++
          ownSettings details) := by
  simp only [fromMapSettings, baseSettings, List.append_assoc, List.cons_append]

private theorem fromMapSettings_video :
    fromMapSettings details =
      (accountSettings details ++ (addressSettings details ++ audioPorts details ++
        updateAudioRange details :: videoPorts details)) ++
        updateVideoRange details :: ownSettings details := by
  simp only [fromMapSettings, baseSettings, List.append_assoc, List.cons_append, List.nil_append]

private theorem fromMapSettings_routes :
    fromMapSettings details =
      (accountSettings details ++ baseSettings details ++ sipSettings details) ++
        assignRoutes details :: (networkSettings details ++ [assignCredentials details]) := by
  simp only [fromMapSettings, ownSettings, List.append_assoc]

theorem fromMapSettings_credentials :
    fromMapSettings details =
      (accountSettings details ++ baseSettings details ++ (sipSettings details ++
        assignRoutes details :: networkSettings details)) ++ assignCredentials details :: [] := by
  simp only [fromMapSettings, ownSettings, List.append_assoc, List.cons_append]

section Rule

variable {details} {β : Type} {observe : SipAccountConfig → β} {write : β → β}
  {before after : List Setting} {setting : Setting} {reached : Prop}

theorem fromMap_keeps_iff (shape : fromMapSettings details = before ++ setting :: after)
    (writes : Writes observe write before setting after)
    (reaches : Passable (before ++ [setting]) ↔ reached) (keeps : β → β → Prop)
    (refl : ∀ part, keeps part part) :
    keeps (observe config) (observe (config.fromMap details).1) ↔
      (reached → keeps (observe config) (write (observe config))) := by
  unfold SipAccountConfig.fromMap
  rw [shape, ← reaches]
  exact writes.keeps_iff keeps refl config

theorem fromMap_keeps_unnamed_iff (shape : fromMapSettings details = before ++ setting :: after)
    (writes : Writes observe write before setting after)
    (reaches : Passable (before ++ [setting]) ↔ reached) (unnamed : Prop) :
    (unnamed → observe (config.fromMap details).1 = observe config) ↔
      (reached → unnamed → write (observe config) = observe config) :=
  fromMap_keeps_iff config shape writes reaches
    (fun before after => unnamed → after = before) (fun _ _ => rfl)

end Rule

private theorem indifferent_pause (absent : details.find? "Account.pauseAfterAlertInfo" = none) :
    Indifferent details (fun config => config.number .pauseAfterAlertInfo) := by
  refine ⟨fun _ _ => rfl, fun _ _ => rfl, ?_, fun _ _ => rfl, fun _ => rfl, fun _ => rfl⟩
  intro key field named config
  change Function.update config.number field _ .pauseAfterAlertInfo = _
  by_cases same : field = .pauseAfterAlertInfo
  · subst same
    subst named
    have missing : intValue details (NumberField.detailKey .pauseAfterAlertInfo)
        (NumberField.low .pauseAfterAlertInfo) (NumberField.high .pauseAfterAlertInfo) = none :=
      intValue_of_absent absent
    rw [missing]
    rfl
  · exact Function.update_of_ne (fun other => same other.symm) _ _

private theorem pause_kept_iff :
    (details.find? "Account.pauseAfterAlertInfo" = none →
      (config.fromMap details).1.number .pauseAfterAlertInfo =
        config.number .pauseAfterAlertInfo) ↔
    (ReadsAccount details → details.find? "Account.pauseAfterAlertInfo" = none →
      0 ≤ (config.number .pauseAfterAlertInfo).val) := by
  rw [imp.swap]
  apply imp_congr_right
  intro absent
  have same := indifferent_pause details absent
  have reaches : Passable (identitySettings details ++ [clampPause]) ↔ ReadsAccount details := by
    rw [passable_append, passable_identitySettings]
    simp [clampPause]
  have writes : Writes (fun config => config.number .pauseAfterAlertInfo)
      (fun pause => if pause.val < 0 then noPause else pause) (identitySettings details) clampPause
      (agentSettings details ++ assignModerators details :: moderatorSettings details ++
        (baseSettings details ++ ownSettings details)) :=
    { before := same.identity
      written := by
        intro config
        change Function.update config.number .pauseAfterAlertInfo _ .pauseAfterAlertInfo = _
        exact Function.update_self _ _ _
      after := untouched_append.mpr ⟨untouched_append.mpr ⟨same.agent,
        untouched_cons.mpr ⟨fun _ => rfl, same.moderator⟩⟩, untouched_append.mpr
        ⟨untouched_baseSettings same (fun _ => rfl) (fun _ => rfl),
          untouched_ownSettings same (fun _ => rfl) (fun _ => rfl)⟩⟩ }
  apply (fromMap_keeps_iff config (fromMapSettings_pause details) writes reaches
    (fun before after => after = before) (fun _ => rfl)).trans
  apply imp_congr_right
  intro _
  by_cases negative : (config.number .pauseAfterAlertInfo).val < 0
  · rw [if_pos negative]
    constructor
    · intro clamped
      rw [← clamped]
      exact Int.le_refl 0
    · intro positive
      omega
  · rw [if_neg negative]
    exact ⟨fun _ => Int.not_lt.mp negative, fun _ => rfl⟩

private theorem defaultModerators_kept_iff :
    (details.find? "Account.defaultModerators" = none →
      (config.fromMap details).1.defaultModerators = config.defaultModerators) ↔
    (ReadsAccount details → details.find? "Account.defaultModerators" = none →
      config.defaultModerators = ∅) := by
  have same : Indifferent details SipAccountConfig.defaultModerators :=
    ⟨fun _ _ => rfl, fun _ _ => rfl, fun _ _ => rfl, fun _ _ => rfl, fun _ => rfl, fun _ => rfl⟩
  have writes : Writes SipAccountConfig.defaultModerators
      (fun _ => stringSplitSet ((details.find? "Account.defaultModerators").getD ""))
      (identitySettings details ++ clampPause :: agentSettings details) (assignModerators details)
      (moderatorSettings details ++ (baseSettings details ++ ownSettings details)) :=
    { before := untouched_append.mpr ⟨same.identity, untouched_cons.mpr ⟨fun _ => rfl, same.agent⟩⟩
      written := fun _ => rfl
      after := untouched_append.mpr ⟨same.moderator, untouched_append.mpr
        ⟨untouched_baseSettings same (fun _ => rfl) (fun _ => rfl),
          untouched_ownSettings same (fun _ => rfl) (fun _ => rfl)⟩⟩ }
  have reaches : Passable ((identitySettings details ++ clampPause :: agentSettings details) ++
      [assignModerators details]) ↔ ReadsAccount details := by
    rw [passable_append, passable_append, passable_identitySettings]
    simp [clampPause, agentSettings, assignModerators, parseString, parseBool]
  apply (fromMap_keeps_unnamed_iff config (fromMapSettings_moderators details) writes reaches _).trans
  apply imp_congr_right
  intro _
  apply imp_congr_right
  intro absent
  rw [absent]
  exact eq_comm

/-- What keeps the ends of a range the map does not name, if it updates the range. -/
def RangeSafe (minKey maxKey : String) (range : UInt16 × UInt16) : Prop :=
  ValidRange (portDetail details minKey, portDetail details maxKey) →
    (details.find? minKey = none → range.1 = portDetail details minKey) ∧
    (details.find? maxKey = none → range.2 = portDetail details maxKey)

def RangeKept (minKey maxKey : String) (before after : UInt16 × UInt16) : Prop :=
  (details.find? minKey = none → after.1 = before.1) ∧
  (details.find? maxKey = none → after.2 = before.2)

theorem rangeKept_updateRange_iff (minKey maxKey : String) (range : UInt16 × UInt16) :
    RangeKept details minKey maxKey range
      (updateRange (portDetail details minKey) (portDetail details maxKey) range) ↔
    RangeSafe details minKey maxKey range := by
  unfold RangeKept RangeSafe updateRange
  by_cases valid : portDetail details minKey > 0 ∧ portDetail details maxKey > 0 ∧
      portDetail details minKey ≤ portDetail details maxKey
  · rw [if_pos valid]
    constructor
    · intro kept _
      exact ⟨fun absent => (kept.1 absent).symm, fun absent => (kept.2 absent).symm⟩
    · intro safe
      exact ⟨fun absent => ((safe valid).1 absent).symm, fun absent => ((safe valid).2 absent).symm⟩
  · rw [if_neg valid]
    constructor
    · intro _ passes
      exact absurd passes valid
    · intro _
      exact ⟨fun _ => rfl, fun _ => rfl⟩

private theorem audioPortRange_kept_iff :
    RangeKept details "Account.audioPortMin" "Account.audioPortMax" config.audioPortRange
      (config.fromMap details).1.audioPortRange ↔
    (ReadsAudio details →
      RangeSafe details "Account.audioPortMin" "Account.audioPortMax" config.audioPortRange) := by
  have same : Indifferent details SipAccountConfig.audioPortRange :=
    ⟨fun _ _ => rfl, fun _ _ => rfl, fun _ _ => rfl, fun _ _ => rfl, fun _ => rfl, fun _ => rfl⟩
  have writes : Writes SipAccountConfig.audioPortRange
      (updateRange (portDetail details "Account.audioPortMin")
        (portDetail details "Account.audioPortMax"))
      (accountSettings details ++ (addressSettings details ++ audioPorts details))
      (updateAudioRange details)
      (videoPorts details ++ [updateVideoRange details] ++ ownSettings details) :=
    { before := untouched_append.mpr
        ⟨untouched_accountSettings same (fun _ => rfl) (fun _ => rfl),
          untouched_append.mpr ⟨same.address, untouched_audioPorts⟩⟩
      written := fun _ => rfl
      after := untouched_append.mpr ⟨untouched_append.mpr ⟨untouched_videoPorts,
          untouched_cons.mpr ⟨fun _ => rfl, untouched_nil⟩⟩,
        untouched_ownSettings same (fun _ => rfl) (fun _ => rfl)⟩ }
  have reaches : Passable ((accountSettings details ++ (addressSettings details ++
      audioPorts details)) ++ [updateAudioRange details]) ↔ ReadsAudio details := by
    simp only [passable_append, passable_cons, passable_nil, passable_accountSettings,
      passable_addressSettings, passable_audioPorts, updateAudioRange, change_failure, true_and,
      and_true, ReadsAudio]
  rw [← rangeKept_updateRange_iff]
  exact fromMap_keeps_iff config (fromMapSettings_audio details) writes reaches
    (RangeKept details "Account.audioPortMin" "Account.audioPortMax")
    (fun _ => ⟨fun _ => rfl, fun _ => rfl⟩)

theorem videoPortRange_kept_iff :
    RangeKept details "Account.videoPortMin" "Account.videoPortMax" config.videoPortRange
      (config.fromMap details).1.videoPortRange ↔
    (ReadsVideo details →
      RangeSafe details "Account.videoPortMin" "Account.videoPortMax" config.videoPortRange) := by
  have same : Indifferent details SipAccountConfig.videoPortRange :=
    ⟨fun _ _ => rfl, fun _ _ => rfl, fun _ _ => rfl, fun _ _ => rfl, fun _ => rfl, fun _ => rfl⟩
  have writes : Writes SipAccountConfig.videoPortRange
      (updateRange (portDetail details "Account.videoPortMin")
        (portDetail details "Account.videoPortMax"))
      (accountSettings details ++ (addressSettings details ++ audioPorts details ++
        updateAudioRange details :: videoPorts details))
      (updateVideoRange details) (ownSettings details) :=
    { before := untouched_append.mpr
        ⟨untouched_accountSettings same (fun _ => rfl) (fun _ => rfl),
          untouched_append.mpr ⟨untouched_append.mpr ⟨same.address, untouched_audioPorts⟩,
            untouched_cons.mpr ⟨fun _ => rfl, untouched_videoPorts⟩⟩⟩
      written := fun _ => rfl
      after := untouched_ownSettings same (fun _ => rfl) (fun _ => rfl) }
  have reaches : Passable ((accountSettings details ++ (addressSettings details ++
      audioPorts details ++ updateAudioRange details :: videoPorts details)) ++
      [updateVideoRange details]) ↔ ReadsVideo details := by
    simp only [passable_append, passable_cons, passable_nil, passable_accountSettings,
      passable_addressSettings, passable_audioPorts, passable_videoPorts, updateAudioRange,
      updateVideoRange, change_failure, true_and, and_true, ReadsAudio, ReadsVideo, and_assoc]
  rw [← rangeKept_updateRange_iff]
  exact fromMap_keeps_iff config (fromMapSettings_video details) writes reaches
    (RangeKept details "Account.videoPortMin" "Account.videoPortMax")
    (fun _ => ⟨fun _ => rfl, fun _ => rfl⟩)

theorem backServiceRoutes_kept_iff :
    (details.find? "Account.backRouteset" = none →
      (config.fromMap details).1.backServiceRoutes = config.backServiceRoutes) ↔
    (ReadsLocalPort details → details.find? "Account.backRouteset" = none →
      config.backServiceRoutes = []) := by
  have same : Indifferent details SipAccountConfig.backServiceRoutes :=
    ⟨fun _ _ => rfl, fun _ _ => rfl, fun _ _ => rfl, fun _ _ => rfl, fun _ => rfl, fun _ => rfl⟩
  have writes : Writes SipAccountConfig.backServiceRoutes
      (fun _ => stringSplitVec ((details.find? "Account.backRouteset").getD ""))
      (accountSettings details ++ baseSettings details ++ sipSettings details)
      (assignRoutes details) (networkSettings details ++ [assignCredentials details]) :=
    { before := untouched_append.mpr ⟨untouched_append.mpr
        ⟨untouched_accountSettings same (fun _ => rfl) (fun _ => rfl),
          untouched_baseSettings same (fun _ => rfl) (fun _ => rfl)⟩, same.sip⟩
      written := fun _ => rfl
      after := untouched_append.mpr ⟨same.network, untouched_cons.mpr ⟨fun _ => rfl,
        untouched_nil⟩⟩ }
  have reaches : Passable ((accountSettings details ++ baseSettings details ++
      sipSettings details) ++ [assignRoutes details]) ↔ ReadsLocalPort details := by
    rw [passable_append, passable_append, passable_baseSettings, passable_sipSettings]
    simp [assignRoutes, ReadsLocalPort]
  apply (fromMap_keeps_unnamed_iff config (fromMapSettings_routes details) writes reaches _).trans
  apply imp_congr_right
  intro _
  apply imp_congr_right
  intro absent
  rw [absent]
  exact eq_comm

/-- What the one credential gets for a part the map does not name. -/
def CredentialPart.standIn (config : SipAccountConfig) : CredentialPart → String
  | .realm => "*"
  | .username => config.text .username
  | .password | .passwordHash => ""

theorem indifferent_credentials (part : CredentialPart) (unnamed : Unnamed details part.detailKey) :
    Indifferent details
      (fun config => (config.credentials.map part.of, part.standIn config)) := by
  refine ⟨?_, fun _ _ => ?_, fun _ _ => ?_, fun _ _ => ?_, fun _ => ?_, fun _ => ?_⟩
  · intro key field named config
    refine Prod.ext rfl ?_
    cases part with
    | username =>
      change Function.update config.text field _ .username = _
      by_cases same : field = .username
      · subst same
        rw [unnamed key named]
        exact Function.update_self _ _ _
      · exact Function.update_of_ne (fun other => same other.symm) _ _
    | realm | password | passwordHash => rfl
  all_goals cases part <;> rfl

theorem credentials_kept_iff (part : CredentialPart) :
    (Unnamed details part.detailKey →
      (config.fromMap details).1.credentials.map part.of = config.credentials.map part.of) ↔
    (ReadsAll details → Unnamed details part.detailKey →
      config.credentials.map part.of = [part.standIn config]) := by
  rw [imp.swap (a := ReadsAll details)]
  apply imp_congr_right
  intro unnamed
  have same := indifferent_credentials details part unnamed
  have writes : Writes (fun config => (config.credentials.map part.of, part.standIn config))
      (fun seen => ([seen.2], seen.2))
      (accountSettings details ++ baseSettings details ++ (sipSettings details ++
        assignRoutes details :: networkSettings details)) (assignCredentials details) [] :=
    { before := untouched_append.mpr ⟨untouched_append.mpr
        ⟨untouched_accountSettings same (fun _ => by cases part <;> rfl)
            (fun _ => by cases part <;> rfl),
          untouched_baseSettings same (fun _ => by cases part <;> rfl)
            (fun _ => by cases part <;> rfl)⟩,
        untouched_append.mpr ⟨same.sip,
          untouched_cons.mpr ⟨fun _ => by cases part <;> rfl, same.network⟩⟩⟩
      written := by
        intro config
        refine Prod.ext ?_ (by cases part <;> rfl)
        change [part.of ⟨"*", _, _, _⟩] = [part.standIn config]
        cases part with
        | realm | username => rfl
        | password | passwordHash =>
          rw [unnamed _ rfl]
          rfl
      after := untouched_nil }
  have reaches : Passable ((accountSettings details ++ baseSettings details ++
      (sipSettings details ++ assignRoutes details :: networkSettings details)) ++
      [assignCredentials details]) ↔ ReadsAll details := by
    rw [passable_append, passable_append, passable_baseSettings, passable_append,
      passable_sipSettings, passable_cons, passable_networkSettings]
    simp [assignRoutes, assignCredentials, ReadsAll, ReadsLocalPort, and_assoc]
  apply (fromMap_keeps_iff config (fromMapSettings_credentials details) writes reaches
    (fun before after => after.1 = before.1) (fun _ => rfl)).trans
  apply imp_congr_right
  intro _
  exact eq_comm

end Written

/-- What has to hold of a configuration before an update that keeps what it does not
name. Each part is about a setting that is written without being named, and only
asked if the update gets that far. -/
structure FrameSafe (details : Details) (config : SipAccountConfig) : Prop where
  pause : ReadsAccount details → details.find? "Account.pauseAfterAlertInfo" = none →
    0 ≤ (config.number .pauseAfterAlertInfo).val
  moderators : ReadsAccount details → details.find? "Account.defaultModerators" = none →
    config.defaultModerators = ∅
  audio : ReadsAudio details →
    RangeSafe details "Account.audioPortMin" "Account.audioPortMax" config.audioPortRange
  video : ReadsVideo details →
    RangeSafe details "Account.videoPortMin" "Account.videoPortMax" config.videoPortRange
  routes : ReadsLocalPort details → details.find? "Account.backRouteset" = none →
    config.backServiceRoutes = []
  credentials : ∀ part : CredentialPart, ReadsAll details → Unnamed details part.detailKey →
    config.credentials.map part.of = [part.standIn config]

def transportOnly : Details := AssocMap.empty.emplace "Account.transport" "udp"

end SipCore.Account
