/-
The configuration of a SIP account in its file. `serialize` writes some fields only
if they differ from the default, and `unserialize` into a fresh configuration leaves
a field it does not find at that default. A scalar of the file keeps the type it was
written with.
-/

import SipCore.Account.AccountConfig
import Mathlib.Data.Finset.Sort
import Mathlib.Data.String.Basic

namespace SipCore.Account

inductive Scalar where
  | text (value : String)
  | flag (value : Bool)
  | number (value : Int)
deriving DecidableEq, Repr

inductive Node where
  | scalar (value : Scalar)
  | sequence (items : List Node)
  | map (entries : List (String × Node))

namespace Node

def get (node : Node) (key : String) : Option Node :=
  match node with
  | .map entries => entries.lookup key
  | _ => none

def asText : Node → Option String
  | .scalar (.text value) => some value
  | _ => none

def asFlag : Node → Option Bool
  | .scalar (.flag value) => some value
  | _ => none

def asNumber (low high : Int) : Node → Option (Within low high)
  | .scalar (.number value) =>
    if inside : low ≤ value ∧ value ≤ high then some ⟨value, inside⟩ else none
  | _ => none

def items : Node → List Node
  | .sequence items => items
  | _ => []

def ofText (value : String) : Node := .scalar (.text value)

def ofFlag (value : Bool) : Node := .scalar (.flag value)

def ofNumber (value : Int) : Node := .scalar (.number value)

def parseText (node : Node) (key : String) : Option String := (node.get key).bind asText

def parseFlag (node : Node) (key : String) : Option Bool := (node.get key).bind asFlag

def parseNumber (node : Node) (key : String) (low high : Int) : Option (Within low high) :=
  (node.get key).bind (asNumber low high)

end Node

/-! ### Writing -/

abbrev Piece := String × Option Node

def document (pieces : List Piece) : Node :=
  .map (pieces.filterMap (fun piece => piece.2.map (fun node => (piece.1, node))))

def serializeValue {α : Type} [DecidableEq α] (key : String) (emit : α → Node) (value default : α) :
    Piece :=
  (key, if value ≠ default then some (emit value) else none)

namespace Credentials

def toNode (credentials : Credentials) : Node :=
  .map [("realm", .ofText credentials.realm), ("username", .ofText credentials.username),
    ("password", .ofText credentials.password), ("hash", .ofText credentials.passwordHash)]

def ofNode (node : Node) : Credentials :=
  { realm := (node.parseText "realm").getD ""
    username := (node.parseText "username").getD ""
    password := (node.parseText "password").getD ""
    passwordHash := (node.parseText "hash").getD "" }

theorem ofNode_toNode (credentials : Credentials) : ofNode credentials.toNode = credentials := rfl

end Credentials

namespace SipAccountConfig

variable (config default : SipAccountConfig)

def diffText (key : String) (field : TextField) : Piece :=
  serializeValue key .ofText (config.text field) (default.text field)

def diffFlag (key : String) (field : FlagField) : Piece :=
  serializeValue key .ofFlag (config.flag field) (default.flag field)

def diffNumber (key : String) (field : NumberField) : Piece :=
  serializeValue key (fun value => .ofNumber value.val) (config.number field) (default.number field)

def diffPort (key : String) (port defaultPort : UInt16) : Piece :=
  serializeValue key (fun value => .ofNumber value.toNat) port defaultPort

def accountPieces : List Piece :=
  [("type", some (.ofText (config.text .accountType))),
    config.diffFlag default "enable" .enabled,
    config.diffText default "alias" .accountAlias,
    config.diffText default "hostname" .hostname,
    config.diffText default "username" .username,
    ("transport", some (.ofText (getTransportTypeName config.transport))),
    config.diffText default "mailbox" .mailbox,
    ("activeCodecs", some (.ofText (joinUnsigned config.activeCodecs))),
    config.diffFlag default "autoAnswer" .autoAnswerEnabled,
    config.diffFlag default "sendReadReceipt" .sendReadReceipt,
    config.diffFlag default "rendezVous" .isRendezVous,
    config.diffNumber default "activeCallLimit" .activeCallLimit,
    config.diffFlag default "ringtoneEnabled" .ringtoneEnabled,
    config.diffText default "ringtonePath" .ringtonePath,
    config.diffNumber default "pauseAfterAlertInfo" .pauseAfterAlertInfo,
    config.diffText default "useragent" .customUserAgent,
    config.diffText default "displayName" .displayName,
    config.diffFlag default "upnpEnabled" .upnpEnabled,
    serializeValue "defaultModerators"
      (fun moderators => .sequence ((moderators.sort (· ≤ ·)).map .ofText))
      config.defaultModerators default.defaultModerators,
    config.diffFlag default "localModeratorsEnabled" .localModeratorsEnabled,
    config.diffFlag default "allModeratorsEnabled" .allModeratorsEnabled,
    config.diffText default "proxyPushToken" .deviceKey,
    config.diffText default "proxyPushiOSTopic" .notificationTopic,
    config.diffFlag default "videoEnabled" .videoEnabled]

def basePieces : List Piece :=
  [config.diffText default "dtmfType" .dtmfType,
    config.diffText default "interface" .baseInterface,
    config.diffText default "publishAddr" .publishedIp,
    config.diffFlag default "sameasLocal" .publishedSameasLocal,
    diffPort "audioPortMax" config.audioPortRange.2 default.audioPortRange.2,
    diffPort "audioPortMin" config.audioPortRange.1 default.audioPortRange.1,
    diffPort "videoPortMax" config.videoPortRange.2 default.videoPortRange.2,
    diffPort "videoPortMin" config.videoPortRange.1 default.videoPortRange.1]

def sipPieces : List Piece :=
  [("bindAddress", some (.ofText (config.text .bindAddress))),
    ("port", some (.ofNumber (config.number .localPort).val)),
    ("publishPort", some (.ofNumber (config.number .publishedPort).val)),
    ("keepAliveInterval", some (.ofNumber (config.number .keepAliveInterval).val)),
    ("keepAliveType", some (.ofText (getKeepAliveTypeName config.keepAliveType))),
    ("registrationExpire", some (.ofNumber (config.number .registrationExpire).val)),
    ("serviceRoute", some (.ofText (config.text .serviceRoute))),
    ("backServiceRoute", some (.ofText (stringJoin config.backServiceRoutes))),
    ("allowIPAutoRewrite", some (.ofFlag (config.flag .allowIPAutoRewrite))),
    ("credentials",
      if config.serializeCredentials then
        some (.sequence (config.credentials.map Credentials.toNode))
      else none),
    ("srtp", some (.map
      [("keyExchange", .ofText (getKeyExchangeName config.srtpKeyExchange)),
        ("rtpFallback", .ofFlag (config.flag .srtpFallback))]))]

def pieces : List Piece :=
  ("id", some (.ofText config.id)) ::
    (config.accountPieces default ++ config.basePieces default ++ config.sipPieces)

def serialize : Node := document (config.pieces (create ""))

end SipAccountConfig

abbrev Reading := Statement ConfigError SipAccountConfig

section Reading

variable (node : Node)

def readText (key : String) (field : TextField) : Reading :=
  .change (fun config => config.setText field ((node.parseText key).getD (config.text field)))

def readFlag (key : String) (field : FlagField) : Reading :=
  .change (fun config => config.setFlag field ((node.parseFlag key).getD (config.flag field)))

def readNumber (key : String) (field : NumberField) : Reading :=
  .change (fun config => config.setNumber field
    ((node.parseNumber key field.low field.high).getD (config.number field)))

def readType : Reading :=
  { failure := if (node.parseText "type").isSome then none else some .missingType
    effect := fun config => config.setText .accountType
      ((node.parseText "type").getD (config.text .accountType)) }

def readCodecs : Reading :=
  .change (fun config =>
    { config with
      activeCodecs :=
        ((node.parseText "activeCodecs").map splitStringToUnsigned).getD config.activeCodecs })

def readModerators : Reading :=
  .change (fun config =>
    { config with
      defaultModerators := stringSplitSet ((node.parseText "defaultModerators").getD "") })

def readTransport : Reading := assignTransport ((node.parseText "transport").getD "")

/-- A port of the range, as an `int`, where a missing one is the present one. -/
def portOr (key : String) (port : UInt16) : Int :=
  ((node.parseNumber key intMin intMax).map Subtype.val).getD port.toNat

def unserializeRange (minKey maxKey : String) (range : UInt16 × UInt16) : UInt16 × UInt16 :=
  updateRange (toPort (portOr node minKey range.1)) (toPort (portOr node maxKey range.2)) range

def accountReadings : List Reading :=
  [readText node "alias" .accountAlias,
    readType node,
    readFlag node "enable" .enabled,
    readText node "hostname" .hostname,
    readFlag node "autoAnswer" .autoAnswerEnabled,
    readFlag node "sendReadReceipt" .sendReadReceipt,
    readFlag node "rendezVous" .isRendezVous,
    readNumber node "activeCallLimit" .activeCallLimit,
    readText node "mailbox" .mailbox,
    readCodecs node,
    readText node "displayName" .displayName,
    readText node "useragent" .customUserAgent,
    readText node "ringtonePath" .ringtonePath,
    readFlag node "ringtoneEnabled" .ringtoneEnabled,
    readNumber node "pauseAfterAlertInfo" .pauseAfterAlertInfo,
    readFlag node "videoEnabled" .videoEnabled,
    readFlag node "upnpEnabled" .upnpEnabled,
    readModerators node,
    readFlag node "localModeratorsEnabled" .localModeratorsEnabled,
    readFlag node "allModeratorsEnabled" .allModeratorsEnabled,
    readText node "proxyPushToken" .deviceKey,
    readText node "proxyPushiOSTopic" .notificationTopic,
    readTransport node]

def baseReadings : List Reading :=
  [readText node "interface" .baseInterface,
    readFlag node "sameasLocal" .publishedSameasLocal,
    readText node "publishAddr" .publishedIp,
    readText node "dtmfType" .dtmfType,
    .change (fun config =>
      { config with
        audioPortRange := unserializeRange node "audioPortMin" "audioPortMax" config.audioPortRange }),
    .change (fun config =>
      { config with
        videoPortRange := unserializeRange node "videoPortMin" "videoPortMax" config.videoPortRange })]

def minRegistrationTime : NumberField.Value .registrationExpire := ⟨60, by decide⟩

def readExpire : Reading :=
  .change (fun config => config.setNumber .registrationExpire
    (max minRegistrationTime
      ((node.parseNumber "registrationExpire" (NumberField.low .registrationExpire)
        (NumberField.high .registrationExpire)).getD (config.number .registrationExpire))))

def srtpNode : Node := (node.get "srtp").getD (.map [])

def readCredentials : List Reading :=
  [.change (fun config => { config with serializeCredentials := (node.get "credentials").isSome }),
    .change (fun config =>
      { config with
        credentials :=
          ((node.get "credentials").map (fun creds => creds.items.map Credentials.ofNode)).getD
            config.credentials })]

def sipReadings : List Reading :=
  [readText node "username" .username,
    readText node "password" .password,
    readText node "bindAddress" .bindAddress,
    readNumber node "port" .localPort,
    readNumber node "publishPort" .publishedPort,
    readNumber node "keepAliveInterval" .keepAliveInterval,
    .change (fun config =>
      { config with
        keepAliveType := getKeepAliveType ((node.parseText "keepAliveType").getD "") }),
    readExpire node,
    readText node "serviceRoute" .serviceRoute,
    .change (fun config =>
      { config with
        backServiceRoutes :=
          ((node.parseText "backServiceRoute").map stringSplitVec).getD config.backServiceRoutes }),
    readFlag node "allowIPAutoRewrite" .allowIPAutoRewrite,
    readFlag node "presenceModuleEnabled" .presenceEnabled,
    readFlag node "presencePublishSupported" .publishSupported,
    readFlag node "presenceSubscribeSupported" .subscribeSupported,
    .change (fun config =>
      { config with
        srtpKeyExchange :=
          getKeyExchangeProtocol (((srtpNode node).parseText "keyExchange").getD "") }),
    readFlag (srtpNode node) "rtpFallback" .srtpFallback] ++ readCredentials node

def readings : List Reading :=
  accountReadings node ++ baseReadings node ++ sipReadings node

def SipAccountConfig.unserialize (config : SipAccountConfig) : SipAccountConfig × Option ConfigError :=
  Statement.run (readings node) config

end Reading

theorem lookup_document {pieces : List Piece} (distinct : (pieces.map Prod.fst).Nodup)
    (key : String) : (document pieces).get key = (pieces.lookup key).join := by
  change (pieces.filterMap _).lookup key = _
  induction pieces with
  | nil => rfl
  | cons piece rest ih =>
    obtain ⟨name, written⟩ := piece
    rw [List.map_cons, List.nodup_cons] at distinct
    have later := ih distinct.2
    by_cases same : key = name
    · subst same
      rw [List.lookup_cons_self]
      cases written with
      | some node =>
        change ((key, node) :: rest.filterMap _).lookup key = some node
        rw [List.lookup_cons_self]
      | none =>
        -- the key is not among the later ones either
        rw [List.filterMap_cons_none rfl, later, List.lookup_eq_none_iff.mpr]
        · rfl
        · intro other member
          apply bne_iff_ne.mpr
          rintro rfl
          exact distinct.1 (List.mem_map.mpr ⟨other, member, rfl⟩)
    · have differ : (key == name) = false := beq_false_of_ne same
      rw [List.lookup_cons, differ, ← later]
      cases written with
      | some node =>
        change ((name, node) :: rest.filterMap _).lookup key = _
        rw [List.lookup_cons, differ]
      | none => rw [List.filterMap_cons_none rfl]

variable {key : String}

theorem pieces_distinct (config default : SipAccountConfig) :
    ((config.pieces default).map Prod.fst).Nodup := by
  have keys : (config.pieces default).map Prod.fst =
      ["id", "type", "enable", "alias", "hostname", "username", "transport", "mailbox",
        "activeCodecs", "autoAnswer", "sendReadReceipt", "rendezVous", "activeCallLimit",
        "ringtoneEnabled", "ringtonePath", "pauseAfterAlertInfo", "useragent", "displayName",
        "upnpEnabled", "defaultModerators", "localModeratorsEnabled", "allModeratorsEnabled",
        "proxyPushToken", "proxyPushiOSTopic", "videoEnabled", "dtmfType", "interface",
        "publishAddr", "sameasLocal", "audioPortMax", "audioPortMin", "videoPortMax",
        "videoPortMin", "bindAddress", "port", "publishPort", "keepAliveInterval",
        "keepAliveType", "registrationExpire", "serviceRoute", "backServiceRoute",
        "allowIPAutoRewrite", "credentials", "srtp"] := rfl
  rw [keys]
  decide +kernel

section Written

variable (config : SipAccountConfig)

theorem get_serialize (key : String) :
    config.serialize.get key = ((config.pieces (.create "")).lookup key).join :=
  lookup_document (pieces_distinct config (.create "")) key

variable {config}

theorem get_of_written {written : Option Node}
    (piece : (config.pieces (.create "")).lookup key = some written) :
    config.serialize.get key = written := by
  rw [get_serialize, piece]
  rfl

theorem read_of_diff {α : Type} [DecidableEq α] {emit : α → Node} {read : Node → Option α}
    (inverse : ∀ value, read (emit value) = some value) {value default : α}
    (piece : (config.pieces (.create "")).lookup key = some (serializeValue key emit value default).2) :
    ((config.serialize.get key).bind read).getD default = value := by
  rw [get_of_written piece]
  unfold serializeValue
  by_cases same : value = default
  · rw [same, if_neg (not_not.mpr rfl)]
    rfl
  · rw [if_pos same, Option.bind_some, inverse]
    rfl

private theorem asText_ofText (value : String) : Node.asText (.ofText value) = some value := rfl

private theorem asFlag_ofFlag (value : Bool) : Node.asFlag (.ofFlag value) = some value := rfl

theorem asNumber_ofNumber {low high : Int} (value : Within low high) :
    Node.asNumber low high (.ofNumber value.val) = some value := by
  exact dif_pos value.property

theorem parseText_of_written {value : String}
    (piece : (config.pieces (.create "")).lookup key = some (some (.ofText value))) :
    config.serialize.parseText key = some value := by
  unfold Node.parseText
  rw [get_of_written piece]
  rfl

private theorem parseNumber_of_written {low high : Int} {value : Within low high}
    (piece : (config.pieces (.create "")).lookup key = some (some (.ofNumber value.val))) :
    config.serialize.parseNumber key low high = some value := by
  unfold Node.parseNumber
  rw [get_of_written piece]
  exact asNumber_ofNumber value

theorem portOr_read {port default : UInt16}
    (piece : (config.pieces (.create "")).lookup key =
      some (SipAccountConfig.diffPort key port default).2) :
    toPort (portOr config.serialize key default) = port := by
  have small : intMin ≤ (port.toNat : Int) ∧ (port.toNat : Int) ≤ intMax := by
    have := port.toNat_lt
    unfold intMin intMax
    omega
  have read : portOr config.serialize key default = port.toNat := by
    unfold portOr Node.parseNumber
    rw [get_of_written piece]
    unfold SipAccountConfig.diffPort serializeValue
    by_cases same : port = default
    · rw [same, if_neg (not_not.mpr rfl)]
      rfl
    · rw [if_pos same]
      exact congrArg (fun number => (Option.map Subtype.val number).getD _)
        (asNumber_ofNumber (⟨port.toNat, small⟩ : Within intMin intMax))
  rw [read, toPort_toNat]

theorem unserializeRange_read {minKey maxKey : String} {range default : UInt16 × UInt16}
    (minPiece : (config.pieces (.create "")).lookup minKey =
      some (SipAccountConfig.diffPort minKey range.1 default.1).2)
    (maxPiece : (config.pieces (.create "")).lookup maxKey =
      some (SipAccountConfig.diffPort maxKey range.2 default.2).2) :
    unserializeRange config.serialize minKey maxKey default =
      updateRange range.1 range.2 default := by
  unfold unserializeRange
  rw [portOr_read minPiece, portOr_read maxPiece]

theorem srtpNode_serialize :
    srtpNode config.serialize = .map
      [("keyExchange", .ofText (getKeyExchangeName config.srtpKeyExchange)),
        ("rtpFallback", .ofFlag (config.flag .srtpFallback))] := by
  unfold srtpNode
  rw [get_of_written rfl]
  rfl

theorem parseText_moderators : config.serialize.parseText "defaultModerators" = none := by
  have piece : (config.pieces (.create "")).lookup "defaultModerators" =
      some (serializeValue "defaultModerators"
        (fun moderators => .sequence ((moderators.sort (· ≤ ·)).map .ofText))
        config.defaultModerators ∅).2 := rfl
  unfold Node.parseText
  rw [get_of_written piece]
  unfold serializeValue
  split <;> rfl

end Written

/-! ### The round trip -/

/-- The fields that are both written and read. The clear password is read only. -/
def TextField.InFile (field : TextField) : Prop := field ≠ .interface ∧ field ≠ .password

def FlagField.InFile (field : FlagField) : Prop :=
  field ≠ .presenceEnabled ∧ field ≠ .publishSupported ∧ field ≠ .subscribeSupported

structure Restored (config : SipAccountConfig) (result : SipAccountConfig × Option ConfigError) :
    Prop where
  returns : result.2 = none
  text : ∀ field, TextField.InFile field → result.1.text field = config.text field
  flag : ∀ field, FlagField.InFile field → result.1.flag field = config.flag field
  number : ∀ field, result.1.number field = config.number field
  transport : result.1.transport = config.transport
  activeCodecs : result.1.activeCodecs = config.activeCodecs
  defaultModerators : result.1.defaultModerators = config.defaultModerators
  audioPortRange : result.1.audioPortRange = config.audioPortRange
  videoPortRange : result.1.videoPortRange = config.videoPortRange
  keepAliveType : result.1.keepAliveType = config.keepAliveType
  srtpKeyExchange : result.1.srtpKeyExchange = config.srtpKeyExchange
  backServiceRoutes : result.1.backServiceRoutes = config.backServiceRoutes
  credentials : result.1.credentials = config.credentials
  serializeCredentials : result.1.serializeCredentials = config.serializeCredentials

def TextField.fileKey : TextField → String
  | .accountType => "type"
  | .accountAlias => "alias"
  | .username => "username"
  | .hostname => "hostname"
  | .ringtonePath => "ringtonePath"
  | .displayName => "displayName"
  | .customUserAgent => "useragent"
  | .mailbox => "mailbox"
  | .deviceKey => "proxyPushToken"
  | .notificationTopic => "proxyPushiOSTopic"
  | .baseInterface | .interface => "interface"
  | .publishedIp => "publishAddr"
  | .dtmfType => "dtmfType"
  | .bindAddress => "bindAddress"
  | .serviceRoute => "serviceRoute"
  | .password => "password"

def FlagField.fileKey : FlagField → String
  | .enabled => "enable"
  | .autoAnswerEnabled => "autoAnswer"
  | .sendReadReceipt => "sendReadReceipt"
  | .isRendezVous => "rendezVous"
  | .ringtoneEnabled => "ringtoneEnabled"
  | .videoEnabled => "videoEnabled"
  | .upnpEnabled => "upnpEnabled"
  | .localModeratorsEnabled => "localModeratorsEnabled"
  | .allModeratorsEnabled => "allModeratorsEnabled"
  | .publishedSameasLocal => "sameasLocal"
  | .allowIPAutoRewrite => "allowIPAutoRewrite"
  | .srtpFallback => "rtpFallback"
  | .presenceEnabled => "presenceModuleEnabled"
  | .publishSupported => "presencePublishSupported"
  | .subscribeSupported => "presenceSubscribeSupported"

def NumberField.fileKey : NumberField → String
  | .activeCallLimit => "activeCallLimit"
  | .pauseAfterAlertInfo => "pauseAfterAlertInfo"
  | .localPort => "port"
  | .publishedPort => "publishPort"
  | .keepAliveInterval => "keepAliveInterval"
  | .registrationExpire => "registrationExpire"

section Reread

variable (node : Node) (freshId : String)

def reread : SipAccountConfig :=
  (readings node).foldl (fun current reading => reading.effect current) (.create freshId)

private theorem unserialize_of_readable (type : (readType node).failure = none)
    (transport : (readTransport node).failure = none) :
    (SipAccountConfig.create freshId).unserialize node = (reread node freshId, none) := by
  have account : Statement.Passable (accountReadings node) := by
    simp [accountReadings, readText, readFlag, readNumber, readCodecs, readModerators, type,
      transport]
  have base : Statement.Passable (baseReadings node) := by
    simp [baseReadings, readText, readFlag]
  have sip : Statement.Passable (sipReadings node) := by
    simp [sipReadings, readCredentials, readText, readFlag, readNumber, readExpire]
  apply Statement.run_of_passable
  exact Statement.passable_append.mpr ⟨Statement.passable_append.mpr ⟨account, base⟩, sip⟩

private theorem reread_text {field : TextField} (inFile : field.InFile) :
    (reread node freshId).text field = (node.parseText field.fileKey).getD field.initial := by
  cases field with
  | interface => exact absurd rfl inFile.1
  | _ => rfl

theorem reread_flag {field : FlagField} (elsewhere : field ≠ .srtpFallback) :
    (reread node freshId).flag field = (node.parseFlag field.fileKey).getD field.initial := by
  cases field with
  | srtpFallback => exact absurd rfl elsewhere
  | _ => rfl

private theorem reread_srtpFallback :
    (reread node freshId).flag .srtpFallback =
      ((srtpNode node).parseFlag "rtpFallback").getD false := rfl

private theorem reread_number {field : NumberField} (unbounded : field ≠ .registrationExpire) :
    (reread node freshId).number field =
      (node.parseNumber field.fileKey field.low field.high).getD field.initial := by
  cases field with
  | registrationExpire => exact absurd rfl unbounded
  | _ => rfl

private theorem reread_registrationExpire :
    (reread node freshId).number .registrationExpire =
      max minRegistrationTime
        ((node.parseNumber "registrationExpire" (NumberField.low .registrationExpire)
          (NumberField.high .registrationExpire)).getD (NumberField.initial .registrationExpire)) :=
  rfl

theorem reread_transport :
    (reread node freshId).transport =
      transportOr ((node.parseText "transport").getD "") .udp := by
  rfl

theorem reread_activeCodecs :
    (reread node freshId).activeCodecs =
      ((node.parseText "activeCodecs").map splitStringToUnsigned).getD [] := by
  rfl

theorem reread_defaultModerators :
    (reread node freshId).defaultModerators =
      stringSplitSet ((node.parseText "defaultModerators").getD "") := by
  rfl

theorem reread_audioPortRange :
    (reread node freshId).audioPortRange =
      unserializeRange node "audioPortMin" "audioPortMax" (60000, 61000) := by
  rfl

private theorem reread_videoPortRange :
    (reread node freshId).videoPortRange =
      unserializeRange node "videoPortMin" "videoPortMax" (49152, 65534) := by
  rfl

theorem reread_keepAliveType :
    (reread node freshId).keepAliveType =
      getKeepAliveType ((node.parseText "keepAliveType").getD "") := by
  rfl

theorem reread_srtpKeyExchange :
    (reread node freshId).srtpKeyExchange =
      getKeyExchangeProtocol (((srtpNode node).parseText "keyExchange").getD "") := by
  rfl

theorem reread_backServiceRoutes :
    (reread node freshId).backServiceRoutes =
      ((node.parseText "backServiceRoute").map stringSplitVec).getD [] := by
  rfl

private theorem reread_serializeCredentials :
    (reread node freshId).serializeCredentials = (node.get "credentials").isSome := by
  rfl

theorem reread_credentials :
    (reread node freshId).credentials =
      ((node.get "credentials").map (fun creds => creds.items.map Credentials.ofNode)).getD [] := by
  rfl

end Reread

section RoundTrip

variable (config : SipAccountConfig) (freshId : String)

private theorem unserialize_serialize :
    (SipAccountConfig.create freshId).unserialize config.serialize =
      (reread config.serialize freshId, none) := by
  apply unserialize_of_readable
  · have piece : config.serialize.parseText "type" = some (config.text .accountType) :=
      parseText_of_written rfl
    unfold readType
    rw [piece]
    rfl
  · have piece : config.serialize.parseText "transport" =
        some (getTransportTypeName config.transport) := parseText_of_written rfl
    unfold readTransport
    rw [piece]
    exact assignTransport_name_failure config.transport

theorem transport_restored :
    (reread config.serialize freshId).transport = config.transport := by
  have read : config.serialize.parseText "transport" =
      some (getTransportTypeName config.transport) := parseText_of_written rfl
  rw [reread_transport, read]
  exact transportOr_name config.transport .udp

private theorem activeCodecs_restored :
    (reread config.serialize freshId).activeCodecs = config.activeCodecs := by
  have read : config.serialize.parseText "activeCodecs" = some (joinUnsigned config.activeCodecs) :=
    parseText_of_written rfl
  rw [reread_activeCodecs, read]
  exact splitStringToUnsigned_joinUnsigned config.activeCodecs

theorem keepAliveType_restored :
    (reread config.serialize freshId).keepAliveType = config.keepAliveType := by
  have read : config.serialize.parseText "keepAliveType" =
      some (getKeepAliveTypeName config.keepAliveType) := parseText_of_written rfl
  rw [reread_keepAliveType, read]
  exact getKeepAliveType_name config.keepAliveType

private theorem srtpKeyExchange_restored :
    (reread config.serialize freshId).srtpKeyExchange = config.srtpKeyExchange := by
  rw [reread_srtpKeyExchange, srtpNode_serialize]
  exact getKeyExchangeProtocol_name config.srtpKeyExchange

theorem backServiceRoutes_restored
    (routes : ∀ route ∈ config.backServiceRoutes, route ≠ "" ∧ '/' ∉ route.toList) :
    (reread config.serialize freshId).backServiceRoutes = config.backServiceRoutes := by
  have read : config.serialize.parseText "backServiceRoute" =
      some (stringJoin config.backServiceRoutes) := parseText_of_written rfl
  rw [reread_backServiceRoutes, read]
  exact stringSplitVec_stringJoin (fun route member => (routes route member).1)
    (fun route member => (routes route member).2)

theorem text_restored {field : TextField} (inFile : field.InFile) :
    (reread config.serialize freshId).text field = config.text field := by
  rw [reread_text _ _ inFile]
  cases field with
  | interface => exact absurd rfl inFile.1
  | password => exact absurd rfl inFile.2
  | accountType | bindAddress | serviceRoute =>
    rw [parseText_of_written rfl]
    rfl
  | _ => exact read_of_diff asText_ofText rfl

theorem flag_restored {field : FlagField} (inFile : field.InFile) :
    (reread config.serialize freshId).flag field = config.flag field := by
  cases field with
  | presenceEnabled => exact absurd rfl inFile.1
  | publishSupported => exact absurd rfl inFile.2.1
  | subscribeSupported => exact absurd rfl inFile.2.2
  | srtpFallback =>
    rw [reread_srtpFallback, srtpNode_serialize]
    rfl
  | allowIPAutoRewrite =>
    rw [reread_flag _ _ (by decide), Node.parseFlag, get_of_written rfl]
    rfl
  | _ =>
    exact read_of_diff asFlag_ofFlag rfl

theorem number_restored (expires : 60 ≤ (config.number .registrationExpire).val)
    (field : NumberField) :
    (reread config.serialize freshId).number field = config.number field := by
  cases field with
  | registrationExpire =>
    have read : config.serialize.parseNumber "registrationExpire" _ _ =
        some (config.number .registrationExpire) := parseNumber_of_written rfl
    rw [reread_registrationExpire, read]
    exact max_eq_right (Subtype.coe_le_coe.mp expires)
  | activeCallLimit | pauseAfterAlertInfo =>
    exact read_of_diff asNumber_ofNumber rfl
  | localPort =>
    rw [reread_number _ _ (by decide), parseNumber_of_written rfl]
    rfl
  | publishedPort =>
    rw [reread_number _ _ (by decide), parseNumber_of_written rfl]
    rfl
  | keepAliveInterval =>
    rw [reread_number _ _ (by decide), parseNumber_of_written rfl]
    rfl

private theorem audioPortRange_restored_iff :
    (reread config.serialize freshId).audioPortRange = config.audioPortRange ↔
      ValidRange config.audioPortRange := by
  rw [reread_audioPortRange, unserializeRange_read rfl rfl]
  exact updateRange_self_iff (by decide)

private theorem videoPortRange_restored_iff :
    (reread config.serialize freshId).videoPortRange = config.videoPortRange ↔
      ValidRange config.videoPortRange := by
  rw [reread_videoPortRange, unserializeRange_read rfl rfl]
  exact updateRange_self_iff (by decide)

theorem moderators_restored_iff :
    (reread config.serialize freshId).defaultModerators = config.defaultModerators ↔
      config.defaultModerators = ∅ := by
  rw [reread_defaultModerators, parseText_moderators]
  exact eq_comm

theorem credentials_restored_iff :
    (reread config.serialize freshId).credentials = config.credentials ↔
      config.serializeCredentials = true ∨ config.credentials = [] := by
  rw [reread_credentials, get_of_written rfl]
  cases config.serializeCredentials with
  | true =>
    constructor
    · intro _
      exact .inl rfl
    · intro _
      change (config.credentials.map Credentials.toNode).map Credentials.ofNode = _
      rw [List.map_map]
      apply (List.map_congr_left _).trans (List.map_id _)
      intro credentials _
      exact Credentials.ofNode_toNode credentials
  | false =>
    constructor
    · intro same
      exact .inr same.symm
    · rintro (impossible | empty)
      · cases impossible
      · exact empty.symm

theorem serializeCredentials_restored :
    (reread config.serialize freshId).serializeCredentials = config.serializeCredentials := by
  rw [reread_serializeCredentials, get_of_written rfl]
  cases config.serializeCredentials <;> rfl

end RoundTrip

/-- A configuration comes back whole exactly if it has no moderators, its ranges
pass the reader's check and its credentials are to be written, if it has some. -/
theorem unserialize_serialize_restores_iff (config : SipAccountConfig) (freshId : String)
    (expires : 60 ≤ (config.number .registrationExpire).val)
    (routes : ∀ route ∈ config.backServiceRoutes, route ≠ "" ∧ '/' ∉ route.toList) :
    Restored config ((SipAccountConfig.create freshId).unserialize config.serialize) ↔
      config.defaultModerators = ∅ ∧
      ValidRange config.audioPortRange ∧ ValidRange config.videoPortRange ∧
      (config.serializeCredentials = true ∨ config.credentials = []) := by
  rw [unserialize_serialize]
  constructor
  · intro restored
    exact ⟨(moderators_restored_iff config freshId).mp restored.defaultModerators,
      (audioPortRange_restored_iff config freshId).mp restored.audioPortRange,
      (videoPortRange_restored_iff config freshId).mp restored.videoPortRange,
      (credentials_restored_iff config freshId).mp restored.credentials⟩
  · rintro ⟨moderators, audio, video, credentials⟩
    exact
      { returns := rfl
        text := fun _ inFile => text_restored config freshId inFile
        flag := fun _ inFile => flag_restored config freshId inFile
        number := number_restored config freshId expires
        transport := transport_restored config freshId
        activeCodecs := activeCodecs_restored config freshId
        defaultModerators := (moderators_restored_iff config freshId).mpr moderators
        audioPortRange := (audioPortRange_restored_iff config freshId).mpr audio
        videoPortRange := (videoPortRange_restored_iff config freshId).mpr video
        keepAliveType := keepAliveType_restored config freshId
        srtpKeyExchange := srtpKeyExchange_restored config freshId
        backServiceRoutes := backServiceRoutes_restored config freshId routes
        credentials := (credentials_restored_iff config freshId).mpr credentials
        serializeCredentials := serializeCredentials_restored config freshId }

def routedConfig : SipAccountConfig :=
  { SipAccountConfig.create "a" with
    backServiceRoutes := ["proxy1", "proxy2"]
    audioPortRange := (40000, 40010)
    credentials := [⟨"*", "alice", "secret", ""⟩]
    serializeCredentials := true }

theorem routed_config_restored :
    Restored routedConfig ((SipAccountConfig.create "b").unserialize routedConfig.serialize) :=
  (unserialize_serialize_restores_iff routedConfig "b" (by decide) (by decide)).mpr
    ⟨rfl, by decide, by decide, Or.inl rfl⟩

def moderatedConfig : SipAccountConfig :=
  { SipAccountConfig.create "a" with defaultModerators := {"boss"} }

/-- The moderator is lost: it is written as a sequence and not read from one. -/
theorem moderator_not_restored :
    60 ≤ (moderatedConfig.number .registrationExpire).val ∧
    (∀ route ∈ moderatedConfig.backServiceRoutes, route ≠ "" ∧ '/' ∉ route.toList) ∧
    (∀ moderator ∈ moderatedConfig.defaultModerators,
      moderator ≠ "" ∧ '/' ∉ moderator.toList) ∧
    ¬ Restored moderatedConfig
      ((SipAccountConfig.create "b").unserialize moderatedConfig.serialize) := by
  refine ⟨by decide, by decide, by decide, ?_⟩
  intro restored
  have empty := (moderators_restored_iff moderatedConfig "b").mp restored.defaultModerators
  exact absurd empty (by decide)

end SipCore.Account
