/-
The configuration of a SIP account and the helpers its readers and writers share. The
fields of three levels of inheritance are one record; fields of one type are grouped by
a name for each. A number carries the bounds of its type.
-/

import SipCore.Library.Statements
import SipCore.StringUtils
import Mathlib.Data.List.TakeWhile
import Mathlib.Data.Nat.Digits.Defs
import Mathlib.Data.Finset.Dedup
import Mathlib.Data.Finset.Insert

namespace SipCore.Account

inductive TextField where
  | accountType
  | accountAlias
  | username
  | hostname
  | ringtonePath
  | displayName
  | customUserAgent
  | mailbox
  | deviceKey
  | notificationTopic
  | baseInterface
  | publishedIp
  | dtmfType
  | bindAddress
  | interface
  | serviceRoute
  | password
deriving DecidableEq, Repr

inductive FlagField where
  | enabled
  | autoAnswerEnabled
  | sendReadReceipt
  | isRendezVous
  | ringtoneEnabled
  | videoEnabled
  | upnpEnabled
  | localModeratorsEnabled
  | allModeratorsEnabled
  | publishedSameasLocal
  | allowIPAutoRewrite
  | srtpFallback
  | presenceEnabled
  | publishSupported
  | subscribeSupported
deriving DecidableEq, Repr

inductive NumberField where
  | activeCallLimit
  | pauseAfterAlertInfo
  | localPort
  | publishedPort
  | keepAliveInterval
  | registrationExpire
deriving DecidableEq, Repr

def intMin : Int := -2147483648

def intMax : Int := 2147483647

def NumberField.low : NumberField → Int
  | .activeCallLimit | .pauseAfterAlertInfo => intMin
  | .localPort | .publishedPort | .keepAliveInterval | .registrationExpire => 0

def NumberField.high : NumberField → Int
  | .activeCallLimit | .pauseAfterAlertInfo => intMax
  | .localPort | .publishedPort => 65535
  | .keepAliveInterval | .registrationExpire => 4294967295

abbrev Within (low high : Int) : Type := { value : Int // low ≤ value ∧ value ≤ high }

abbrev NumberField.Value (field : NumberField) : Type := Within field.low field.high

inductive TransportType where
  | tcp
  | udp
  | tls
deriving DecidableEq, Repr

inductive KeepAliveType where
  | packet
  | options
deriving DecidableEq, Repr

inductive KeyExchangeProtocol where
  | none
  | sdes
deriving DecidableEq, Repr

structure Credentials where
  realm : String
  username : String
  password : String
  passwordHash : String
deriving DecidableEq, Repr

structure SipAccountConfig where
  id : String
  text : TextField → String
  flag : FlagField → Bool
  number : (field : NumberField) → field.Value
  transport : TransportType
  activeCodecs : List UInt32
  defaultModerators : Finset String
  audioPortRange : UInt16 × UInt16
  videoPortRange : UInt16 × UInt16
  keepAliveType : KeepAliveType
  srtpKeyExchange : KeyExchangeProtocol
  backServiceRoutes : List String
  credentials : List Credentials
  serializeCredentials : Bool

def TextField.initial : TextField → String
  | .accountType => "SIP"
  | .ringtonePath => "default.mp3"
  | .baseInterface => "default"
  | .dtmfType => "overrtp"
  | _ => ""

def FlagField.initial : FlagField → Bool
  | .autoAnswerEnabled | .isRendezVous | .srtpFallback | .presenceEnabled | .publishSupported
  | .subscribeSupported => false
  | _ => true

def NumberField.initial : (field : NumberField) → field.Value
  | .activeCallLimit => ⟨-1, by decide⟩
  | .pauseAfterAlertInfo => ⟨3, by decide⟩
  | .localPort => ⟨5060, by decide⟩
  | .publishedPort => ⟨5060, by decide⟩
  | .keepAliveInterval => ⟨25, by decide⟩
  | .registrationExpire => ⟨600, by decide⟩

def SipAccountConfig.create (id : String) : SipAccountConfig :=
  { id := id
    text := TextField.initial
    flag := FlagField.initial
    number := NumberField.initial
    transport := .udp
    activeCodecs := []
    defaultModerators := ∅
    audioPortRange := (60000, 61000)
    videoPortRange := (49152, 65534)
    keepAliveType := .options
    srtpKeyExchange := .sdes
    backServiceRoutes := []
    credentials := []
    serializeCredentials := false }

inductive ConfigError where
  | invalidArgument
  | outOfRange
  | unknownTransport (name : String)
  | missingType
deriving DecidableEq, Repr

namespace SipAccountConfig

def setText (field : TextField) (value : String) (config : SipAccountConfig) : SipAccountConfig :=
  { config with text := Function.update config.text field value }

def setFlag (field : FlagField) (value : Bool) (config : SipAccountConfig) : SipAccountConfig :=
  { config with flag := Function.update config.flag field value }

def setNumber (field : NumberField) (value : field.Value) (config : SipAccountConfig) :
    SipAccountConfig :=
  { config with number := Function.update config.number field value }

end SipAccountConfig

def isDigit (c : Char) : Bool := decide ('0' ≤ c) && decide (c ≤ '9')

def digitsValue (digits : List Char) : Nat :=
  digits.foldl (fun value c => 10 * value + (c.toNat - '0'.toNat)) 0

def boundedNumber (low high : Int) (digits : List Char) (value : Int) :
    Except ConfigError (Within low high) :=
  if digits.isEmpty then .error .invalidArgument
  else if inside : low ≤ value ∧ value ≤ high then .ok ⟨value, inside⟩
  else .error .outOfRange

/-- The longest number in front is read. A sign is read for signed types only. -/
def fromChars (low high : Int) (text : List Char) : Except ConfigError (Within low high) :=
  if low < 0 ∧ text.head? = some '-' then
    boundedNumber low high (text.tail.takeWhile isDigit)
      (-(digitsValue (text.tail.takeWhile isDigit)))
  else boundedNumber low high (text.takeWhile isDigit) (digitsValue (text.takeWhile isDigit))

def toInt (low high : Int) (text : String) : Except ConfigError (Within low high) :=
  fromChars low high text.toList

def toPort (value : Int) : UInt16 := UInt16.ofNat (value % 65536).toNat

theorem toPort_toNat (port : UInt16) : toPort (port.toNat : Int) = port := by
  have small : (port.toNat : Int) < 65536 := by exact_mod_cast port.toNat_lt
  have same : ((port.toNat : Int) % 65536).toNat = port.toNat := by omega
  unfold toPort
  rw [same]
  exact UInt16.ofNat_toNat

def updateRange (min max : UInt16) (range : UInt16 × UInt16) : UInt16 × UInt16 :=
  if min > 0 ∧ max > 0 ∧ min ≤ max then (min, max) else range

def ValidRange (range : UInt16 × UInt16) : Prop :=
  range.1 > 0 ∧ range.2 > 0 ∧ range.1 ≤ range.2

instance decidableValidRange (range : UInt16 × UInt16) : Decidable (ValidRange range) :=
  inferInstanceAs (Decidable (range.1 > 0 ∧ range.2 > 0 ∧ range.1 ≤ range.2))

theorem updateRange_self_iff {range default : UInt16 × UInt16} (valid : ValidRange default) :
    updateRange range.1 range.2 default = range ↔ ValidRange range := by
  unfold updateRange
  by_cases passes : range.1 > 0 ∧ range.2 > 0 ∧ range.1 ≤ range.2
  · rw [if_pos passes]
    exact ⟨fun _ => passes, fun _ => rfl⟩
  · rw [if_neg passes]
    constructor
    · intro same
      rw [← same]
      exact valid
    · intro passed
      exact absurd passed passes

def splitParts (text : List Char) : List (List Char) :=
  (StringUtils.stringSplitVec text ['/']).getD []

def joinParts (parts : List (List Char)) : List Char := StringUtils.stringJoinVec parts ['/']

theorem splitParts_joinParts {parts : List (List Char)}
    (plain : ∀ part ∈ parts, StringUtils.Plain '/' part) :
    splitParts (joinParts parts) = parts := by
  unfold splitParts joinParts
  rw [StringUtils.stringSplitVec_eq, StringUtils.pieces_stringJoinVec '/' parts plain]
  rfl

def stringJoin (parts : List String) : String :=
  String.ofList (joinParts (parts.map String.toList))

def stringSplitVec (text : String) : List String :=
  (splitParts text.toList).map String.ofList

def stringSplitSet (text : String) : Finset String :=
  ((StringUtils.stringSplitSet text.toList ['/']).getD ∅).image String.ofList

theorem stringSplitVec_stringJoin {parts : List String} (nonempty : ∀ part ∈ parts, part ≠ "")
    (free : ∀ part ∈ parts, '/' ∉ part.toList) : stringSplitVec (stringJoin parts) = parts := by
  unfold stringSplitVec stringJoin
  rw [String.toList_ofList, splitParts_joinParts, List.map_map]
  · have whole : (String.ofList ∘ String.toList) = id := funext (fun _ => String.ofList_toList)
    rw [whole, List.map_id]
  · intro part member
    obtain ⟨text, inside, rfl⟩ := List.mem_map.mp member
    refine ⟨?_, free text inside⟩
    intro empty
    apply nonempty text inside
    rw [← String.ofList_toList (s := text), empty]

def digitChar (digit : Nat) : Char := Char.ofNat ('0'.toNat + digit)

def decimal (number : Nat) : List Char :=
  if number = 0 then ['0'] else ((Nat.digits 10 number).map digitChar).reverse

theorem digitChar_spec : ∀ digit < 10, isDigit (digitChar digit) = true ∧
    (digitChar digit).toNat - '0'.toNat = digit ∧ digitChar digit ≠ '/' := by
  decide

theorem isDigit_of_mem_decimal {number : Nat} {c : Char} (member : c ∈ decimal number) :
    isDigit c = true ∧ c ≠ '/' := by
  unfold decimal at member
  split at member
  · rw [List.mem_singleton.mp member]
    decide
  · obtain ⟨digit, inside, rfl⟩ := List.mem_map.mp (List.mem_reverse.mp member)
    obtain ⟨isOne, _, notSlash⟩ := digitChar_spec digit (Nat.digits_lt_base (by decide) inside)
    exact ⟨isOne, notSlash⟩

theorem decimal_ne_nil (number : Nat) : decimal number ≠ [] := by
  unfold decimal
  split
  · exact List.cons_ne_nil _ _
  · rename_i positive
    simp [Nat.digits_ne_nil_iff_ne_zero.mpr positive]

private theorem digitsValue_decimal (number : Nat) : digitsValue (decimal number) = number := by
  unfold decimal digitsValue
  split
  · rename_i zero
    rw [zero]
    rfl
  · rw [List.foldl_reverse, List.foldr_map]
    have folded : ∀ digits : List Nat, (∀ digit ∈ digits, digit < 10) →
        digits.foldr (fun digit value => 10 * value + ((digitChar digit).toNat - '0'.toNat)) 0 =
          Nat.ofDigits 10 digits := by
      intro digits small
      induction digits with
      | nil => rfl
      | cons digit rest ih =>
        have tail := ih (fun other member => small other (List.mem_cons_of_mem _ member))
        rw [List.foldr_cons, tail, (digitChar_spec digit (small digit List.mem_cons_self)).2.1]
        exact Nat.add_comm _ _
    rw [folded _ (fun digit member => Nat.digits_lt_base (by decide) member), Nat.ofDigits_digits]

/-- A number that does not fit is passed over. -/
def splitStringToUnsigned (text : String) : List UInt32 :=
  (splitParts text.toList).filterMap (fun part =>
    match fromChars 0 4294967295 part with
    | .ok value => some (UInt32.ofNat value.val.toNat)
    | .error _ => none)

def joinUnsigned (numbers : List UInt32) : String :=
  String.ofList (joinParts (numbers.map (fun number => decimal number.toNat)))

private theorem fromChars_decimal {number : Nat}
    (inside : (0 : Int) ≤ number ∧ (number : Int) ≤ 4294967295) :
    fromChars 0 4294967295 (decimal number) = .ok ⟨number, inside⟩ := by
  have all : (decimal number).takeWhile isDigit = decimal number :=
    List.takeWhile_eq_self_iff.mpr (fun c member => (isDigit_of_mem_decimal member).1)
  have present : ¬ (decimal number).isEmpty = true := by
    rw [List.isEmpty_iff]
    exact decimal_ne_nil number
  have unsigned : ¬ ((0 : Int) < 0 ∧ (decimal number).head? = some '-') := by
    rintro ⟨impossible, _⟩
    exact absurd impossible (Int.lt_irrefl 0)
  unfold fromChars boundedNumber
  rw [if_neg unsigned, all, if_neg present, digitsValue_decimal, dif_pos inside]

theorem splitStringToUnsigned_joinUnsigned (numbers : List UInt32) :
    splitStringToUnsigned (joinUnsigned numbers) = numbers := by
  unfold splitStringToUnsigned joinUnsigned
  rw [String.toList_ofList, splitParts_joinParts, List.filterMap_map]
  · have each : ∀ number : UInt32, (match fromChars 0 4294967295 (decimal number.toNat) with
        | .ok value => some (UInt32.ofNat value.val.toNat)
        | .error _ => none) = some number := by
      intro number
      have inside : (0 : Int) ≤ number.toNat ∧ (number.toNat : Int) ≤ 4294967295 := by
        have bound := number.toNat_lt
        omega
      rw [fromChars_decimal inside]
      exact congrArg some UInt32.ofNat_toNat
    exact (List.filterMap_congr (fun number _ => each number)).trans List.filterMap_some
  · intro part member
    obtain ⟨number, _, rfl⟩ := List.mem_map.mp member
    exact ⟨decimal_ne_nil number.toNat, fun slash => (isDigit_of_mem_decimal slash).2 rfl⟩

/-! ### Names -/

def lower (text : String) : String := String.ofList (text.toList.map Char.toLower)

def getTransportType (name : String) : Except ConfigError TransportType :=
  if lower name = "tcp" then .ok .tcp
  else if lower name = "udp" then .ok .udp
  else if lower name = "tls" then .ok .tls
  else .error (.unknownTransport name)

def getTransportTypeName : TransportType → String
  | .tcp => "tcp"
  | .udp => "udp"
  | .tls => "tls"

@[irreducible]
def transportOr (name : String) (present : TransportType) : TransportType :=
  match getTransportType name with
  | .ok transport => transport
  | .error _ => present

def assignTransport (name : String) : Statement ConfigError SipAccountConfig :=
  { failure :=
      match getTransportType name with
      | .ok _ => none
      | .error error => some error
    effect := fun config => { config with transport := transportOr name config.transport } }

theorem getTransportType_name (type : TransportType) :
    getTransportType (getTransportTypeName type) = .ok type := by
  cases type <;> decide

theorem transportOr_name (type present : TransportType) :
    transportOr (getTransportTypeName type) present = type := by
  unfold transportOr
  rw [getTransportType_name]

theorem assignTransport_name_failure (type : TransportType) :
    (assignTransport (getTransportTypeName type)).failure = none := by
  unfold assignTransport
  rw [getTransportType_name]

def getKeepAliveType (value : String) : KeepAliveType :=
  if value = "packet" then .packet
  else if value = "sip-options" then .options
  else .options

def getKeepAliveTypeName : KeepAliveType → String
  | .options => "sip-options"
  | .packet => "packet"

theorem getKeepAliveType_name (type : KeepAliveType) :
    getKeepAliveType (getKeepAliveTypeName type) = type := by
  cases type <;> decide

def getKeyExchangeName : KeyExchangeProtocol → String
  | .sdes => "sdes"
  | .none => ""

def getKeyExchangeProtocol (name : String) : KeyExchangeProtocol :=
  if name = "sdes" then .sdes else .none

theorem getKeyExchangeProtocol_name (protocol : KeyExchangeProtocol) :
    getKeyExchangeProtocol (getKeyExchangeName protocol) = protocol := by
  cases protocol <;> decide

end SipCore.Account
