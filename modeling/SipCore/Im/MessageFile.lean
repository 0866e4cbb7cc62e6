/-
The file in which the message engine keeps its messages, as `save_` writes it and
`load` reads it. The numbers have the widths of the source, a status is the number
behind the enumeration, and points in time count nanoseconds. The text of the file
belongs to the JSON library.
-/

import SipCore.Im.MessageEngine
import SipCore.Library.HexDigits
import SipCore.Library.JsonObject

namespace SipCore.Im

variable {entry : String × JsonValue} (clocks : Clocks) {store : Store}

variable (message : Message)

def MessageStatus.code : MessageStatus → Int32
  | .unknown => 0
  | .idle => 1
  | .sending => 2
  | .sent => 3
  | .displayed => 4
  | .failure => 5
  | .cancelled => 6

namespace MessageFile

abbrev MessageToken := UInt64

structure Message where
  recipient : String
  payloads : AssocMap String String
  status : Int32
  retried : UInt32
  lastOp : Int64

abbrev Store := AssocMap String (AssocMap MessageToken Message)

structure Clocks where
  steady : Int64
  system : Int64

inductive LoadError where
  | json (error : JsonError)
  | notInt64
  | cantParseId (str : String)

def toHexString (id : MessageToken) : String :=
  String.ofList (Hex.padded 16 id.toNat)

/-- `std::from_chars` with base 16: it fails where the text begins with no digit, and
where the number is too large. -/
def fromHexString (str : String) : Except LoadError MessageToken :=
  let digits := Hex.leadingDigits str.toList
  if digits ≠ [] ∧ Hex.value digits < 2 ^ 64 then .ok (UInt64.ofNat (Hex.value digits))
  else .error (.cantParseId str)

def toTimeT (time : Int64) : Int64 := time / 1000000000

def fromTimeT (seconds : Int64) : Int64 := seconds * 1000000000

def Message.wallTime (clocks : Clocks) (message : Message) : Int64 :=
  toTimeT (clocks.system + (message.lastOp - clocks.steady))

def Message.isSaved (message : Message) : Bool :=
  !(message.status == MessageStatus.failure.code || message.status == MessageStatus.sent.code
    || message.status == MessageStatus.cancelled.code)

def savedStatus (status : Int32) : Int32 :=
  if status = MessageStatus.sending.code then MessageStatus.idle.code else status

def Message.payloadJson (message : Message) : JsonValue :=
  if message.payloads.entries.isEmpty then .null
  else
    JsonObject.value (SortedMap.ofList
      (message.payloads.entries.map (fun payload => (payload.1, .string payload.2))))

def Message.members (clocks : Clocks) (message : Message) : List (String × JsonValue) :=
  [("status", .int (savedStatus message.status).toInt),
    ("to", .string message.recipient),
    ("last_op", .int (message.wallTime clocks).toInt),
    ("retried", .int message.retried.toNat),
    ("payload", message.payloadJson)]

def Message.json (clocks : Clocks) (message : Message) : JsonValue :=
  JsonObject.value (SortedMap.ofList (message.members clocks))

def peerRoot (clocks : Clocks) (messages : AssocMap MessageToken Message) : JsonObject :=
  messages.entries.foldl (fun root entry =>
    if entry.2.isSaved then root.assign (toHexString entry.1) (entry.2.json clocks) else root)
    SortedMap.empty

def root (clocks : Clocks) (store : Store) : JsonObject :=
  store.entries.foldl (fun root entry =>
    if (peerRoot clocks entry.2).entries.isEmpty then root
    else root.assign entry.1 (peerRoot clocks entry.2).value)
    SortedMap.empty

def save {Text : Type} (write : JsonValue → Text) (clocks : Clocks) (store : Store) : Text :=
  write (root clocks store).value

def asInt64 : JsonValue → Except LoadError Int64
  | .null => .ok 0
  | .bool value => .ok (if value then 1 else 0)
  | .int value =>
    if -2 ^ 63 ≤ value ∧ value < 2 ^ 63 then .ok (Int64.ofInt value) else .error .notInt64
  | .real (.finite value _) =>
    if -2 ^ 63 ≤ value ∧ value < 2 ^ 63 then .ok (Int64.ofInt (JsonValue.truncate value))
    else .error .notInt64
  | _ => .error .notInt64

def loadPayloads : List (String × JsonValue) → AssocMap String String →
    Except LoadError (AssocMap String String)
  | [], payloads => .ok payloads
  | (key, text) :: rest, payloads => do
      let text ← text.asString.mapError .json
      loadPayloads rest (payloads.assign key text)

def loadMessage (clocks : Clocks) (jmsg : JsonValue) : Except LoadError Message := do
  let status ← ((jmsg.index "status").bind JsonValue.asInt).mapError .json
  let recipient ← ((jmsg.index "to").bind JsonValue.asString).mapError .json
  let lastOp ← asInt64 (← (jmsg.index "last_op").mapError .json)
  let retried ← ((jmsg.member? "retried").getD (.int 0)).asUInt.mapError .json
  let payload ← (jmsg.index "payload").mapError .json
  let payloads ← loadPayloads payload.elements AssocMap.empty
  return {
    recipient, payloads
    status := Int32.ofInt status
    retried := UInt32.ofNat retried.toNat
    lastOp := clocks.steady + (fromTimeT lastOp - clocks.system) }

def loadEntry (clocks : Clocks) (entry : String × JsonValue) :
    Except LoadError (MessageToken × Message) := do
  let token ← fromHexString entry.1
  let message ← loadMessage clocks entry.2
  return (token, message)

def emplaceAt (store : Store) (peer : String) (token : MessageToken) (message : Message) : Store :=
  (store.emplace peer AssocMap.empty).modify peer (fun messages => messages.emplace token message)

/-- What was loaded before an exception stays. -/
def loadPeer (clocks : Clocks) (peer : String) :
    List (String × JsonValue) → Store → Store × Option LoadError
  | [], store => (store, none)
  | entry :: rest, store =>
    match loadEntry clocks entry with
    | .error error => (store, some error)
    | .ok (token, message) => loadPeer clocks peer rest (emplaceAt store peer token message)

def loadRoot (clocks : Clocks) :
    List (String × JsonValue) → Store → Store × Option LoadError
  | [], store => (store, none)
  | (peer, messages) :: rest, store =>
    match loadPeer clocks peer messages.elements (store.emplace peer AssocMap.empty) with
    | (store, some error) => (store, some error)
    | (store, none) => loadRoot clocks rest store

def load {Text : Type} (read : Text → Option JsonValue) (clocks : Clocks) (file : Text)
    (store : Store) : Store :=
  match read file with
  | none => store
  | some root => (loadRoot clocks root.elements store).1

theorem fromHexString_toHexString (id : MessageToken) :
    fromHexString (toHexString id) = .ok id := by
  unfold fromHexString toHexString
  rw [String.toList_ofList, Hex.leadingDigits_padded]
  dsimp only
  rw [Hex.value_padded, if_pos ⟨Hex.padded_ne_nil 16 id.toNat, UInt64.toNat_lt id⟩,
    UInt64.ofNat_toNat]

private theorem toHexString_injective : Function.Injective toHexString := by
  intro first second same
  have read := fromHexString_toHexString first
  rw [same, fromHexString_toHexString] at read
  exact (Except.ok.inj read).symm

/-- What the file keeps of a message. The time is kept in seconds only. -/
structure Reloaded (before after : Message) : Prop where
  recipient : after.recipient = before.recipient
  payloads : ∀ key, after.payloads.find? key = before.payloads.find? key
  retried : after.retried = before.retried
  status : after.status = savedStatus before.status

private theorem loadPayloads_spec {items : List (String × JsonValue)}
    (distinct : (items.map Prod.fst).Nodup)
    (texts : ∀ item ∈ items, ∃ text, item.2 = .string text) (start : AssocMap String String) :
    ∃ payloads, loadPayloads items start = .ok payloads ∧
      ∀ key text, payloads.find? key = some text ↔
        (key, .string text) ∈ items ∨
          (key ∉ items.map Prod.fst ∧ start.find? key = some text) := by
  induction items generalizing start with
  | nil => exact ⟨start, rfl, by simp⟩
  | cons item rest ih =>
    obtain ⟨name, value⟩ := item
    obtain ⟨own, string⟩ := texts (name, value) List.mem_cons_self
    cases string
    have apart := List.nodup_cons.mp distinct
    obtain ⟨payloads, loaded, found⟩ := ih apart.2
      (fun item member => texts item (List.mem_cons_of_mem _ member)) (start.assign name own)
    refine ⟨payloads, loaded, ?_⟩
    intro key text
    rw [found, AssocMap.find?_assign, List.map_cons]
    by_cases same : key = name
    · subst same
      have absent : key ∉ rest.map Prod.fst := apart.1
      have later : (key, JsonValue.string text) ∉ rest :=
        fun member => absent (List.mem_map.mpr ⟨_, member, rfl⟩)
      simp [later, absent, eq_comm]
    · simp [same]

theorem Message.payloadJson_elements (entry : String × JsonValue) :
    entry ∈ message.payloadJson.elements ↔
      ∃ text, entry.2 = .string text ∧ message.payloads.find? entry.1 = some text := by
  have distinct : ((message.payloads.entries.map
      (fun payload => (payload.1, JsonValue.string payload.2))).map Prod.fst).Nodup := by
    rw [List.map_map]
    exact message.payloads.distinct
  have listed : entry ∈ message.payloadJson.elements ↔ entry ∈ message.payloads.entries.map
      (fun payload => (payload.1, JsonValue.string payload.2)) := by
    unfold Message.payloadJson
    split
    · rename_i empty
      rw [List.isEmpty_iff.mp empty]
      simp [JsonValue.elements]
    · exact SortedMap.mem_ofList distinct entry
  rw [listed, List.mem_map]
  constructor
  · rintro ⟨payload, member, rfl⟩
    exact ⟨payload.2, rfl, (AssocMap.mem_entries_iff _ _ _).mp member⟩
  · intro ⟨text, string, found⟩
    exact ⟨(entry.1, text), (AssocMap.mem_entries_iff _ _ _).mpr found, by rw [← string]⟩

theorem Message.payloadJson_nodup : (message.payloadJson.elements.map Prod.fst).Nodup := by
  unfold Message.payloadJson
  split
  · exact List.nodup_nil
  · exact SortedMap.nodup_keys _

theorem Message.mem_json {clocks : Clocks} {message : Message} :
    entry ∈ (SortedMap.ofList (message.members clocks)).entries ↔
      entry ∈ message.members clocks := by
  have distinct : ((message.members clocks).map Prod.fst).Nodup := by
    change ["status", "to", "last_op", "retried", "payload"].Nodup
    decide
  exact SortedMap.mem_ofList distinct entry

theorem asInt_toInt (number : Int32) : JsonValue.asInt (.int number.toInt) = .ok number.toInt := by
  have least := Int32.le_toInt number
  have greatest := Int32.toInt_lt number
  exact if_pos ⟨least, Int.le_of_lt_add_one greatest⟩

private theorem asUInt_toNat (number : UInt32) :
    JsonValue.asUInt (.int number.toNat) = .ok (number.toNat : Int) := by
  have greatest := UInt32.toNat_lt number
  exact if_pos ⟨by omega, by unfold JsonValue.maxUInt; omega⟩

private theorem asInt64_toInt (number : Int64) : asInt64 (.int number.toInt) = .ok number := by
  have fits : -2 ^ 63 ≤ number.toInt ∧ number.toInt < 2 ^ 63 :=
    ⟨Int64.le_toInt number, Int64.toInt_lt number⟩
  exact (if_pos fits).trans (congrArg Except.ok (Int64.ofInt_toInt number))

theorem loadMessage_json (saving loading : Clocks) (message : Message) :
    ∃ after, loadMessage loading (message.json saving) = .ok after ∧ Reloaded message after := by
  have index : ∀ {key value}, (key, value) ∈ message.members saving →
      (message.json saving).index key = .ok value :=
    fun member => JsonObject.index_of_mem (Message.mem_json.mpr member)
  have status : (message.json saving).index "status" =
      .ok (.int (savedStatus message.status).toInt) := index (by simp [Message.members])
  have recipient : (message.json saving).index "to" = .ok (.string message.recipient) :=
    index (by simp [Message.members])
  have lastOp : (message.json saving).index "last_op" =
      .ok (.int (message.wallTime saving).toInt) := index (by simp [Message.members])
  have retried : (message.json saving).member? "retried" = some (.int message.retried.toNat) :=
    JsonObject.member?_of_mem (Message.mem_json.mpr (by simp [Message.members]))
  have payload : (message.json saving).index "payload" = .ok message.payloadJson :=
    index (by simp [Message.members])
  obtain ⟨payloads, loaded, found⟩ := loadPayloads_spec message.payloadJson_nodup
    (fun item member =>
      have ⟨text, string, _⟩ := (message.payloadJson_elements item).mp member
      ⟨text, string⟩) AssocMap.empty
  refine ⟨{
    recipient := message.recipient
    payloads := payloads
    status := savedStatus message.status
    retried := message.retried
    lastOp := loading.steady + (fromTimeT (message.wallTime saving) - loading.system) },
      ?_, ⟨rfl, ?_, rfl, rfl⟩⟩
  · unfold loadMessage
    rw [status, recipient, lastOp, retried, payload]
    simp only [Except.mapError, Except.bind, bind, pure, Except.pure, asInt_toInt, asUInt_toNat,
      asInt64_toInt, JsonValue.asString, loaded, Option.getD_some, Int32.ofInt_toInt,
      Int.toNat_natCast, UInt32.ofNat_toNat]
  · intro key
    apply Option.ext
    intro text
    rw [found, Message.payloadJson_elements]
    simp

def lookup (store : Store) (peer : String) (token : MessageToken) : Option Message :=
  (store.find? peer).bind (fun messages => messages.find? token)

theorem lookup_emplace_empty (store : Store) (added peer : String) (token : MessageToken) :
    lookup (store.emplace added AssocMap.empty) peer token = lookup store peer token := by
  unfold lookup
  rw [AssocMap.find?_emplace]
  split
  · rename_i same
    rw [same]
    cases store.find? added <;> rfl
  · rfl

private theorem lookup_emplaceAt (store : Store) (added peer : String) (token other : MessageToken)
    (message : Message) :
    lookup (emplaceAt store added token message) peer other =
      (lookup store peer other).or
        (if peer = added ∧ token = other then some message else none) := by
  rw [← lookup_emplace_empty store added]
  unfold emplaceAt lookup
  rw [AssocMap.find?_modify]
  by_cases here : peer = added
  · subst here
    rw [if_pos rfl, AssocMap.find?_emplace, if_pos rfl, Option.map_some, Option.bind_some,
      Option.bind_some, AssocMap.find?_emplace]
    by_cases same : other = token
    · subst same
      cases ((store.find? peer).getD AssocMap.empty).find? other <;> simp
    · simp [same, Ne.symm same]
  · simp [here]

def loadedAt (clocks : Clocks) (token : MessageToken) (entry : String × JsonValue) :
    Option Message :=
  match loadEntry clocks entry with
  | .ok (own, message) => if own = token then some message else none
  | .error _ => none

private theorem loadPeer_spec (added : String) {entries : List (String × JsonValue)}
    (valid : ∀ entry ∈ entries, ∃ loaded, loadEntry clocks entry = .ok loaded) (store : Store) :
    (loadPeer clocks added entries store).2 = none ∧
      ∀ peer token, lookup (loadPeer clocks added entries store).1 peer token =
        (lookup store peer token).or
          (if peer = added then entries.findSome? (loadedAt clocks token) else none) := by
  induction entries generalizing store with
  | nil => exact ⟨rfl, by simp [loadPeer]⟩
  | cons entry rest ih =>
    obtain ⟨⟨own, message⟩, loaded⟩ := valid entry List.mem_cons_self
    have later := ih (fun entry member => valid entry (List.mem_cons_of_mem _ member))
      (emplaceAt store added own message)
    unfold loadPeer
    rw [loaded]
    refine ⟨later.1, ?_⟩
    intro peer token
    rw [later.2, lookup_emplaceAt, Option.or_assoc]
    by_cases here : peer = added
    · by_cases same : own = token
      · simp [here, same, loadedAt, loaded]
      · simp [here, same, loadedAt, loaded]
    · simp [here]

private theorem loadRoot_spec {entries : List (String × JsonValue)}
    (valid : ∀ entry ∈ entries, ∀ inner ∈ entry.2.elements, ∃ loaded, loadEntry clocks inner =
      .ok loaded)
    (store : Store) :
    (loadRoot clocks entries store).2 = none ∧
      ∀ peer token, lookup (loadRoot clocks entries store).1 peer token =
        (lookup store peer token).or (entries.findSome? fun entry =>
          if peer = entry.1 then entry.2.elements.findSome? (loadedAt clocks token) else none) := by
  induction entries generalizing store with
  | nil => exact ⟨rfl, by simp [loadRoot]⟩
  | cons entry rest ih =>
    have first := loadPeer_spec clocks entry.1 (valid entry List.mem_cons_self)
      (store.emplace entry.1 AssocMap.empty)
    unfold loadRoot
    cases peerLoaded : loadPeer clocks entry.1 entry.2.elements
        (store.emplace entry.1 AssocMap.empty) with
    | mk next error =>
      rw [peerLoaded] at first
      obtain ⟨noError, found⟩ := first
      cases noError
      have later := ih (fun entry member => valid entry (List.mem_cons_of_mem _ member)) next
      refine ⟨later.1, ?_⟩
      intro peer token
      rw [later.2, found, lookup_emplace_empty, List.findSome?_cons]
      split
      · cases entry.2.elements.findSome? (loadedAt clocks token) <;> simp
      · simp

theorem mem_peerRoot {clocks : Clocks} {messages : AssocMap MessageToken Message} :
    entry ∈ (peerRoot clocks messages).entries ↔
      ∃ token message, messages.find? token = some message ∧ message.isSaved = true ∧
        entry = (toHexString token, message.json clocks) := by
  have distinct : (messages.entries.map (fun entry => toHexString entry.1)).Nodup := by
    have keys := messages.distinct.map toHexString_injective
    rwa [List.map_map] at keys
  unfold peerRoot
  rw [SortedMap.mem_collect distinct (fun entry => entry.2.isSaved)]
  constructor
  · rintro ⟨⟨token, message⟩, member, saved, same⟩
    exact ⟨token, message, (AssocMap.mem_entries_iff _ _ _).mp member, saved, same⟩
  · rintro ⟨token, message, found, saved, same⟩
    exact ⟨(token, message), (AssocMap.mem_entries_iff _ _ _).mpr found, saved, same⟩

theorem mem_root {clocks : Clocks} :
    entry ∈ (root clocks store).entries ↔
      ∃ messages, store.find? entry.1 = some messages ∧
        (peerRoot clocks messages).entries ≠ [] ∧ entry.2 = (peerRoot clocks messages).value := by
  have skipping : root clocks store = store.entries.foldl (fun root entry =>
      if !(peerRoot clocks entry.2).entries.isEmpty then
        root.assign entry.1 (peerRoot clocks entry.2).value
      else root) SortedMap.empty := by
    unfold root
    congr 1
    funext root entry
    cases (peerRoot clocks entry.2).entries.isEmpty <;> rfl
  rw [skipping, SortedMap.mem_collect store.distinct]
  constructor
  · rintro ⟨⟨peer, messages⟩, member, written, rfl⟩
    exact ⟨messages, (AssocMap.mem_entries_iff _ _ _).mp member, by simpa using written, rfl⟩
  · intro ⟨messages, found, written, value⟩
    refine ⟨(entry.1, messages), (AssocMap.mem_entries_iff _ _ _).mpr found, ?_, ?_⟩
    · simpa using written
    · rw [← value]

theorem Message.storable_payloadJson : message.payloadJson.Storable := by
  have texts : ∀ entry ∈ message.payloadJson.elements, entry.2.Storable := by
    intro entry member
    obtain ⟨text, string, _⟩ := (message.payloadJson_elements entry).mp member
    rw [string]
    exact .string text
  unfold Message.payloadJson at texts ⊢
  split
  · exact .null
  · rename_i written
    rw [if_neg written] at texts
    exact JsonObject.storable_value texts

theorem Message.storable_json : (message.json clocks).Storable := by
  apply JsonObject.storable_value
  intro entry member
  have listed := Message.mem_json.mp member
  simp only [Message.members, List.mem_cons, List.not_mem_nil, or_false] at listed
  rcases listed with rfl | rfl | rfl | rfl | rfl
  · have least := Int32.le_toInt (savedStatus message.status)
    have greatest := Int32.toInt_lt (savedStatus message.status)
    exact .int (by omega) (by omega)
  · exact .string message.recipient
  · have least := Int64.le_toInt (message.wallTime clocks)
    have greatest := Int64.toInt_lt (message.wallTime clocks)
    exact .int (by omega) (by omega)
  · have greatest := UInt32.toNat_lt message.retried
    exact .int (by omega) (by omega)
  · exact message.storable_payloadJson

private theorem storable_root (store : Store) : (root clocks store).value.Storable := by
  apply JsonObject.storable_value
  intro entry member
  obtain ⟨messages, _, _, value⟩ := mem_root.mp member
  rw [value]
  apply JsonObject.storable_value
  intro inner written
  obtain ⟨token, message, _, _, rfl⟩ := mem_peerRoot.mp written
  exact message.storable_json clocks

/-! ### Writing and reading back -/

def reloaded (saving loading : Clocks) (message : Message) : Option Message :=
  (loadMessage loading (message.json saving)).toOption

theorem reloaded_spec (saving loading : Clocks) (message : Message) :
    ∃ after, reloaded saving loading message = some after ∧ Reloaded message after := by
  obtain ⟨after, loaded, same⟩ := loadMessage_json saving loading message
  exact ⟨after, by rw [reloaded, loaded]; rfl, same⟩

theorem loadEntry_saved (saving loading : Clocks) (token : MessageToken) (message : Message) :
    ∃ after, reloaded saving loading message = some after ∧
      loadEntry loading (toHexString token, message.json saving) = .ok (token, after) := by
  obtain ⟨after, loaded, _⟩ := loadMessage_json saving loading message
  refine ⟨after, by rw [reloaded, loaded]; rfl, ?_⟩
  unfold loadEntry
  rw [fromHexString_toHexString, loaded]
  rfl

private theorem findSome?_eq {α β : Type} {items : List α} {f : α → Option β}
    {expected : Option β} (sound : ∀ item ∈ items, ∀ value, f item = some value →
      expected = some value)
    (found : ∀ value, expected = some value → ∃ item ∈ items, f item = some value) :
    items.findSome? f = expected := by
  cases result : items.findSome? f with
  | none =>
    have nowhere := List.findSome?_eq_none_iff.mp result
    cases expected with
    | none => rfl
    | some value =>
      obtain ⟨item, member, here⟩ := found value rfl
      rw [nowhere item member] at here
      cases here
  | some value =>
    obtain ⟨item, member, here⟩ := List.exists_of_findSome?_eq_some result
    exact (sound item member value here).symm

private theorem findSome?_peerRoot (saving loading : Clocks)
    (messages : AssocMap MessageToken Message) (token : MessageToken) :
    (peerRoot saving messages).entries.findSome? (loadedAt loading token) =
      ((messages.find? token).filter Message.isSaved).bind (reloaded saving loading) := by
  apply findSome?_eq
  · intro entry member after here
    obtain ⟨own, message, found, saved, rfl⟩ := mem_peerRoot.mp member
    obtain ⟨loaded, same, entryLoaded⟩ := loadEntry_saved saving loading own message
    unfold loadedAt at here
    rw [entryLoaded] at here
    dsimp only at here
    split at here
    · rename_i equal
      subst equal
      rw [found, Option.filter_some, if_pos saved, Option.bind_some, same, here]
    · cases here
  · intro after expected
    obtain ⟨message, kept, same⟩ := Option.bind_eq_some_iff.mp expected
    obtain ⟨found, saved⟩ := Option.filter_eq_some_iff.mp kept
    obtain ⟨loaded, known, entryLoaded⟩ := loadEntry_saved saving loading token message
    refine ⟨_, mem_peerRoot.mpr ⟨token, message, found, saved, rfl⟩, ?_⟩
    unfold loadedAt
    rw [entryLoaded]
    dsimp only
    rw [if_pos rfl, ← known, same]

section

variable {Text : Type} {write : JsonValue → Text} {read : Text → Option JsonValue}

section

variable (roundTrip : ∀ value : JsonValue, value.Storable → read (write value) = some value)
include roundTrip

theorem lookup_load_save (saving loading : Clocks) (store : Store) (peer : String)
    (token : MessageToken) :
    lookup (load read loading (save write saving store) AssocMap.empty) peer token =
      ((lookup store peer token).filter Message.isSaved).bind (reloaded saving loading) := by
  have valid : ∀ entry ∈ (root saving store).entries, ∀ inner ∈ entry.2.elements,
      ∃ loaded, loadEntry loading inner = .ok loaded := by
    intro entry member inner listed
    obtain ⟨messages, _, _, value⟩ := mem_root.mp member
    rw [value] at listed
    obtain ⟨own, message, _, _, rfl⟩ := mem_peerRoot.mp listed
    obtain ⟨after, _, loaded⟩ := loadEntry_saved saving loading own message
    exact ⟨(own, after), loaded⟩
  unfold load save
  rw [roundTrip _ (storable_root saving store)]
  change lookup (loadRoot loading (root saving store).entries AssocMap.empty).1 peer token = _
  rw [(loadRoot_spec loading valid AssocMap.empty).2]
  apply findSome?_eq
  · intro entry member after here
    obtain ⟨messages, found, _, value⟩ := mem_root.mp member
    split at here
    · rename_i same
      rw [value] at here
      unfold lookup
      rw [same, found, Option.bind_some, ← findSome?_peerRoot]
      exact here
    · cases here
  · intro after expected
    obtain ⟨message, kept, same⟩ := Option.bind_eq_some_iff.mp expected
    obtain ⟨stored, saved⟩ := Option.filter_eq_some_iff.mp kept
    obtain ⟨messages, found, inside⟩ := Option.bind_eq_some_iff.mp stored
    have written : (toHexString token, message.json saving) ∈ (peerRoot saving messages).entries :=
      mem_peerRoot.mpr ⟨token, message, inside, saved, rfl⟩
    refine ⟨(peer, (peerRoot saving messages).value),
      mem_root.mpr ⟨messages, found, List.ne_nil_of_mem written, rfl⟩, ?_⟩
    rw [if_pos rfl]
    change (peerRoot saving messages).entries.findSome? (loadedAt loading token) = some after
    rw [findSome?_peerRoot, inside, Option.filter_some, if_pos saved, Option.bind_some, same]

theorem loaded_of_saved (saving loading : Clocks) {peer : String} {token : MessageToken}
    {message : Message} (stored : lookup store peer token = some message)
    (saved : message.isSaved = true) :
    ∃ after, lookup (load read loading (save write saving store) AssocMap.empty) peer token =
      some after ∧ Reloaded message after := by
  obtain ⟨after, loaded, same⟩ := reloaded_spec saving loading message
  refine ⟨after, ?_, same⟩
  rw [lookup_load_save roundTrip, stored, Option.filter_some, if_pos saved, Option.bind_some,
    loaded]

theorem saved_of_loaded {saving loading : Clocks} {peer : String} {token : MessageToken}
    {after : Message}
    (found : lookup (load read loading (save write saving store) AssocMap.empty) peer token =
      some after) :
    ∃ message, lookup store peer token = some message ∧ message.isSaved = true ∧
      Reloaded message after := by
  rw [lookup_load_save roundTrip] at found
  obtain ⟨message, kept, loaded⟩ := Option.bind_eq_some_iff.mp found
  obtain ⟨stored, saved⟩ := Option.filter_eq_some_iff.mp kept
  obtain ⟨same, loadedAgain, reload⟩ := reloaded_spec saving loading message
  rw [loadedAgain] at loaded
  cases loaded
  exact ⟨message, stored, saved, reload⟩

end

/-- Saved and loaded into an empty engine, the store has the messages that were to be
saved, under the same peer and token, and no others. -/
theorem load_save_exact
    (roundTrip : ∀ value : JsonValue, value.Storable → read (write value) = some value)
    (saving loading : Clocks) (store : Store) (peer : String) (token : MessageToken) :
    (∀ message, lookup store peer token = some message → message.isSaved = true →
      ∃ after, lookup (load read loading (save write saving store) AssocMap.empty) peer token =
        some after ∧ Reloaded message after) ∧
    (∀ after, lookup (load read loading (save write saving store) AssocMap.empty) peer token =
        some after →
      ∃ message, lookup store peer token = some message ∧ message.isSaved = true ∧
        Reloaded message after) := by
  constructor
  · intro message stored saved
    exact loaded_of_saved roundTrip saving loading stored saved
  · intro after found
    exact saved_of_loaded roundTrip found

end

def onItsWay : Message where
  recipient := "bob"
  payloads := ⟨[("text/plain", "hi")], by decide⟩
  status := MessageStatus.sending.code
  retried := 3
  lastOp := 5000000000

theorem load_save_onItsWay :
    (∀ value : JsonValue, value.Storable → some (id value) = some value) ∧
    ∃ after, lookup (load some ⟨0, 9⟩ (save id ⟨7, 8⟩
      ⟨[("bob", ⟨[(12, onItsWay)], by decide⟩)], by decide⟩) AssocMap.empty) "bob" 12 =
        some after ∧ Reloaded onItsWay after :=
  ⟨fun _ _ => rfl, (load_save_exact (fun _ _ => rfl) ⟨7, 8⟩ ⟨0, 9⟩ _ "bob" 12).1 onItsWay rfl rfl⟩

structure Matches (message : Message) (modelled : Im.Message) : Prop where
  recipient : message.recipient = modelled.recipient
  payloads : ∀ key, message.payloads.find? key = modelled.payloads.lookup key
  status : message.status = modelled.status.code
  retried : message.retried.toNat = modelled.retried

structure Represents (store : Store) (messages : Messages) : Prop where
  stored : ∀ peer token message, lookup store peer token = some message →
    ∃ modelled, messages.find? (peer, token.toNat) = some modelled ∧ Matches message modelled
  modelled : ∀ peer number modelled, messages.find? (peer, number) = some modelled →
    ∃ token message, token.toNat = number ∧ lookup store peer token = some message ∧
      Matches message modelled

theorem Matches.isSaved_eq {message : Message} {modelled : Im.Message}
    (matched : Matches message modelled) : message.isSaved = modelled.isSaved := by
  unfold Message.isSaved Im.Message.isSaved
  rw [matched.status]
  cases modelled.status <;> decide

private theorem savedStatus_code (status : MessageStatus) :
    savedStatus status.code = (if status = .sending then MessageStatus.idle else status).code := by
  cases status <;> decide

theorem Matches.reloaded {before after : Message} {modelled : Im.Message}
    (matched : Matches before modelled) (reload : Reloaded before after) :
    Matches after modelled.asSaved where
  recipient := reload.recipient.trans matched.recipient
  payloads := fun key => (reload.payloads key).trans (matched.payloads key)
  status := by
    rw [reload.status, matched.status, savedStatus_code]
    rfl
  retried := by
    rw [reload.retried]
    exact matched.retried

/-- What is loaded from the file represents the saved messages of the model. -/
theorem Represents.load_save {Text : Type} {write : JsonValue → Text}
    {read : Text → Option JsonValue} {messages : Messages}
    (roundTrip : ∀ value : JsonValue, value.Storable → read (write value) = some value)
    (saving loading : Clocks) (represents : Represents store messages) :
    Represents (load read loading (save write saving store) AssocMap.empty)
      (Engine.saved messages) where
  stored := by
    intro peer token after found
    obtain ⟨message, stored, saved, reload⟩ := saved_of_loaded roundTrip found
    obtain ⟨modelled, present, matched⟩ := represents.stored peer token message stored
    exact ⟨modelled.asSaved, Engine.find?_saved.mpr ⟨modelled, present, matched.isSaved_eq ▸ saved, rfl⟩,
      matched.reloaded reload⟩
  modelled := by
    intro peer number after found
    obtain ⟨modelled, present, saved, rfl⟩ := Engine.find?_saved.mp found
    obtain ⟨token, message, same, stored, matched⟩ := represents.modelled peer number modelled present
    obtain ⟨after, loaded, reload⟩ := loaded_of_saved roundTrip saving loading stored
      (matched.isSaved_eq.trans saved)
    exact ⟨token, after, same, loaded, matched.reloaded reload⟩

theorem represents_onItsWay : Represents ⟨[("bob", ⟨[(12, onItsWay)], by decide⟩)], by decide⟩
    ⟨[(("bob", 12), ⟨"bob", [("text/plain", "hi")], .sending, 3⟩)], by decide⟩ := by
  have matched : Matches onItsWay ⟨"bob", [("text/plain", "hi")], .sending, 3⟩ :=
    ⟨rfl, fun _ => rfl, rfl, rfl⟩
  constructor
  · intro peer token message found
    obtain ⟨held, listed, there⟩ := Option.bind_eq_some_iff.mp found
    cases List.mem_singleton.mp ((AssocMap.mem_entries_iff _ _ _).mpr listed)
    cases List.mem_singleton.mp ((AssocMap.mem_entries_iff _ _ _).mpr there)
    exact ⟨_, rfl, matched⟩
  · intro peer number modelled found
    cases List.mem_singleton.mp ((AssocMap.mem_entries_iff _ _ _).mpr found)
    exact ⟨12, onItsWay, rfl, rfl, matched⟩

theorem load_save_represents_onItsWay :
    Represents (load some ⟨0, 9⟩ (save id ⟨7, 8⟩
        ⟨[("bob", ⟨[(12, onItsWay)], by decide⟩)], by decide⟩) AssocMap.empty)
      (Engine.saved ⟨[(("bob", 12), ⟨"bob", [("text/plain", "hi")], .sending, 3⟩)], by decide⟩) :=
  Represents.load_save (fun _ _ => rfl) ⟨7, 8⟩ ⟨0, 9⟩ represents_onItsWay

end MessageFile

end SipCore.Im
