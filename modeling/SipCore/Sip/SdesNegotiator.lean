/-
The choice of a crypto attribute (RFC 4568, section 9.2) among the lines of a remote
description. Each line is split at blanks, its first three fields are searched for a
tag, a crypto suite and key parameters, and the first line with a supported suite is
taken. A string is the list of its characters. Of the table of suites only the names
are kept.
-/

import SipCore.Library.Regex

namespace SipCore.Sdes

open Regex

abbrev Text := List Char

inductive ParseError where
  | missingComponents
  | noTag
  | noCryptoSuite
  | noKeyParams
deriving DecidableEq, Repr

structure CryptoAttribute where
  tag : Text := []
  cryptoSuite : Text := []
  srtpKeyMethod : Text := []
  srtpKeyInfo : Text := []
  lifetime : Text := []
  mkiValue : Text := []
  mkiLength : Text := []
deriving DecidableEq, Repr

def isBlank (c : Char) : Bool := c == '\x20' || c == '\x09'

/-- `skipping` says that the last character was a blank. An empty field is only
reported in front of the first blank. -/
def separate : Bool → Text → Text → List Text
  | _, field, [] => if field.isEmpty then [] else [field]
  | skipping, field, c :: rest =>
    if isBlank c then
      if skipping then separate true field rest else field :: separate true [] rest
    else separate false (field ++ [c]) rest

def splitFields (item : Text) : List Text :=
  if item.isEmpty then [[]] else separate false [] item

def isDigit (c : Char) : Bool := decide ('0' ≤ c) && decide (c ≤ '9')

def isWord (c : Char) : Bool :=
  (decide ('A' ≤ c) && decide (c ≤ 'Z')) || (decide ('a' ≤ c) && decide (c ≤ 'z')) ||
    isDigit c || c == '_'

def isKeyInfo (c : Char) : Bool :=
  (decide ('A' ≤ c) && decide (c ≤ 'Z')) || (decide ('a' ≤ c) && decide (c ≤ 'z')) ||
    isDigit c || c == '\x2B' || c == '\x2F' || c == '\x3D'

def cryptoSuites : List Text :=
  ["AES_CM_128_HMAC_SHA1_80".toList, "AES_CM_128_HMAC_SHA1_32".toList,
    "F8_128_HMAC_SHA1_80".toList]

/-- It is anchored: matched at the start of the field only. -/
def tagPattern : Pattern Char :=
  .group 1 (.repeated isDigit 1 (some 9))

def cryptoSuitePattern : Pattern Char :=
  .group 1
    (.alt (.literal "AES_CM_128_HMAC_SHA1_80".toList)
      (.alt (.literal "AES_CM_128_HMAC_SHA1_32".toList)
        (.alt (.literal "F8_128_HMAC_SHA1_80".toList) (.repeated isWord 1 none))))

def lifetimeAndMki : Pattern Char :=
  .seq (.group 4 (.literal "|2^".toList))
    (.seq (.seq (.group 5 (.repeated isDigit 1 none)) (.literal ['|']))
      (.seq (.seq (.group 6 (.repeated isDigit 1 none)) (.literal [':']))
        (.seq (.group 7 (.repeated isDigit 1 (some 3))) (.optional (.literal [';'])))))

def keyParamsPattern : Pattern Char :=
  .seq
    (.seq (.group 1 (.alt (.literal "inline".toList) (.repeated isWord 1 none))) (.literal [':']))
    (.seq (.group 2 (.repeated isKeyInfo 1 none)) (.optional (.group 3 lifetimeAndMki)))

def attributeOf (tag cryptoSuite keyParams : Path Char) : CryptoAttribute :=
  { tag := tag.captured 1
    cryptoSuite := cryptoSuite.captured 1
    srtpKeyMethod := keyParams.captured 1
    srtpKeyInfo := keyParams.captured 2
    lifetime := keyParams.captured 5
    mkiValue := keyParams.captured 6
    mkiLength := keyParams.captured 7 }

def parseLine (item : Text) : Except ParseError CryptoAttribute :=
  match splitFields item with
  | tagField :: suiteField :: keyField :: _ =>
    match tagPattern.matchStart tagField with
    | none => .error .noTag
    | some tag =>
      match cryptoSuitePattern.search suiteField with
      | none => .error .noCryptoSuite
      | some cryptoSuite =>
        match keyParamsPattern.search keyField with
        | none => .error .noKeyParams
        | some keyParams => .ok (attributeOf tag cryptoSuite keyParams)
  | _ => .error .missingComponents

def parse : List Text → Except ParseError (List CryptoAttribute)
  | [] => .ok []
  | item :: rest =>
    match parseLine item with
    | .error error => .error error
    | .ok offer =>
      match parse rest with
      | .error error => .error error
      | .ok others => .ok (offer :: others)

def supported (offer : CryptoAttribute) : Bool :=
  cryptoSuites.any (fun name => offer.cryptoSuite == name)

def negotiate (attributes : List Text) : CryptoAttribute :=
  match parse attributes with
  | .ok cryptoAttributes => (cryptoAttributes.find? supported).getD {}
  | .error _ => {}

/-- The attribute of a line whose three fields match as a whole and whose suite is
exactly one of the table. -/
def wellFormed? (item : Text) : Option CryptoAttribute :=
  match splitFields item with
  | tagField :: suiteField :: keyField :: _ =>
    match tagPattern.fullMatch tagField, cryptoSuitePattern.fullMatch suiteField,
        keyParamsPattern.fullMatch keyField with
    | some tag, some cryptoSuite, some keyParams =>
      if suiteField ∈ cryptoSuites then some (attributeOf tag cryptoSuite keyParams) else none
    | _, _, _ => none
  | _ => none

def firstWellFormed (attributes : List Text) : CryptoAttribute :=
  (attributes.findSome? wellFormed?).getD {}

def parses (item : Text) : Bool :=
  match parseLine item with
  | .ok _ => true
  | .error _ => false

def offersSupported (item : Text) : Bool :=
  match parseLine item with
  | .ok offer => supported offer
  | .error _ => false

/-- With a well-formed line present: all lines parse, and the first in which a
supported suite is found parses as the first well-formed one does. Without one:
some line does not parse, or no supported suite is found anywhere. -/
def Harmless (attributes : List Text) : Prop :=
  match attributes.find? (fun item => (wellFormed? item).isSome) with
  | some wellFormed =>
    (∀ item ∈ attributes, parses item = true) ∧
      ∃ first, attributes.find? offersSupported = some first ∧
        parseLine first = parseLine wellFormed
  | none =>
    (∃ item ∈ attributes, parses item = false) ∨
      ∀ item ∈ attributes, offersSupported item = false

private theorem tagPattern_longest : tagPattern.LongestFirst :=
  (Pattern.greedy_repeated isDigit 1 (some 9)).group.longestFirst

private theorem lifetimeAndMki_longest : lifetimeAndMki.LongestFirst := by
  have digitsThen : ∀ index delimiter, isDigit delimiter = false →
      (Pattern.seq (.group index (.repeated isDigit 1 none)) (.literal [delimiter])).Determined := by
    intro index delimiter outside
    exact (Pattern.within_repeated isDigit 1 none).group.determined outside []
  have last : (Pattern.seq (.group 7 (.repeated isDigit 1 (some 3)))
      (.optional (.literal [';']))).LongestFirst :=
    (Pattern.greedy_repeated isDigit 1 (some 3)).group.optional
      (Pattern.startsOutside_literal (by decide) []) (Pattern.determined_literal [';']).longestFirst
  have mki := (digitsThen 6 ':' (by decide)).seq last
  have lifetime := (digitsThen 5 '|' (by decide)).seq mki
  exact (Pattern.determined_literal "|2^".toList).group.seq lifetime

theorem keyParamsPattern_longest : keyParamsPattern.LongestFirst := by
  have method : (Pattern.alt (.literal "inline".toList) (.repeated isWord 1 none)).Within isWord :=
    (Pattern.within_literal (by decide)).alt (Pattern.within_repeated isWord 1 none)
  apply (method.group.determined (by decide) []).seq
  apply (Pattern.greedy_repeated isKeyInfo 1 none).group.optional
  · exact ((Pattern.startsOutside_literal (by decide) ['2', '^']).group.seq _).group
  · exact lifetimeAndMki_longest.group

theorem matchStart_suite {suite : Text} (known : suite ∈ cryptoSuites) :
    cryptoSuitePattern.matchStart suite = some ⟨suite, [], [(1, suite)]⟩ ∧
      cryptoSuitePattern.fullMatch suite = some ⟨suite, [], [(1, suite)]⟩ := by
  revert suite
  decide +kernel

variable {item : Text}

private theorem wellFormed_spec {offer : CryptoAttribute} (good : wellFormed? item = some offer) :
    parseLine item = .ok offer ∧ supported offer = true := by
  unfold wellFormed? at good
  unfold parseLine
  split at good
  · rename_i tagField suiteField keyField others fields
    split at good
    · rename_i tag cryptoSuite keyParams wholeTag wholeSuite wholeKey
      split at good
      · rename_i known
        cases good
        obtain ⟨suiteStart, suiteFull⟩ := matchStart_suite known
        rw [suiteFull] at wholeSuite
        cases wholeSuite
        simp only [tagPattern_longest.matchStart_of_fullMatch wholeTag,
          Pattern.search_of_matchStart suiteStart,
          Pattern.search_of_matchStart (keyParamsPattern_longest.matchStart_of_fullMatch wholeKey)]
        exact ⟨trivial, List.any_eq_true.mpr ⟨suiteField, known, beq_self_eq_true suiteField⟩⟩
      · cases good
    · cases good
  · cases good

/-! ### The loop over the lines -/

theorem parses_iff (item : Text) : parses item = true ↔ ∃ offer, parseLine item = .ok offer := by
  unfold parses
  cases parseLine item with
  | error error => exact ⟨nofun, nofun⟩
  | ok offer => exact ⟨fun _ => ⟨offer, rfl⟩, fun _ => rfl⟩

theorem offersSupported_iff (item : Text) :
    offersSupported item = true ↔ ∃ offer, parseLine item = .ok offer ∧ supported offer = true := by
  unfold offersSupported
  cases parseLine item with
  | error error => exact ⟨nofun, nofun⟩
  | ok offer =>
    constructor
    · intro fine
      exact ⟨offer, rfl, fine⟩
    · rintro ⟨other, same, fine⟩
      cases same
      exact fine

variable {attributes : List Text}

theorem negotiate_of_failure (member : item ∈ attributes) (fails : parses item = false) :
    negotiate attributes = {} := by
  have failed : ∃ error, parse attributes = .error error := by
    induction attributes with
    | nil => cases member
    | cons head rest ih =>
      unfold parse
      cases first : parseLine head with
      | error error => exact ⟨error, rfl⟩
      | ok offer =>
        rcases List.mem_cons.mp member with rfl | later
        · have parsed := (parses_iff item).mpr ⟨offer, first⟩
          rw [fails] at parsed
          cases parsed
        · obtain ⟨error, failed⟩ := ih later
          simp only [failed]
          exact ⟨error, rfl⟩
  obtain ⟨error, failed⟩ := failed
  unfold negotiate
  rw [failed]

theorem find?_of_parses (all : ∀ item ∈ attributes, parses item = true) :
    ∃ offers, parse attributes = .ok offers ∧
      ((attributes.find? offersSupported = none ∧ offers.find? supported = none) ∨
        ∃ first offer, attributes.find? offersSupported = some first ∧
          parseLine first = .ok offer ∧ offers.find? supported = some offer) := by
  induction attributes with
  | nil => exact ⟨[], rfl, .inl ⟨rfl, rfl⟩⟩
  | cons head rest ih =>
    obtain ⟨offer, first⟩ := (parses_iff head).mp (all head List.mem_cons_self)
    obtain ⟨offers, parsed, chosen⟩ :=
      ih (fun item member => all item (List.mem_cons_of_mem head member))
    have whole : parse (head :: rest) = .ok (offer :: offers) := by
      unfold parse
      simp only [first, parsed]
    refine ⟨offer :: offers, whole, ?_⟩
    cases fine : supported offer with
    | true =>
      have offered := (offersSupported_iff head).mpr ⟨offer, first, fine⟩
      right
      exact ⟨head, offer, List.find?_cons_of_pos offered, first, List.find?_cons_of_pos fine⟩
    | false =>
      have skipped : ¬ offersSupported head = true := by
        intro offered
        obtain ⟨other, same, otherFine⟩ := (offersSupported_iff head).mp offered
        rw [first] at same
        cases same
        rw [fine] at otherFine
        cases otherFine
      rw [List.find?_cons_of_neg skipped,
        List.find?_cons_of_neg (by rw [fine]; exact Bool.false_ne_true)]
      exact chosen

theorem negotiate_of_found (all : ∀ item ∈ attributes, parses item = true) {first : Text}
    (found : attributes.find? offersSupported = some first) :
    parseLine first = .ok (negotiate attributes) := by
  obtain ⟨offers, parsed, chosen⟩ := find?_of_parses all
  unfold negotiate
  rw [parsed]
  rcases chosen with ⟨missing, _⟩ | ⟨other, offer, here, line, best⟩
  · rw [found] at missing
    cases missing
  · rw [found] at here
    cases here
    simp only [best, line]
    rfl

theorem negotiate_of_missing (missing : ∀ item ∈ attributes, offersSupported item = false) :
    negotiate attributes = {} := by
  by_cases all : ∀ item ∈ attributes, parses item = true
  · obtain ⟨offers, parsed, chosen⟩ := find?_of_parses all
    rcases chosen with ⟨_, nothing⟩ | ⟨first, offer, found, _, _⟩
    · unfold negotiate
      rw [parsed]
      simp only [nothing]
      rfl
    · have refused := missing first (List.mem_of_find?_eq_some found)
      rw [List.find?_some found] at refused
      cases refused
  · push Not at all
    obtain ⟨item, member, fails⟩ := all
    exact negotiate_of_failure member (Bool.eq_false_iff.mpr fails)

theorem supported_ne_empty {offer : CryptoAttribute} (fine : supported offer = true) :
    offer ≠ {} := by
  rintro rfl
  revert fine
  decide +kernel

private theorem negotiate_empty_iff (attributes : List Text) :
    negotiate attributes = {} ↔
      (∃ item ∈ attributes, parses item = false) ∨
        ∀ item ∈ attributes, offersSupported item = false := by
  constructor
  · intro empty
    by_contra neither
    push Not at neither
    obtain ⟨all, item, member, offered⟩ := neither
    have parsed : ∀ item ∈ attributes, parses item = true := by
      intro each belongs
      exact Bool.not_eq_false _ |>.mp (all each belongs)
    cases found : attributes.find? offersSupported with
    | none => exact List.find?_eq_none.mp found item member (Bool.not_eq_false _ |>.mp offered)
    | some first =>
      have line := negotiate_of_found parsed found
      obtain ⟨offer, same, fine⟩ := (offersSupported_iff first).mp (List.find?_some found)
      rw [line, empty] at same
      cases same
      exact supported_ne_empty fine rfl
  · rintro (⟨item, member, fails⟩ | missing)
    · exact negotiate_of_failure member fails
    · exact negotiate_of_missing missing

private theorem firstWellFormed_of_found
    (found : attributes.find? (fun item => (wellFormed? item).isSome) = some item) :
    wellFormed? item = some (firstWellFormed attributes) := by
  unfold firstWellFormed
  induction attributes with
  | nil => cases found
  | cons head rest ih =>
    cases good : wellFormed? head with
    | none =>
      rw [List.find?_cons_of_neg (by rw [good]; exact Bool.false_ne_true)] at found
      rw [List.findSome?_cons, good]
      exact ih found
    | some offer =>
      rw [List.find?_cons_of_pos (by rw [good]; rfl)] at found
      cases found
      rw [List.findSome?_cons, good]
      rfl

theorem firstWellFormed_of_missing
    (missing : attributes.find? (fun item => (wellFormed? item).isSome) = none) :
    firstWellFormed attributes = {} := by
  have nothing : attributes.findSome? wellFormed? = none := by
    apply List.findSome?_eq_none_iff.mpr
    intro item member
    have none_here := List.find?_eq_none.mp missing item member
    exact Option.not_isSome_iff_eq_none.mp none_here
  unfold firstWellFormed
  rw [nothing]
  rfl

/-- The attribute of the first well-formed line is chosen, and an empty one if
there is no such line, exactly for these lists of lines. -/
theorem negotiate_eq_firstWellFormed_iff (attributes : List Text) :
    negotiate attributes = firstWellFormed attributes ↔ Harmless attributes := by
  unfold Harmless
  cases good : attributes.find? (fun item => (wellFormed? item).isSome) with
  | none =>
    rw [firstWellFormed_of_missing good]
    exact negotiate_empty_iff attributes
  | some item =>
    obtain ⟨line, fine⟩ := wellFormed_spec (firstWellFormed_of_found good)
    have offered : offersSupported item = true := (offersSupported_iff item).mpr ⟨_, line, fine⟩
    have member := List.mem_of_find?_eq_some good
    constructor
    · intro same
      rw [← same] at line fine
      have chosen : ¬ negotiate attributes = {} := supported_ne_empty fine
      rw [negotiate_empty_iff, not_or] at chosen
      have all : ∀ each ∈ attributes, parses each = true := by
        intro each belongs
        by_contra fails
        exact chosen.1 ⟨each, belongs, Bool.not_eq_true _ |>.mp fails⟩
      refine ⟨all, ?_⟩
      cases found : attributes.find? offersSupported with
      | none => exact absurd offered (List.find?_eq_none.mp found item member)
      | some first =>
        refine ⟨first, rfl, ?_⟩
        rw [negotiate_of_found all found, line]
    · rintro ⟨all, first, found, same⟩
      have chosen := negotiate_of_found all found
      rw [same, line] at chosen
      exact (Except.ok.inj chosen).symm

/-- A line without three fields hides the well-formed one after it. -/
theorem malformed_line_hides_wellFormed :
    negotiate ["none".toList, "1 AES_CM_128_HMAC_SHA1_80 inline:abc".toList] ≠
      firstWellFormed ["none".toList, "1 AES_CM_128_HMAC_SHA1_80 inline:abc".toList] := by
  decide +kernel

/-- A suite is also found inside a longer name. -/
example : negotiate ["1 AES_CM_128_HMAC_SHA1_80x inline:abc".toList] ≠
    firstWellFormed ["1 AES_CM_128_HMAC_SHA1_80x inline:abc".toList] := by
  decide +kernel

end SipCore.Sdes
