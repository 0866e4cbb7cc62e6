/-
`Sdp::getFilteredSdp`: the session handed to the media library keeps one media and, in
it, one payload type. Formats and attributes are the texts of the SDP, as pjmedia
stores them; what the filter neither reads nor writes is left out. How pjmedia prints
a session into a buffer, and when it has no room, is a parameter.
-/

import SipCore.Library.InPlaceFilter

namespace SipCore.FilteredSdp

structure Attribute where
  name : String
  value : String
deriving Repr, DecidableEq

structure Media where
  media : String
  port : Nat
  transport : String
  fmts : List String
  attrs : List Attribute
deriving Repr, DecidableEq

structure Session where
  attrs : List Attribute
  media : List Media
deriving Repr, DecidableEq

/-- `pj_strtoul`: the leading decimal digits, in an `unsigned long`. -/
def strtoul (text : String) : Nat :=
  (text.toList.takeWhile Char.isDigit).foldl
    (fun value digit => (value * 10 + (digit.toNat - 48)) % 18446744073709551616) 0

/-- What `pjmedia_sdp_attr_find` compares: the number cut down to an `unsigned`. -/
def payloadType (text : String) : Nat :=
  strtoul text % 4294967296

def attrFind (name fmt : String) (attr : Attribute) : Bool :=
  attr.name == name && payloadType attr.value == payloadType fmt

def removeAttrs (name fmt : String) (attrs : List Attribute) : Option (List Attribute) :=
  InPlace.eraseWhile (attrFind name fmt) (attrs.length + 1) attrs

/-- The two `while` loops run for a format that goes. The second one asks for `fmt`. -/
def removeFormat (attrs : List Attribute) (fmt : String) : Option (List Attribute) := do
  let attrs ← removeAttrs "rtpmap" fmt attrs
  removeAttrs "fmt" fmt attrs

def isKept (ptKeep : UInt32) (fmt : String) : Bool :=
  strtoul fmt == ptKeep.toNat

def filterMedia (ptKeep : UInt32) (media : Media) : Option Media := do
  let (attrs, fmts) ←
    InPlace.sweep (isKept ptKeep) removeFormat (media.fmts.length + 1) 0 media.attrs media.fmts
  return { media with fmts, attrs := attrs.filter (fun attr => attr.name != "crypto") }

def Media.deactivate (media : Media) : Media :=
  { media with port := 0, attrs := [] }

def deactivateOthers (mediaKeep : Nat) (medias : List Media) : List Media :=
  medias.mapIdx fun index media => if index ≠ mediaKeep then media.deactivate else media

def dropInactive (medias : List Media) : Option (List Media) := do
  let (_, medias) ←
    InPlace.sweep (fun media => media.port != 0) (fun (_ : Unit) _ => some ())
      (medias.length + 1) 0 () medias
  return medias

/-- What is returned: no text, the text that was printed, or the buffer with whatever
bytes are in it. -/
inductive Returned (Text : Type) where
  | empty
  | printed (text : Text)
  | rawBuffer
deriving Repr, DecidableEq

def bufSz : Nat := 4096

section Print

variable {Text : Type} (print : Session → Nat → Option Text)

/-- `none` is the -1 of a print that has failed. Nobody looks at it: as a `size_t` it is
cut down to the size of the buffer. -/
def printed (session : Session) : Returned Text :=
  match print session bufSz with
  | some text => .printed text
  | none => .rawBuffer

def getFilteredSdp (session : Session) (mediaKeep : Nat) (ptKeep : UInt32) :
    Option (Returned Text) :=
  if mediaKeep < session.media.length then do
    let active ← dropInactive (deactivateOthers mediaKeep session.media)
    let medias ← active.mapM (filterMedia ptKeep)
    return printed print { session with media := medias }
  else
    some .empty

end Print

def dropsFormat (attr : Attribute) (fmt : String) : Bool :=
  attrFind "rtpmap" fmt attr || attrFind "fmt" fmt attr

private theorem removeFormat_eq (attrs : List Attribute) (fmt : String) :
    removeFormat attrs fmt = some (attrs.filter fun attr => !dropsFormat attr fmt) := by
  unfold removeFormat removeAttrs
  rw [InPlace.eraseWhile_eq _ _ _ (Nat.lt_succ_self _), Option.bind_eq_bind, Option.bind_some,
    InPlace.eraseWhile_eq _ _ _ (Nat.lt_succ_self _), List.filter_filter]
  congr 2
  funext attr
  rw [← Bool.not_or, Bool.or_comm]
  rfl

theorem foldl_removeFormat (fmts : List String) (attrs : List Attribute) :
    fmts.foldl (fun attrs fmt => attrs.filter fun attr => !dropsFormat attr fmt) attrs =
      attrs.filter fun attr => !fmts.any (dropsFormat attr) := by
  induction fmts generalizing attrs with
  | nil => simp
  | cons fmt fmts ih =>
    rw [List.foldl_cons, ih, List.filter_filter]
    congr 1
    funext attr
    rw [List.any_cons, Bool.not_or, Bool.and_comm]

def otherFmts (ptKeep : UInt32) (media : Media) : List String :=
  media.fmts.filter fun fmt => !isKept ptKeep fmt

def staysIn (ptKeep : UInt32) (media : Media) (attr : Attribute) : Bool :=
  attr.name != "crypto" && !(otherFmts ptKeep media).any (dropsFormat attr)

variable (ptKeep : UInt32)

variable (media : Media)

theorem filterMedia_eq :
    filterMedia ptKeep media = some
      { media with
        fmts := media.fmts.filter (isKept ptKeep)
        attrs := media.attrs.filter (staysIn ptKeep media) } := by
  unfold filterMedia
  rw [InPlace.sweep_eq _ removeFormat_eq _ _ _ _ (by omega), foldl_removeFormat,
    Option.bind_eq_bind, Option.bind_some]
  dsimp only
  rw [List.filter_filter]
  rfl

theorem dropInactive_eq (medias : List Media) :
    dropInactive medias = some (medias.filter fun media => media.port != 0) := by
  have ends : ∀ (state : Unit) (media : Media), (fun _ _ => some ()) state media = some () :=
    fun _ _ => rfl
  unfold dropInactive
  rw [InPlace.sweep_eq _ ends _ _ _ _ (by omega), List.take_zero]
  rfl

theorem filter_deactivateOthers {mediaKeep : Nat} {medias : List Media} {media : Media}
    (chosen : medias[mediaKeep]? = some media) (active : media.port ≠ 0) :
    (deactivateOthers mediaKeep medias).filter (fun media => media.port != 0) = [media] := by
  induction medias generalizing mediaKeep with
  | nil => simp at chosen
  | cons first rest ih =>
    cases mediaKeep with
    | zero =>
      have same : first = media := by simpa using chosen
      have others : ∀ kept ∈ rest.mapIdx (fun index media =>
          if index + 1 ≠ 0 then media.deactivate else media), ¬ (kept.port != 0) = true := by
        intro kept member
        rcases List.mem_mapIdx.mp member with ⟨index, inside, rfl⟩
        simp [Media.deactivate]
      unfold deactivateOthers
      rw [List.mapIdx_cons, if_neg (by simp), List.filter_cons_of_pos (by simp [same, active]),
        List.filter_eq_nil_iff.mpr others, same]
    | succ mediaKeep =>
      have later : rest[mediaKeep]? = some media := by simpa using chosen
      have shifted : deactivateOthers (mediaKeep + 1) (first :: rest) =
          first.deactivate :: deactivateOthers mediaKeep rest := by
        unfold deactivateOthers
        simp
      rw [shifted, List.filter_cons_of_neg (by simp [Media.deactivate]), ih later]

section Result

variable {Text : Type} (print : Session → Nat → Option Text)

def filtered (session : Session) (media : Media) : Session :=
  { session with
    media :=
      [{ media with
          fmts := media.fmts.filter (isKept ptKeep)
          attrs := media.attrs.filter (staysIn ptKeep media) }] }

private theorem getFilteredSdp_eq {session : Session} {mediaKeep : Nat} {media : Media}
    (chosen : session.media[mediaKeep]? = some media) (active : media.port ≠ 0) :
    getFilteredSdp print session mediaKeep ptKeep =
      some (printed print (filtered ptKeep session media)) := by
  have inside : mediaKeep < session.media.length := (List.getElem?_eq_some_iff.mp chosen).1
  unfold getFilteredSdp
  rw [if_pos inside, dropInactive_eq, filter_deactivateOthers chosen active]
  simp [filterMedia_eq, filtered]

/-- The loops end on every session, whatever is to be kept. -/
theorem getFilteredSdp_terminates (session : Session) (mediaKeep : Nat) (ptKeep : UInt32) :
    getFilteredSdp print session mediaKeep ptKeep ≠ none := by
  have every : ∀ medias : List Media, medias.mapM (filterMedia ptKeep) ≠ none := by
    intro medias
    induction medias with
    | nil => simp
    | cons media medias ih =>
      rcases Option.ne_none_iff_exists'.mp ih with ⟨filtered, result⟩
      simp [List.mapM_cons, filterMedia_eq, result]
  unfold getFilteredSdp
  by_cases inside : mediaKeep < session.media.length
  · rw [if_pos inside, dropInactive_eq, Option.bind_eq_bind, Option.bind_some]
    rcases Option.ne_none_iff_exists'.mp (every _) with ⟨filtered, result⟩
    rw [result]
    simp
  · rw [if_neg inside]
    simp

end Result

def describesPayload (attr : Attribute) : Bool :=
  attr.name == "rtpmap" || attr.name == "fmtp"

def isAboutOther (ptKeep : UInt32) (attr : Attribute) : Bool :=
  describesPayload attr && payloadType attr.value != ptKeep.toNat

def withoutOthers (session : Session) (media : Media) (fmts : List String) : Session :=
  { session with
    media :=
      [{ media with
          fmts := fmts
          attrs := media.attrs.filter fun attr => !isAboutOther ptKeep attr }] }

/-- A text was printed, and it is the text of that session with one format. -/
def FilteredTo {Text : Type} (parse : Text → Option Session) (result : Option (Returned Text))
    (session : Session) (media : Media) (ptKeep : UInt32) : Prop :=
  ∃ fmt text, isKept ptKeep fmt = true ∧ result = some (.printed text) ∧
    parse text = some (withoutOthers ptKeep session media [fmt])

/-- The format to keep is listed once, no attribute is a `crypto` one, every `fmtp` is
of the payload type to keep, and the `rtpmap` attributes of other payload types are
those of the other listed formats (which own no attribute that is named `fmt`). -/
structure Separable (ptKeep : UInt32) (media : Media) : Prop where
  once : (media.fmts.filter (isKept ptKeep)).length = 1
  crypto : ∀ attr ∈ media.attrs, attr.name ≠ "crypto"
  fmtp : ∀ attr ∈ media.attrs, attr.name = "fmtp" → payloadType attr.value = ptKeep.toNat
  rtpmap : ∀ attr ∈ media.attrs, attr.name = "rtpmap" →
    (payloadType attr.value ≠ ptKeep.toNat ↔
      payloadType attr.value ∈ (otherFmts ptKeep media).map payloadType)
  fmt : ∀ attr ∈ media.attrs, attr.name = "fmt" →
    payloadType attr.value ∉ (otherFmts ptKeep media).map payloadType

private theorem any_dropsFormat_iff (fmts : List String) (attr : Attribute) :
    fmts.any (dropsFormat attr) = true ↔
      (attr.name = "rtpmap" ∨ attr.name = "fmt") ∧
        payloadType attr.value ∈ fmts.map payloadType := by
  rw [List.any_eq_true, List.mem_map]
  constructor
  · intro ⟨fmt, listed, dropped⟩
    simp only [dropsFormat, attrFind, Bool.or_eq_true, Bool.and_eq_true, beq_iff_eq] at dropped
    rcases dropped with ⟨name, same⟩ | ⟨name, same⟩
    · exact ⟨.inl name, fmt, listed, same.symm⟩
    · exact ⟨.inr name, fmt, listed, same.symm⟩
  · intro ⟨name, fmt, listed, same⟩
    refine ⟨fmt, listed, ?_⟩
    simpa [dropsFormat, attrFind, same] using name

private theorem isAboutOther_iff (attr : Attribute) :
    isAboutOther ptKeep attr = true ↔
      (attr.name = "rtpmap" ∨ attr.name = "fmtp") ∧ payloadType attr.value ≠ ptKeep.toNat := by
  simp [isAboutOther, describesPayload]

theorem staysIn_eq_iff (attr : Attribute) :
    staysIn ptKeep media attr = !isAboutOther ptKeep attr ↔
      attr.name ≠ "crypto" ∧
      (attr.name = "fmtp" → payloadType attr.value = ptKeep.toNat) ∧
      (attr.name = "rtpmap" → (payloadType attr.value ≠ ptKeep.toNat ↔
        payloadType attr.value ∈ (otherFmts ptKeep media).map payloadType)) ∧
      (attr.name = "fmt" →
        payloadType attr.value ∉ (otherFmts ptKeep media).map payloadType) := by
  have stays : staysIn ptKeep media attr = true ↔ attr.name ≠ "crypto" ∧
      ¬((attr.name = "rtpmap" ∨ attr.name = "fmt") ∧
        payloadType attr.value ∈ (otherFmts ptKeep media).map payloadType) := by
    rw [← any_dropsFormat_iff]
    simp [staysIn]
  have about := isAboutOther_iff ptKeep attr
  rw [Bool.eq_iff_iff, stays, Bool.not_eq_true', Bool.eq_false_iff, ne_eq
    (isAboutOther ptKeep attr), about]
  by_cases crypto : attr.name = "crypto"
  · simp [crypto]
  by_cases fmtp : attr.name = "fmtp"
  · simp [fmtp]
  by_cases rtpmap : attr.name = "rtpmap"
  · grind
  by_cases fmt : attr.name = "fmt"
  · simp [fmt]
  simp [crypto, fmtp, rtpmap, fmt]

theorem separable_iff :
    Separable ptKeep media ↔
      (media.fmts.filter (isKept ptKeep)).length = 1 ∧
      ∀ attr ∈ media.attrs, staysIn ptKeep media attr = !isAboutOther ptKeep attr := by
  constructor
  · intro separable
    refine ⟨separable.once, fun attr member => (staysIn_eq_iff ptKeep media attr).mpr ?_⟩
    exact ⟨separable.crypto attr member, separable.fmtp attr member,
      separable.rtpmap attr member, separable.fmt attr member⟩
  · intro ⟨once, agrees⟩
    have named := fun attr member => (staysIn_eq_iff ptKeep media attr).mp (agrees attr member)
    exact {
      once := once
      crypto := fun attr member => (named attr member).1
      fmtp := fun attr member => (named attr member).2.1
      rtpmap := fun attr member => (named attr member).2.2.1
      fmt := fun attr member => (named attr member).2.2.2 }

theorem filtered_eq_iff (session : Session) (media : Media) (fmts : List String) :
    filtered ptKeep session media = withoutOthers ptKeep session media fmts ↔
      media.fmts.filter (isKept ptKeep) = fmts ∧
      ∀ attr ∈ media.attrs, staysIn ptKeep media attr = !isAboutOther ptKeep attr := by
  rw [← InPlace.filter_eq_filter_iff]
  unfold filtered withoutOthers
  simp only [Session.mk.injEq, List.cons.injEq, Media.mk.injEq, true_and, and_true]

/-- The text that is returned is the one that is wanted, exactly if the media is separable
and what is wanted can be printed into the buffer. -/
theorem getFilteredSdp_exact_iff {Text : Type} (print : Session → Nat → Option Text)
    (parse : Text → Option Session) (session : Session) (mediaKeep : Nat) (ptKeep : UInt32)
    (media : Media) (chosen : session.media[mediaKeep]? = some media) (active : media.port ≠ 0)
    (readBack : ∀ text, print (filtered ptKeep session media) bufSz = some text →
      parse text = some (filtered ptKeep session media)) :
    FilteredTo parse (getFilteredSdp print session mediaKeep ptKeep) session media ptKeep ↔
      Separable ptKeep media ∧
        (print (withoutOthers ptKeep session media (media.fmts.filter (isKept ptKeep)))
          bufSz).isSome := by
  rw [separable_iff, getFilteredSdp_eq ptKeep print chosen active]
  unfold printed
  constructor
  · intro ⟨fmt, text, _, result, parsed⟩
    cases room : print (filtered ptKeep session media) bufSz with
    | none =>
      rw [room] at result
      cases result
    | some whole =>
      rw [room] at result
      injection result with result
      injection result with result
      subst text
      rw [readBack whole room] at parsed
      have same := (filtered_eq_iff ptKeep session media [fmt]).mp (Option.some.inj parsed)
      rw [same.1, ← Option.some.inj parsed, room]
      exact ⟨⟨rfl, same.2⟩, rfl⟩
  · intro ⟨⟨once, agrees⟩, fits⟩
    rcases List.length_eq_one_iff.mp once with ⟨fmt, only⟩
    have member : fmt ∈ media.fmts.filter (isKept ptKeep) := by
      rw [only]
      exact List.mem_singleton_self fmt
    have same := (filtered_eq_iff ptKeep session media [fmt]).mpr ⟨only, agrees⟩
    rw [only, ← same] at fits
    rcases Option.isSome_iff_exists.mp fits with ⟨text, room⟩
    rw [room]
    exact ⟨fmt, text, (List.mem_filter.mp member).2, rfl, by rw [readBack text room, same]⟩

def twoCodecs : Media where
  media := "video"
  port := 5000
  transport := "RTP/AVP"
  fmts := ["96", "97"]
  attrs := [⟨"rtpmap", "96 H264/90000"⟩, ⟨"fmtp", "96 profile-level-id=42801F"⟩,
    ⟨"rtpmap", "97 VP8/90000"⟩, ⟨"sendrecv", ""⟩]

/-- A printer that gives up when the attributes alone need more than there is. -/
def printAttrs (session : Session) (size : Nat) : Option Session :=
  let needed := (session.media.flatMap Media.attrs).foldl
    (fun sofar attr => sofar + attr.name.length + attr.value.length) 0
  if needed ≤ size then some session else none

theorem getFilteredSdp_exact_twoCodecs :
    FilteredTo some (getFilteredSdp printAttrs ⟨[], [twoCodecs]⟩ 0 96) ⟨[], [twoCodecs]⟩
      twoCodecs 96 :=
  (getFilteredSdp_exact_iff printAttrs some ⟨[], [twoCodecs]⟩ 0 96 twoCodecs rfl (by decide)
    (by decide)).mpr ⟨⟨by decide, by decide, by decide, by decide, by decide⟩, by decide⟩

def twoParameters : Media :=
  { twoCodecs with attrs := ⟨"fmtp", "97 max-fr=30"⟩ :: twoCodecs.attrs }

/-- When 96 is kept, the parameters of 97 stay. -/
theorem getFilteredSdp_leaves_fmtp :
    isKept 96 "96" = true ∧ "96" ∈ twoParameters.fmts ∧ twoParameters.port ≠ 0 ∧
    getFilteredSdp printAttrs ⟨[], [twoParameters]⟩ 0 96 =
      some (.printed ⟨[], [{ twoParameters with
        fmts := ["96"]
        attrs := [⟨"fmtp", "97 max-fr=30"⟩, ⟨"rtpmap", "96 H264/90000"⟩,
          ⟨"fmtp", "96 profile-level-id=42801F"⟩, ⟨"sendrecv", ""⟩] }]⟩) ∧
    ¬ FilteredTo some (getFilteredSdp printAttrs ⟨[], [twoParameters]⟩ 0 96)
      ⟨[], [twoParameters]⟩ twoParameters 96 := by
  have result : getFilteredSdp printAttrs ⟨[], [twoParameters]⟩ 0 96 =
      some (.printed (filtered 96 ⟨[], [twoParameters]⟩ twoParameters)) := by decide
  refine ⟨by decide, by decide, by decide, by decide, ?_⟩
  intro ⟨fmt, text, _, returned, parsed⟩
  rw [result] at returned
  injection returned with returned
  injection returned with returned
  subst text
  have same := (filtered_eq_iff 96 _ _ [fmt]).mp (Option.some.inj parsed)
  exact absurd same.2 (by decide)

end SipCore.FilteredSdp
