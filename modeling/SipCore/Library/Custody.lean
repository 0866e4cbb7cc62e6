/-
Who holds what was given out. A ledger records every issue and every return of a token;
what was issued and not returned is in custody, and each token is held once. A transfer
says what an operation does to the ledger and to the tokens it touches, whatever the
others hold.
-/

import SipCore.Library.AssocMap

namespace SipCore

structure Ledger (τ : Type) where
  issued : List τ := []
  returned : List τ := []
  refused : List τ := []
  deriving DecidableEq, Repr

namespace Ledger

variable {τ : Type} [DecidableEq τ]

def isOut (ledger : Ledger τ) (token : τ) : Bool :=
  ledger.returned.count token < ledger.issued.count token

def issue (ledger : Ledger τ) (token : τ) : Ledger τ :=
  { ledger with issued := ledger.issued ++ [token] }

def giveBack (ledger : Ledger τ) (token : τ) : Ledger τ :=
  if ledger.isOut token then { ledger with returned := ledger.returned ++ [token] }
  else { ledger with refused := ledger.refused ++ [token] }

/-- The tokens held are those that are out, each once, and nothing else was returned. -/
structure InCustody (ledger : Ledger τ) (held : List τ) : Prop where
  regular : ledger.refused = []
  single : ∀ token, held.count token ≤ 1
  balance : ∀ token,
    ledger.issued.count token = ledger.returned.count token + held.count token

variable {ledger : Ledger τ} {held : List τ} {token : τ}

theorem inCustody_empty : ({} : Ledger τ).InCustody [] where
  regular := rfl
  single := fun _ => Nat.zero_le 1
  balance := fun _ => rfl

theorem InCustody.mem_iff (custody : ledger.InCustody held) (token : τ) :
    token ∈ held ↔ ledger.isOut token = true := by
  have balance := custody.balance token
  rw [← List.count_pos_iff, isOut, decide_eq_true_eq]
  omega

theorem InCustody.perm {other : List τ} (custody : ledger.InCustody held)
    (reordered : held.Perm other) : ledger.InCustody other where
  regular := custody.regular
  single := by
    intro token
    rw [← reordered.count_eq]
    exact custody.single token
  balance := by
    intro token
    rw [← reordered.count_eq]
    exact custody.balance token

theorem InCustody.issue (custody : ledger.InCustody held) (fresh : ledger.isOut token = false) :
    (ledger.issue token).InCustody (token :: held) where
  regular := custody.regular
  single := by
    intro other
    have single := custody.single other
    have absent : token ∉ held := by
      rw [custody.mem_iff, fresh]
      nofun
    rw [List.count_cons]
    split
    · rename_i same
      have unheld := List.count_eq_zero.mpr absent
      rw [eq_of_beq same] at unheld
      omega
    · exact single
  balance := by
    intro other
    have balance := custody.balance other
    change (ledger.issued ++ [token]).count other = ledger.returned.count other + _
    rw [List.count_append, List.count_cons, List.count_cons, List.count_nil]
    omega

theorem InCustody.giveBack (custody : ledger.InCustody (token :: held)) :
    (ledger.giveBack token).InCustody held := by
  unfold Ledger.giveBack
  rw [if_pos ((custody.mem_iff token).mp List.mem_cons_self)]
  constructor
  · exact custody.regular
  · intro other
    have single := custody.single other
    rw [List.count_cons] at single
    omega
  · intro other
    have balance := custody.balance other
    change ledger.issued.count other = (ledger.returned ++ [token]).count other + _
    rw [List.count_cons] at balance
    rw [List.count_append, List.count_cons, List.count_nil]
    omega

/-- Whatever else is in custody stays there. -/
def Transfers (first last : Ledger τ) (before after : List τ) : Prop :=
  ∀ others, first.InCustody (before ++ others) → last.InCustody (after ++ others)

variable {first middle last : Ledger τ} {before between after others : List τ}

theorem Transfers.refl (ledger : Ledger τ) (held : List τ) : Transfers ledger ledger held held :=
  fun _ custody => custody

theorem Transfers.of_perm (reordered : before.Perm after) :
    Transfers ledger ledger before after :=
  fun others custody => custody.perm (reordered.append_right others)

theorem Transfers.trans (one : Transfers first middle before between)
    (two : Transfers middle last between after) : Transfers first last before after :=
  fun others custody => two others (one others custody)

theorem Transfers.append_right (moved : Transfers first last before after) (more : List τ) :
    Transfers first last (before ++ more) (after ++ more) := by
  intro others custody
  rw [List.append_assoc] at custody ⊢
  exact moved (more ++ others) custody

theorem Transfers.append_left (moved : Transfers first last before after) (more : List τ) :
    Transfers first last (more ++ before) (more ++ after) :=
  ((of_perm List.perm_append_comm).trans (moved.append_right more)).trans
    (of_perm List.perm_append_comm)

theorem transfers_issue (fresh : ledger.isOut token = false) :
    Transfers ledger (ledger.issue token) [] [token] :=
  fun _ custody => custody.issue fresh

theorem transfers_giveBack (ledger : Ledger τ) (token : τ) :
    Transfers ledger (ledger.giveBack token) [token] [] :=
  fun _ custody => custody.giveBack

end Ledger

namespace AssocMap

variable {κ ν τ : Type}

def holdings (holds : ν → List τ) (map : AssocMap κ ν) : List τ :=
  map.values.flatMap holds

theorem entries_nodup (map : AssocMap κ ν) : map.entries.Nodup :=
  map.distinct.of_map Prod.fst

variable [DecidableEq κ]

def heldAt (holds : ν → List τ) (map : AssocMap κ ν) (key : κ) : List τ :=
  (map.find? key).elim [] holds

variable {holds : ν → List τ} {map : AssocMap κ ν}

theorem holdings_congr {other : AssocMap κ ν} (same : ∀ key, map.find? key = other.find? key) :
    (map.holdings holds).Perm (other.holdings holds) := by
  refine .flatMap_right holds (.map Prod.snd ?_)
  rw [List.perm_ext_iff_of_nodup map.entries_nodup other.entries_nodup]
  intro entry
  rw [mem_entries_iff map entry.1 entry.2, mem_entries_iff other entry.1 entry.2, same]

theorem entries_split {key : κ} {value : ν} (found : map.find? key = some value) :
    map.entries.Perm ((key, value) :: (map.erase key).entries) := by
  have apart : (key, value) ∉ (map.erase key).entries := by
    rw [mem_entries_iff, find?_erase, if_pos rfl]
    nofun
  rw [List.perm_ext_iff_of_nodup map.entries_nodup
    (List.nodup_cons.mpr ⟨apart, (map.erase key).entries_nodup⟩)]
  intro entry
  rw [List.mem_cons, mem_entries_iff map entry.1 entry.2,
    mem_entries_iff (map.erase key) entry.1 entry.2, find?_erase]
  by_cases same : entry.1 = key
  · rw [same, found, Prod.ext_iff]
    simp [same, eq_comm]
  · rw [Prod.ext_iff]
    simp [same]

theorem holdings_split (map : AssocMap κ ν) (key : κ) :
    (map.holdings holds).Perm (map.heldAt holds key ++ (map.erase key).holdings holds) := by
  unfold heldAt
  cases found : map.find? key with
  | none =>
    apply holdings_congr
    intro other
    rw [find?_erase]
    split
    · rename_i same
      rw [same, found]
    · rfl
  | some value => exact ((entries_split found).map Prod.snd).flatMap_right holds

theorem heldAt_assign (map : AssocMap κ ν) (key : κ) (value : ν) :
    (map.assign key value).heldAt holds key = holds value := by
  rw [heldAt, find?_assign, if_pos rfl]
  rfl

theorem heldAt_assign_of_ne {key other : κ} (different : other ≠ key) (value : ν) :
    (map.assign key value).heldAt holds other = map.heldAt holds other := by
  rw [heldAt, find?_assign, if_neg different]
  rfl

theorem heldAt_erase_of_ne {key other : κ} (different : other ≠ key) :
    (map.erase key).heldAt holds other = map.heldAt holds other := by
  rw [heldAt, find?_erase, if_neg different]
  rfl

theorem mem_holdings {token : τ} :
    token ∈ map.holdings holds ↔ ∃ key, token ∈ map.heldAt holds key := by
  unfold holdings values heldAt
  rw [List.mem_flatMap]
  constructor
  · rintro ⟨value, member, held⟩
    obtain ⟨entry, listed, rfl⟩ := List.mem_map.mp member
    refine ⟨entry.1, ?_⟩
    rw [(map.mem_entries_iff entry.1 entry.2).mp listed]
    exact held
  · rintro ⟨key, held⟩
    cases found : map.find? key with
    | none =>
      rw [found] at held
      cases held
    | some value =>
      rw [found] at held
      exact ⟨value, List.mem_map_of_mem ((map.mem_entries_iff key value).mpr found), held⟩

theorem holdings_assign (map : AssocMap κ ν) (key : κ) (value : ν) :
    ((map.assign key value).holdings holds).Perm
      (holds value ++ (map.erase key).holdings holds) := by
  have others : (((map.assign key value).erase key).holdings holds).Perm
      ((map.erase key).holdings holds) := by
    apply holdings_congr
    intro other
    rw [find?_erase, find?_erase, find?_assign]
    split <;> rfl
  have own : (map.assign key value).heldAt holds key = holds value := heldAt_assign map key value
  rw [← own]
  exact (holdings_split _ key).trans (others.append_left _)

theorem holdings_split_two (map : AssocMap κ ν) {key other : κ} (different : other ≠ key) :
    (map.holdings holds).Perm ((map.heldAt holds key ++ map.heldAt holds other) ++
      ((map.erase key).erase other).holdings holds) := by
  rw [List.append_assoc, ← heldAt_erase_of_ne different]
  exact (holdings_split map key).trans ((holdings_split (map.erase key) other).append_left _)

theorem holdings_assign_two (map : AssocMap κ ν) {key other : κ} (different : other ≠ key)
    (value otherValue : ν) :
    (((map.assign key value).assign other otherValue).holdings holds).Perm
      ((holds value ++ holds otherValue) ++ ((map.erase key).erase other).holdings holds) := by
  have others : (((((map.assign key value).assign other otherValue).erase key).erase
      other).holdings holds).Perm (((map.erase key).erase other).holdings holds) := by
    apply holdings_congr
    intro third
    simp only [find?_erase, find?_assign]
    split
    · rfl
    · split <;> rfl
  have split : (((map.assign key value).assign other otherValue).holdings holds).Perm _ :=
    holdings_split_two _ different
  rw [heldAt_assign, heldAt_assign_of_ne (fun same => different same.symm), heldAt_assign] at split
  exact split.trans (others.append_left _)

end AssocMap

namespace Ledger

variable {κ ν τ : Type} [DecidableEq κ] [DecidableEq τ]
  {first last : Ledger τ} {holds : ν → List τ} {map : AssocMap κ ν}

theorem Transfers.assign {key : κ} {value : ν}
    (moved : Transfers first last (map.heldAt holds key) (holds value))
    (custody : first.InCustody (map.holdings holds)) :
    last.InCustody ((map.assign key value).holdings holds) :=
  (moved _ (custody.perm (map.holdings_split key))).perm (map.holdings_assign key value).symm

theorem Transfers.erase {key : κ} (moved : Transfers first last (map.heldAt holds key) [])
    (custody : first.InCustody (map.holdings holds)) :
    last.InCustody ((map.erase key).holdings holds) :=
  moved _ (custody.perm (map.holdings_split key))

theorem Transfers.assign_two {key other : κ} {value otherValue : ν} (different : other ≠ key)
    (moved : Transfers first last (map.heldAt holds key ++ map.heldAt holds other)
      (holds value ++ holds otherValue))
    (custody : first.InCustody (map.holdings holds)) :
    last.InCustody (((map.assign key value).assign other otherValue).holdings holds) :=
  (moved _ (custody.perm (map.holdings_split_two different))).perm
    (map.holdings_assign_two different value otherValue).symm

theorem InCustody.nodup {held : List τ} (custody : first.InCustody held) : held.Nodup :=
  List.nodup_iff_count_le_one.mpr custody.single

theorem InCustody.holder_unique (custody : first.InCustody (map.holdings holds)) {token : τ}
    {key other : κ} (left : token ∈ map.heldAt holds key)
    (right : token ∈ map.heldAt holds other) : key = other := by
  by_contra different
  have elsewhere : token ∈ (map.erase key).holdings holds := by
    rw [← AssocMap.heldAt_erase_of_ne (fun same => different same.symm)] at right
    rw [((map.erase key).holdings_split other).mem_iff]
    exact List.mem_append_left _ right
  have single := (custody.perm (map.holdings_split key)).single token
  rw [List.count_append] at single
  have one := List.count_pos_iff.mpr left
  have two := List.count_pos_iff.mpr elsewhere
  omega

end Ledger

end SipCore
