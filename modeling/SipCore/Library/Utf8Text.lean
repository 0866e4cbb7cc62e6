/-
UTF-8 as a code on Unicode scalar values, which is what `Char` is: no surrogates,
nothing above U+10FFFF, and one code word for each character, so nothing overlong.
The NUL-free texts leave out the one character whose code word holds a zero byte.
-/

import SipCore.Library.PrefixCode

namespace SipCore.Utf8Text

open String (utf8EncodeChar)

def WellFormed (bytes : List UInt8) : Prop := ∃ text : List Char, bytes = text.flatMap utf8EncodeChar

theorem encode_isPrefix {bytes : List UInt8} {char : Char} :
    utf8EncodeChar char <+: bytes ↔ bytes.toByteArray.utf8DecodeChar? 0 = some char := by
  constructor
  · rintro ⟨rest, rfl⟩
    rw [List.toByteArray_append]
    exact ByteArray.utf8DecodeChar?_utf8EncodeChar_append
  · intro decoded
    rcases ByteArray.exists_of_utf8DecodeChar?_eq_some decoded with ⟨rest, split⟩
    refine ⟨rest.data.toList, List.toByteArray_inj.mp ?_⟩
    rw [List.toByteArray_append, split]
    congr 1
    apply ByteArray.ext
    rw [List.data_toByteArray]

def utf8 : PrefixCode Char UInt8 where
  encode := utf8EncodeChar
  encode_ne_nil := fun _ => String.utf8EncodeChar_ne_nil
  unique := by
    intro input first second begins other
    rw [encode_isPrefix] at begins other
    exact Option.some.inj (begins.symm.trans other)

theorem zero_ne_or {byte mark : UInt8} (marked : mark ≠ 0) : 0 ≠ byte ||| mark := by
  intro zero
  exact marked (UInt8.or_eq_zero_iff.mp zero.symm).2

theorem zero_mem_encode {char : Char} : 0 ∈ utf8EncodeChar char ↔ char = '\x00' := by
  constructor
  · intro present
    rcases char.utf8Size_eq with size | size | size | size
    · rw [String.utf8EncodeChar_eq_singleton size, List.mem_singleton] at present
      have small : char.val.toNat ≤ 127 :=
        UInt32.le_iff_toNat_le.mp (Char.utf8Size_eq_one_iff.mp size)
      have low : char.val.toNat % 256 = 0 := (congrArg UInt8.toNat present).symm
      apply Char.ext
      apply UInt32.toNat.inj
      change char.val.toNat = 0
      omega
    -- every byte of a longer code word has its leading bits set
    · rw [String.utf8EncodeChar_eq_cons_cons size] at present
      simp [zero_ne_or] at present
    · rw [String.utf8EncodeChar_eq_cons_cons_cons size] at present
      simp [zero_ne_or] at present
    · rw [String.utf8EncodeChar_eq_cons_cons_cons_cons size] at present
      simp [zero_ne_or] at present
  · intro nul
    subst char
    decide

def nulFree : PrefixCode { char : Char // char ≠ '\x00' } UInt8 where
  encode := fun char => utf8EncodeChar char.val
  encode_ne_nil := fun _ => String.utf8EncodeChar_ne_nil
  unique := by
    intro input first second begins other
    exact Subtype.ext (utf8.unique input first.val second.val begins other)

theorem nulFree_isText {bytes : List UInt8} :
    nulFree.IsText bytes ↔ WellFormed bytes ∧ 0 ∉ bytes := by
  constructor
  · rintro ⟨text, rfl⟩
    constructor
    · refine ⟨text.map Subtype.val, ?_⟩
      rw [List.flatMap_map]
      rfl
    · intro present
      rcases List.mem_flatMap.mp present with ⟨char, _, inside⟩
      exact char.property (zero_mem_encode.mp inside)
  · rintro ⟨⟨text, rfl⟩, absent⟩
    have plain : ∀ char ∈ text, char ≠ '\x00' := by
      intro char member nul
      exact absent (List.mem_flatMap.mpr ⟨char, member, zero_mem_encode.mpr nul⟩)
    exact ⟨text.pmap Subtype.mk plain, by simp [nulFree, List.flatMap_def, List.map_pmap]⟩

end SipCore.Utf8Text
