/-
JSON objects in the making: members are assigned one at a time and stand in the
order of their keys. `Storable` are the values a text format gives back as they
were: null, numbers of 64 bits, texts, and objects of such values; `Portable` are
those with flags and lists, and without null.
-/

import Mathlib.Data.String.Basic
import SipCore.Library.AssocMap
import SipCore.Library.JsonValue
import SipCore.Library.SortedMap

namespace SipCore

inductive JsonValue.Storable : JsonValue → Prop where
  | null : Storable .null
  | int {number : Int} (least : -2 ^ 63 ≤ number) (greatest : number < 2 ^ 64) :
      Storable (.int number)
  | string (text : String) : Storable (.string text)
  | object {members : List (String × JsonValue)}
      (sorted : members.Pairwise (fun left right => left.1 < right.1))
      (values : ∀ entry ∈ members, Storable entry.2) : Storable (.object members)

inductive JsonValue.Portable : JsonValue → Prop where
  | bool (flag : Bool) : Portable (.bool flag)
  | int {number : Int} (least : -2 ^ 63 ≤ number) (greatest : number < 2 ^ 64) :
      Portable (.int number)
  | string (text : String) : Portable (.string text)
  | array {items : List JsonValue} (values : ∀ item ∈ items, Portable item) :
      Portable (.array items)
  | object {members : List (String × JsonValue)}
      (sorted : members.Pairwise (fun left right => left.1 < right.1))
      (values : ∀ entry ∈ members, Portable entry.2) : Portable (.object members)

variable {object : JsonObject}

abbrev JsonObject := SortedMap String JsonValue

namespace JsonObject

def value (object : JsonObject) : JsonValue :=
  .object object.entries

theorem storable_value (values : ∀ entry ∈ object.entries, entry.2.Storable) :
    object.value.Storable :=
  .object object.sorted values

theorem member?_of_mem {key : String} {member : JsonValue}
    (assigned : (key, member) ∈ object.entries) : object.value.member? key = some member := by
  have found := AssocMap.mem_entries_iff ⟨object.entries, object.nodup_keys⟩ key member
  exact found.mp assigned

theorem index_of_mem {key : String} {member : JsonValue} (assigned : (key, member) ∈ object.entries) :
    object.value.index key = .ok member := by
  rw [JsonValue.index_of_isObject rfl, member?_of_mem assigned, Option.getD_some]

end JsonObject

end SipCore
