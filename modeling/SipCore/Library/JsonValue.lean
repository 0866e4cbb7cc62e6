/-
JSON values and the conversions of a library that throws: a value asked for a
member is an object or null, and a value converted to a number, a flag or a text
is one that has such a form. Each conversion comes with the values it accepts.

Members stand in the order in which they are visited. The text of a number with
a fraction is part of the value.
-/

import Mathlib.Data.Rat.Floor

namespace SipCore

inductive Double where
  | finite (value : Rat) (text : String)
  | infinite (negative : Bool) (text : String)

inductive JsonValue where
  | null
  | bool (value : Bool)
  | int (value : Int)
  | real (value : Double)
  | string (text : String)
  | array (items : List JsonValue)
  | object (members : List (String × JsonValue))

inductive JsonKind where
  | uInt
  | int
  | bool
  | string
deriving DecidableEq, Repr

variable (value : JsonValue)

inductive JsonError where
  | requiresObject
  | notConvertible (wanted : JsonKind)
  | outOfRange (wanted : JsonKind)
deriving DecidableEq, Repr

namespace JsonValue

def isObject : JsonValue → Bool
  | .object _ => true
  | _ => false

def member? : JsonValue → String → Option JsonValue
  | .object members, key => members.lookup key
  | _, _ => none

def isMember (value : JsonValue) (key : String) : Except JsonError Bool :=
  match value with
  | .object _ => .ok (value.member? key).isSome
  | .null => .ok false
  | _ => .error .requiresObject

/-- `operator[]` with a key: a missing member is null. -/
def index (value : JsonValue) (key : String) : Except JsonError JsonValue :=
  match value with
  | .object _ => .ok ((value.member? key).getD .null)
  | .null => .ok .null
  | _ => .error .requiresObject

def elements : JsonValue → List (String × JsonValue)
  | .array items => items.zipIdx.map (fun entry => (toString entry.2, entry.1))
  | .object members => members
  | _ => []

def maxUInt : Int := 4294967295
def minInt : Int := -2147483648
def maxInt : Int := 2147483647

def truncate (value : Rat) : Int :=
  if 0 ≤ value then value.floor else value.ceil

def asUInt : JsonValue → Except JsonError Int
  | .null => .ok 0
  | .bool value => .ok value.toNat
  | .int value => if 0 ≤ value ∧ value ≤ maxUInt then .ok value else .error (.outOfRange .uInt)
  | .real (.finite value _) =>
    if 0 ≤ value ∧ value ≤ maxUInt then .ok (truncate value) else .error (.outOfRange .uInt)
  | .real (.infinite _ _) => .error (.outOfRange .uInt)
  | _ => .error (.notConvertible .uInt)

def asInt : JsonValue → Except JsonError Int
  | .null => .ok 0
  | .bool value => .ok value.toNat
  | .int value => if minInt ≤ value ∧ value ≤ maxInt then .ok value else .error (.outOfRange .int)
  | .real (.finite value _) =>
    if minInt ≤ value ∧ value ≤ maxInt then .ok (truncate value) else .error (.outOfRange .int)
  | .real (.infinite _ _) => .error (.outOfRange .int)
  | _ => .error (.notConvertible .int)

def asBool : JsonValue → Except JsonError Bool
  | .null => .ok false
  | .bool value => .ok value
  | .int value => .ok (value ≠ 0)
  | .real (.finite value _) => .ok (value ≠ 0)
  | .real (.infinite _ _) => .ok true
  | _ => .error (.notConvertible .bool)

def asString : JsonValue → Except JsonError String
  | .null => .ok ""
  | .bool value => .ok (if value then "true" else "false")
  | .int value => .ok (toString value)
  | .real (.finite _ text) => .ok text
  | .real (.infinite _ text) => .ok text
  | .string text => .ok text
  | _ => .error (.notConvertible .string)

def FitsUInt : JsonValue → Prop
  | .null => True
  | .bool _ => True
  | .int value => 0 ≤ value ∧ value ≤ maxUInt
  | .real (.finite value _) => 0 ≤ value ∧ value ≤ maxUInt
  | _ => False

def FitsInt : JsonValue → Prop
  | .null => True
  | .bool _ => True
  | .int value => minInt ≤ value ∧ value ≤ maxInt
  | .real (.finite value _) => minInt ≤ value ∧ value ≤ maxInt
  | _ => False

def FitsBool : JsonValue → Prop
  | .null => True
  | .bool _ => True
  | .int _ => True
  | .real _ => True
  | _ => False

def FitsString : JsonValue → Prop
  | .array _ => False
  | .object _ => False
  | _ => True

private theorem exists_ok_ite {condition : Prop} [Decidable condition] {β : Type} {value : β}
    {error : JsonError} :
    (∃ result, (if condition then .ok value else .error error : Except JsonError β) = .ok result) ↔
      condition := by
  split
  · rename_i holds
    exact ⟨fun _ => holds, fun _ => ⟨value, rfl⟩⟩
  · rename_i fails
    exact ⟨nofun, fun holds => absurd holds fails⟩

theorem asUInt_ok_iff : (∃ number, value.asUInt = .ok number) ↔ value.FitsUInt := by
  cases value with
  | int number => exact exists_ok_ite
  | real number =>
    cases number with
    | finite number text => exact exists_ok_ite
    | infinite negative text => simp [asUInt, FitsUInt]
  | _ => simp [asUInt, FitsUInt]

theorem asInt_ok_iff : (∃ number, value.asInt = .ok number) ↔ value.FitsInt := by
  cases value with
  | int number => exact exists_ok_ite
  | real number =>
    cases number with
    | finite number text => exact exists_ok_ite
    | infinite negative text => simp [asInt, FitsInt]
  | _ => simp [asInt, FitsInt]

theorem asBool_ok_iff : (∃ flag, value.asBool = .ok flag) ↔ value.FitsBool := by
  cases value with
  | null => exact ⟨fun _ => trivial, fun _ => ⟨_, rfl⟩⟩
  | bool flag => exact ⟨fun _ => trivial, fun _ => ⟨_, rfl⟩⟩
  | int number => exact ⟨fun _ => trivial, fun _ => ⟨_, rfl⟩⟩
  | real number =>
    cases number with
    | finite number text => exact ⟨fun _ => trivial, fun _ => ⟨_, rfl⟩⟩
    | infinite negative text => exact ⟨fun _ => trivial, fun _ => ⟨_, rfl⟩⟩
  | _ => simp [asBool, FitsBool]

theorem asString_ok_iff : (∃ text, value.asString = .ok text) ↔ value.FitsString := by
  cases value with
  | real number => cases number <;> simp [asString, FitsString]
  | _ => simp [asString, FitsString]

theorem isMember_of_isObject {value : JsonValue} (object : value.isObject = true) (key : String) :
    value.isMember key = .ok (value.member? key).isSome := by
  cases value with
  | object members => rfl
  | _ => cases object

theorem index_of_isObject {value : JsonValue} (object : value.isObject = true) (key : String) :
    value.index key = .ok ((value.member? key).getD .null) := by
  cases value with
  | object members => rfl
  | _ => cases object

def memberOrNull (value : JsonValue) (key : String) : JsonValue := (value.member? key).getD .null

end JsonValue

end SipCore
