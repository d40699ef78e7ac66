import Mathlib.Data.List.Basic

/-! JSON values as `serde_json::Value` holds them, with its optional readers. -/

inductive JsonNumber where
  | posInt (value : UInt64)
  | negInt (value : Int64)
  | float (bits : UInt64)
deriving DecidableEq

inductive Json where
  | null
  | bool (value : Bool)
  | number (value : JsonNumber)
  | string (value : String)
  | array (items : List Json)
  | object (members : List (String × Json))

namespace Json

/-- `Value::get` with a text index: absent on anything but an object. -/
def get (key : String) : Json → Option Json
  | object members => members.lookup key
  | _ => none

def asStr : Json → Option String
  | string value => some value
  | _ => none

def asBool : Json → Option Bool
  | bool value => some value
  | _ => none

def asU64 : Json → Option UInt64
  | number (.posInt value) => some value
  | _ => none

/-- The member reached by one name after the other. -/
def getPath : List String → Json → Option Json
  | [], value => some value
  | key :: rest, value => (value.get key).bind (getPath rest)

theorem getPath_isSome {key : String} {rest : List String} {value : Json} :
    (getPath (key :: rest) value).isSome = true ↔
      ∃ member, value.get key = some member ∧ (getPath rest member).isSome = true := by
  rw [getPath]
  cases value.get key <;> simp

theorem asBool_getD_false {member : Option Json} :
    (member.bind asBool).getD false = true ↔ member = some (.bool true) := by
  cases member with
  | none => simp
  | some value => cases value <;> simp [asBool]

theorem asStr_getD {member : Option Json} {text fallback : String}
    (h : (member.bind asStr).getD fallback = text) (hne : text ≠ fallback) :
    member = some (.string text) := by
  cases member with
  | none => exact absurd h.symm hne
  | some value =>
      cases value with
      | string stored =>
          have hstored : stored = text := h
          rw [hstored]
      | _ => exact absurd h.symm hne

end Json
