/-
JS values as Node-API shows them to the addon: the type checks of `Napi::Value`, and the numeric
conversions `Int32Value`, `Uint32Value` and `Int64Value` of a JS number. A finite JS number is a
rational; a JS string is its UTF-8 text; an object is known by its kind and an identity, and what
it holds is known to the JS side only.
-/
import Mathlib.Data.Rat.Defs
import Mathlib.Algebra.Group.Int.Defs
import Mathlib.Algebra.Group.Nat.Defs
import Mathlib.Data.List.TakeWhile

namespace PulsarNode

/-- The kinds of object that the addon tells apart. -/
inductive ObjKind
  | plain | array | function | buffer | promise
  deriving DecidableEq, Repr

inductive JsNumber
  | nan | posInfinity | negInfinity
  | finite (q : ℚ)
  deriving DecidableEq

inductive JsValue
  | undefined | null
  | bool (b : Bool)
  | number (x : JsNumber)
  | string (s : String)
  | symbol (id : Nat)
  | bigint (n : Int)
  | object (kind : ObjKind) (id : Nat)
  deriving DecidableEq

namespace JsValue

def isUndefined (v : JsValue) : Bool := v == .undefined

def isNull (v : JsValue) : Bool := v == .null

def isString : JsValue → Bool
  | string _ => true
  | _ => false

def isNumber : JsValue → Bool
  | number _ => true
  | _ => false

def isBoolean : JsValue → Bool
  | bool _ => true
  | _ => false

/-- `IsObject` holds of functions too. -/
def isObject : JsValue → Bool
  | object _ _ => true
  | _ => false

def isKind (k : ObjKind) : JsValue → Bool
  | object k' _ => k' == k
  | _ => false

def isArray : JsValue → Bool := isKind .array

def isFunction : JsValue → Bool := isKind .function

def isBuffer : JsValue → Bool := isKind .buffer

end JsValue

namespace JsNumber

/-- The integer part, toward zero. -/
def trunc (q : ℚ) : Int := q.num.tdiv q.den

/-- `napi_get_value_int32`: modulo `2^32`, zero for the non-finite numbers. -/
def int32Value : JsNumber → Int
  | finite q => (trunc q).bmod (2 ^ 32)
  | _ => 0

/-- `napi_get_value_uint32`: modulo `2^32`, zero for the non-finite numbers. -/
def uint32Value : JsNumber → Int
  | finite q => trunc q % 2 ^ 32
  | _ => 0

/-- `napi_get_value_int64`: out-of-range numbers go to the nearest end, the non-finite ones to zero. -/
def int64Value : JsNumber → Int
  | finite q => max (-2 ^ 63) (min (trunc q) (2 ^ 63 - 1))
  | _ => 0

end JsNumber

/-- A 64-bit integer stored in a C++ `int`. -/
def toInt (n : Int) : Int := n.bmod (2 ^ 32)

/-- The text a C function reads from `s.c_str()`: up to the first NUL. -/
def cStr (s : String) : String := String.ofList (s.toList.takeWhile (· ≠ Char.ofNat 0))

/-- A C string is the whole text exactly when there is no NUL in it. -/
theorem cStr_eq_self {s : String} : cStr s = s ↔ Char.ofNat 0 ∉ s.toList := by
  have h : cStr s = s ↔ s.toList.takeWhile (· ≠ Char.ofNat 0) = s.toList := by
    unfold cStr
    rw [← String.toList_inj, String.toList_ofList]
  rw [h, List.takeWhile_eq_self_iff]
  constructor
  · intro hall hmem
    simpa using hall _ hmem
  · intro hnot c hc
    have hne : c ≠ Char.ofNat 0 := fun heq => hnot (heq ▸ hc)
    simpa using hne

end PulsarNode
