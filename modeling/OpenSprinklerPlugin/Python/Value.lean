import Mathlib.Data.Int.Bitwise
import Mathlib.Data.Nat.Bitwise
import Mathlib.Data.List.Infix

/-!
# Python values as the plugin sees them

The plugin works on what `json.loads` built from the device's reply, so every
value it reads is a JSON value as Python holds it: `None`, a `bool`, an `int`, a
`str`, a `list` or a `dict`. This file gives those values, the exceptions the
plugin's code raises on them, and the Python operations the plugin applies to
them: truthiness, `in`, subscripting, iteration, arithmetic comparison and `&`
with an `int` mask.

Every number the plugin reads is an integer field of the OpenSprinkler API, so
numbers are `Int`; floats are not modelled. A `dict` is an association list
looked up first-match, which is how a Python `dict` (whose keys are distinct)
reads.

## Main definitions

* `JVal` — a JSON value, with a decidable equality written by nested recursion
* `PyErr` — the exceptions the modelled code raises, with `OSException` the
  module's own `OS_Exception` subclasses
* `JVal.getKey`, `JVal.getIndex`, `JVal.contains`, `JVal.iter` — `x[k]`, `x[i]`,
  `k in x` and `for v in x`
* `pyAnd` — `x & m` for an `int` mask `m`
* `packBits` — the word the device packs a row of flags into

## Main results

* `land_two_pow` — `x & 2 ** i` is `2 ** i` or `0` according to bit `i` of `x`,
  in two's complement for negative `x` as in Python
* `contains_of_getKey` — a key that can be read is a key `in` the value
-/

namespace OpenSprinklerPlugin

/-- A JSON value as Python holds it after `json.loads`. -/
inductive JVal where
  | null
  | bool (b : Bool)
  | num (n : Int)
  | str (s : String)
  | arr (xs : List JVal)
  | obj (kvs : List (String × JVal))
  deriving Repr, Inhabited

namespace JVal

mutual
/-- Equality of JSON values, decided by structural recursion through the lists
they contain. -/
def decEq : (a b : JVal) → Decidable (a = b)
  | .null, .null => isTrue rfl
  | .bool a, .bool b => if h : a = b then isTrue (h ▸ rfl) else isFalse fun e => h (bool.inj e)
  | .num a, .num b => if h : a = b then isTrue (h ▸ rfl) else isFalse fun e => h (num.inj e)
  | .str a, .str b => if h : a = b then isTrue (h ▸ rfl) else isFalse fun e => h (str.inj e)
  | .arr a, .arr b =>
    match decEqList a b with
    | isTrue h => isTrue (h ▸ rfl)
    | isFalse h => isFalse fun e => h (arr.inj e)
  | .obj a, .obj b =>
    match decEqObj a b with
    | isTrue h => isTrue (h ▸ rfl)
    | isFalse h => isFalse fun e => h (obj.inj e)
  | .null, .bool _ | .null, .num _ | .null, .str _ | .null, .arr _ | .null, .obj _
  | .bool _, .null | .bool _, .num _ | .bool _, .str _ | .bool _, .arr _ | .bool _, .obj _
  | .num _, .null | .num _, .bool _ | .num _, .str _ | .num _, .arr _ | .num _, .obj _
  | .str _, .null | .str _, .bool _ | .str _, .num _ | .str _, .arr _ | .str _, .obj _
  | .arr _, .null | .arr _, .bool _ | .arr _, .num _ | .arr _, .str _ | .arr _, .obj _
  | .obj _, .null | .obj _, .bool _ | .obj _, .num _ | .obj _, .str _ | .obj _, .arr _ =>
    isFalse nofun

/-- Equality of the items of two `list`s. -/
def decEqList : (a b : List JVal) → Decidable (a = b)
  | [], [] => isTrue rfl
  | [], _ :: _ | _ :: _, [] => isFalse nofun
  | x :: xs, y :: ys =>
    match decEq x y, decEqList xs ys with
    | isTrue h, isTrue t => isTrue (h ▸ t ▸ rfl)
    | isFalse h, _ => isFalse fun e => h (List.cons.inj e).1
    | _, isFalse t => isFalse fun e => t (List.cons.inj e).2

/-- Equality of the entries of two `dict`s, in order. -/
def decEqObj : (a b : List (String × JVal)) → Decidable (a = b)
  | [], [] => isTrue rfl
  | [], _ :: _ | _ :: _, [] => isFalse nofun
  | (k, x) :: xs, (l, y) :: ys =>
    if hk : k = l then
      match decEq x y, decEqObj xs ys with
      | isTrue h, isTrue t => isTrue (hk ▸ h ▸ t ▸ rfl)
      | isFalse h, _ => isFalse fun e => h (Prod.mk.inj (List.cons.inj e).1).2
      | _, isFalse t => isFalse fun e => t (List.cons.inj e).2
    else isFalse fun e => hk (Prod.mk.inj (List.cons.inj e).1).1
end

instance : DecidableEq JVal := decEq

end JVal

/-- The module's own exceptions, the subclasses of `OS_Exception`. -/
inductive OSException where
  | unknownPropertyError (propertyReferenced : String)
  | unauthorizedException
  | mismatchException
  | dataMissingException
  | valueOutOfRangeException
  | dataFormatException
  | rfCodeException
  | pageNotFoundException
  | notPermittedException
  deriving DecidableEq, Repr

/-- `str(err)`: the `__str__` of each `OS_Exception` subclass. -/
def OSException.str : OSException → String
  | .unknownPropertyError p => "UnknownPropertyError - " ++ p ++ " can not be found."
  | .unauthorizedException =>
    "Unauthorized User Error - The password is either missing or incorrect."
  | .mismatchException =>
    "Password Mismatch Error - The new password and confirmation password do not match."
  | .dataMissingException =>
    "Missing Required Parameters Error - Incorrect or missing parameters for the given command."
  | .valueOutOfRangeException =>
    "Value out of Range Error - The value for the given parameter is out of range."
  | .dataFormatException =>
    "Data Format Error - The provided data does not match the required format."
  | .rfCodeException =>
    "RF Code Error - The RF Code specified does not match the required format."
  | .pageNotFoundException =>
    "Page Not Found - The page was not found or the requested file was missing."
  | .notPermittedException =>
    "Operation Not Permitted - The operation can not be performed on the requested station."

/-- The exceptions the modelled code raises. A `NameError` carries the unbound
name, an `AttributeError` the missing attribute. `InvalidURL` and
`UnicodeEncodeError` are raised by `http.client` for a request path it refuses,
`UnicodeDecodeError` by `bytes.decode('utf-8')`. -/
inductive PyErr where
  | typeError
  | keyError
  | indexError
  | nameError (name : String)
  | attributeError (name : String)
  | jsonDecodeError
  | invalidURL
  | unicodeEncodeError
  | unicodeDecodeError
  | os (e : OSException)
  deriving DecidableEq, Repr

namespace JVal

/-- Python truthiness: `None`, `False`, `0`, `''`, `[]` and `{}` are false. -/
def truthy : JVal → Bool
  | .null => false
  | .bool b => b
  | .num n => n != 0
  | .str s => !s.isEmpty
  | .arr xs => !xs.isEmpty
  | .obj kvs => !kvs.isEmpty

/-- Whether a value is a `dict`. -/
def isObj : JVal → Bool
  | .obj _ => true
  | _ => false

/-- `x == s` for a `str` `s`: only a `str` with the same text is equal to it. -/
def eqStr : JVal → String → Bool
  | .str s, k => s == k
  | _, _ => false

/-- The `int` a value stands for in arithmetic: an `int`, or a `bool` as `0`
or `1`. -/
def asInt : JVal → Option Int
  | .num n => some n
  | .bool b => some (if b then 1 else 0)
  | _ => none

/-- A value used in arithmetic or compared with an `int`; anything that is not a
number raises `TypeError`. -/
def toInt (x : JVal) : Except PyErr Int :=
  match x.asInt with
  | some n => .ok n
  | none => .error .typeError

/-- `x[k]` for a `str` key: a `dict` lookup, `KeyError` when the key is absent;
any other value raises `TypeError`. -/
def getKey : JVal → String → Except PyErr JVal
  | .obj kvs, k =>
    match kvs.lookup k with
    | some v => .ok v
    | none => .error .keyError
  | _, _ => .error .typeError

/-- `x[i]` for an `int` index `i ≥ 0`: a `list` item or a one-character `str`,
`IndexError` past the end; a `dict` has only `str` keys, so it raises
`KeyError`. -/
def getIndex : JVal → Nat → Except PyErr JVal
  | .arr xs, i =>
    match xs[i]? with
    | some v => .ok v
    | none => .error .indexError
  | .str s, i =>
    match s.toList[i]? with
    | some c => .ok (.str (String.singleton c))
    | none => .error .indexError
  | .obj _, _ => .error .keyError
  | _, _ => .error .typeError

/-- `k in x` for a `str` `k`: key membership in a `dict`, item equality in a
`list`, substring in a `str`; anything else raises `TypeError`. -/
def contains : JVal → String → Except PyErr Bool
  | .obj kvs, k => .ok (kvs.lookup k).isSome
  | .arr xs, k => .ok (xs.any (·.eqStr k))
  | .str s, k => .ok (decide (k.toList <:+: s.toList))
  | _, _ => .error .typeError

/-- `for v in x`: the items of a `list`, the keys of a `dict`, the characters of
a `str`; anything else raises `TypeError`. -/
def iter : JVal → Except PyErr (List JVal)
  | .arr xs => .ok xs
  | .obj kvs => .ok (kvs.map fun kv => .str kv.1)
  | .str s => .ok (s.toList.map fun c => .str (String.singleton c))
  | _ => .error .typeError

/-- A `dict` read at a key it holds: what the intended resolution reads at a
path `s.a.b`. -/
def get? : JVal → String → Option JVal
  | .obj kvs, k => kvs.lookup k
  | _, _ => none

@[simp] theorem toInt_num (n : Int) : (num n).toInt = .ok n := rfl

@[simp] theorem getKey_obj (kvs : List (String × JVal)) (k : String) :
    (obj kvs).getKey k = match kvs.lookup k with | some v => .ok v | none => .error .keyError :=
  rfl

@[simp] theorem getIndex_arr (xs : List JVal) (i : Nat) :
    (arr xs).getIndex i = match xs[i]? with | some v => .ok v | none => .error .indexError :=
  rfl

/-- A key that can be read is a key `in` the value. -/
theorem contains_of_getKey {x v : JVal} {k : String} (h : x.getKey k = .ok v) :
    x.contains k = .ok true := by
  cases x with
  | obj kvs => cases hl : kvs.lookup k <;> simp_all [getKey, contains]
  | _ => simp [getKey] at h

/-- `if k in x:` with `x[k]` read in its body: `some x[k]` when `k in x`, `none`
when not. -/
def member (x : JVal) (k : String) : Except PyErr (Option JVal) := do
  if ← x.contains k then return some (← x.getKey k) else return none

@[simp] theorem member_obj (kvs : List (String × JVal)) (k : String) :
    (obj kvs).member k = .ok (kvs.lookup k) := by
  cases h : kvs.lookup k <;> simp [member, contains, h, bind, Except.bind, pure, Except.pure]

/-- What `member` finds is what `x[k]` reads, when it reads anything. -/
theorem getKey_toOption_of_member {x : JVal} {k : String} {o : Option JVal}
    (h : x.member k = .ok o) : (x.getKey k).toOption = o := by
  cases hc : x.contains k with
  | error e => simp [member, hc, bind, Except.bind] at h
  | ok b =>
    cases hg : x.getKey k with
    | error e => cases b <;> simp_all [member, bind, Except.bind, pure, Except.pure, Except.toOption]
    | ok v =>
      simp_all [contains_of_getKey hg, member, bind, Except.bind, pure, Except.pure, Except.toOption]

@[simp] theorem truthy_num (n : Int) : (num n).truthy = true ↔ n ≠ 0 := by
  simp [truthy]

end JVal

/-- `x & m` for an `int` mask `m`: the bitwise and in two's complement, as
Python computes it on `int`s (and on `bool`s as `0` and `1`). -/
def pyAnd (x : JVal) (m : Int) : Except PyErr Int := do
  let n ← x.toInt
  pure (Int.land n m)

@[simp] theorem pyAnd_num (n m : Int) : pyAnd (.num n) m = .ok (Int.land n m) := rfl

/-- `x & m` reads `x` only through its integer value. -/
theorem pyAnd_of_asInt {x : JVal} {n : Int} (h : x.asInt = some n) (m : Int) :
    pyAnd x m = .ok (Int.land n m) := by
  simp [pyAnd, JVal.toInt, h, bind, Except.bind, pure, Except.pure]

theorem pyAnd_of_asInt_eq_none {x : JVal} (h : x.asInt = none) (m : Int) :
    pyAnd x m = .error .typeError := by
  simp [pyAnd, JVal.toInt, h, bind, Except.bind]

private theorem nat_ldiff_two_pow (m i : Nat) :
    Nat.ldiff (2 ^ i) m = (!m.testBit i).toNat * 2 ^ i :=
  Nat.eq_of_testBit_eq fun j => by
    cases h : m.testBit i <;>
      by_cases hj : i = j <;> simp_all [Nat.testBit_ldiff, Nat.testBit_two_pow]

/-- Python's `x & 2 ** i` keeps bit `i` of `x` and clears the others; for a
negative `x` the bits are those of two's complement. -/
theorem land_two_pow (x : Int) (i : Nat) :
    Int.land x (2 ^ i) = if x.testBit i then 2 ^ i else 0 := by
  have hpow : (2 : Int) ^ i = ((2 ^ i : Nat) : Int) := by push_cast; rfl
  rw [hpow]
  cases x with
  | ofNat m =>
    show ((m &&& 2 ^ i : Nat) : Int) = _
    cases h : m.testBit i <;> simp [Nat.and_two_pow, h, Int.testBit]
  | negSucc m =>
    show ((Nat.ldiff (2 ^ i) m : Nat) : Int) = _
    cases h : m.testBit i <;> simp [nat_ldiff_two_pow, h, Int.testBit]

/-- The mask test `x & 2 ** i` is truthy exactly when bit `i` of `x` is set. -/
theorem land_two_pow_ne_zero_iff (x : Int) (i : Nat) :
    Int.land x (2 ^ i) ≠ 0 ↔ x.testBit i = true := by
  rw [land_two_pow]
  split <;> simp_all [show (2 : Int) ^ i ≠ 0 by exact_mod_cast (Nat.two_pow_pos i).ne']

@[simp] theorem land_two_pow_bne_zero (x : Int) (i : Nat) :
    (Int.land x (2 ^ i) != 0) = x.testBit i := by
  rw [Bool.eq_iff_iff]
  simpa using land_two_pow_ne_zero_iff x i

/-- A computation that may raise, followed by another, returns only when the
first returns and the second returns on its result. -/
theorem bind_eq_ok_iff {α β : Type} {x : Except PyErr α} {f : α → Except PyErr β} {b : β} :
    x >>= f = .ok b ↔ ∃ a, x = .ok a ∧ f a = .ok b := by
  cases x <;> simp [bind, Except.bind]

/-- A value in `[0, 2 ^ k)` has no bit `i ≥ k` set. -/
theorem testBit_eq_false_of_lt {x : Int} {k i : Nat} (h0 : 0 ≤ x) (hx : x < 2 ^ k)
    (hi : k ≤ i) : x.testBit i = false := by
  lift x to Nat using h0
  exact Nat.testBit_lt_two_pow
    (lt_of_lt_of_le (by exact_mod_cast hx) (Nat.pow_le_pow_right (Nat.succ_pos 1) hi))

/-- The word whose bits, from bit 0 up, are the given flags: how the device packs
a row of flags into one `int`. -/
def packBits (bs : List Bool) : Int := bs.foldr Int.bit 0

@[simp] theorem testBit_packBits (bs : List Bool) (i : Nat) :
    (packBits bs).testBit i = bs[i]?.getD false := by
  induction bs generalizing i with
  | nil => exact Nat.zero_testBit i
  | cons b bs ih =>
    cases i with
    | zero => simp [packBits, Int.testBit_bit_zero]
    | succ i => simp [packBits, Int.testBit_bit_succ, ← ih]

end OpenSprinklerPlugin
