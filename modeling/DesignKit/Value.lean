import DesignKit.Number.Binary

/-! # Values

The values that documents, props and table rows are made of: those of JSON, with integers and doubles kept
apart and the members of an object in the order in which they were written. A key occurs once in an
object; writing it again replaces the value and keeps the place.

Truth, equality and the listing of items follow one rule each for all kinds of value. Equality compares
numbers by what they denote, `true` counting as one, and objects without regard to order. -/

namespace DesignKit
open Number

/-- A JSON value. -/
inductive Value where
  | null
  | bool (b : Bool)
  | int (n : Int)
  | float (x : Float)
  | text (s : String)
  | list (items : List Value)
  | object (members : List (String × Value))
deriving Inhabited, Repr

/-- The members of an object, in order. -/
abbrev Members := List (String × Value)

namespace Members

/-- The value of a key. -/
def get? (m : Members) (key : String) : Option Value :=
  m.lookup key

/-- A key is present. -/
def has (m : Members) (key : String) : Bool :=
  (m.get? key).isSome

/-- The value of a key, null when it is absent. -/
def get (m : Members) (key : String) : Value :=
  (m.get? key).getD .null

/-- The value of a key, or a default when it is absent. -/
def getD (m : Members) (key : String) (default : Value) : Value :=
  (m.get? key).getD default

/-- Gives a key a value: in its place when it is present, at the end otherwise. -/
def set : Members → String → Value → Members
  | [], key, v => [(key, v)]
  | (k, old) :: rest, key, v => if k == key then (k, v) :: rest else (k, old) :: set rest key v

/-- The members of `later` written onto those of `base`. -/
def update (base later : Members) : Members :=
  later.foldl (fun m (key, v) => m.set key v) base

/-- The object that results from writing entries one after the other. -/
def ofEntries (entries : List (String × Value)) : Members :=
  update [] entries

/-- The keys, in order. -/
def keys (m : Members) : List String :=
  m.map (·.1)

end Members

namespace Value

/-- Null, false, zero and everything empty are false; all other values are true. -/
def truthy : Value → Bool
  | null => false
  | bool b => b
  | int n => n != 0
  | float x => !(x == 0.0)
  | text s => s != ""
  | list items => !items.isEmpty
  | object members => !members.isEmpty

/-- The first of two values that is true, else the second. -/
def orElse (v w : Value) : Value :=
  if v.truthy then v else w

def isNull : Value → Bool
  | null => true
  | _ => false

/-- The members of an object. -/
def members? : Value → Option Members
  | object m => some m
  | _ => none

/-- The text of a text. -/
def text? : Value → Option String
  | text s => some s
  | _ => none

/-- The integer that a value counts as: that of an integer or of a truth value. -/
def int? : Value → Option Int
  | bool b => some (if b then 1 else 0)
  | int n => some n
  | _ => none

/-- Both values are numbers, truth values included, and denote the same one. -/
def sameNumber (v w : Value) : Bool :=
  match v, w with
  | float x, float y => x == y
  | float x, w => match w.int? with
    | some n => equalsInt x n
    | none => false
  | v, float y => match v.int? with
    | some n => equalsInt y n
    | none => false
  | v, w => match v.int?, w.int? with
    | some n, some m => n == m
    | _, _ => false

/-- Both values are the one NaN that documents can hold, which is equal to itself as an item. -/
def bothNaN : Value → Value → Bool
  | float x, float y => x.isNaN && y.isNaN
  | _, _ => false

mutual

/-- Equality of values: numbers by what they denote, objects without regard to order. -/
def same : Value → Value → Bool
  | null, null => true
  | text s, text t => s == t
  | list vs, list ws => sameItems vs ws
  | object m, object n => m.length == n.length && sameMembers m n
  | null, _ => false
  | text _, _ => false
  | list _, _ => false
  | object _, _ => false
  | v, w => sameNumber v w

/-- Equality of lists, item by item. -/
def sameItems : List Value → List Value → Bool
  | [], [] => true
  | v :: vs, w :: ws => (bothNaN v w || same v w) && sameItems vs ws
  | _, _ => false

/-- Every member on the left has an equal one under its key on the right. -/
def sameMembers : List (String × Value) → List (String × Value) → Bool
  | [], _ => true
  | (key, v) :: rest, other =>
    (match other.lookup key with
     | some w => bothNaN v w || same v w
     | none => false) && sameMembers rest other

end

/-- A value occurs among items. -/
def isAmong (v : Value) (items : List Value) : Bool :=
  items.any fun w => bothNaN v w || v.same w

/-- What a walk over a value meets: the items of a list, the keys of an object, the characters of a
text. Other values cannot be walked over. -/
def items? : Value → Option (List Value)
  | list items => some items
  | object members => some (members.map fun (key, _) => text key)
  | text s => some (s.toList.map fun c => text (String.singleton c))
  | _ => none

/-- May be the key of an object: neither a list nor an object. -/
def isKey : Value → Bool
  | list _ => false
  | object _ => false
  | _ => true

mutual

/-- How deeply lists and objects are nested in a value; zero for a value that is neither. -/
def depth : Value → Nat
  | list items => depthItems items + 1
  | object members => depthMembers members + 1
  | _ => 0

def depthItems : List Value → Nat
  | [] => 0
  | v :: rest => max (depth v) (depthItems rest)

def depthMembers : List (String × Value) → Nat
  | [] => 0
  | (_, v) :: rest => max (depth v) (depthMembers rest)

end

end Value
end DesignKit
