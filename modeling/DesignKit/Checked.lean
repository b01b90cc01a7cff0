import DesignKit.Value

/-! # Checked data

Reading a record from a value either succeeds or reports everything that is wrong with the value, each
problem with the place where it lies and with the value that was found there. Combining two readings keeps
the problems of both. -/

namespace DesignKit

/-- What is wrong with a part of a value. -/
inductive Mismatch where
  | missing
  | notText
  | notList
  | notObject
  /-- An object was needed that can become a record of a kind. -/
  | notRecord (kind : String)
  | emptyName
  | notNumber
  | unreadableNumber
deriving DecidableEq, Repr

/-- The code of a mismatch in reports. -/
def Mismatch.code : Mismatch → String
  | missing => "missing"
  | notText => "string_type"
  | notList => "list_type"
  | notObject => "dict_type"
  | notRecord _ => "model_type"
  | emptyName => "value_error"
  | notNumber => "float_type"
  | unreadableNumber => "float_parsing"

/-- A mismatch, the keys and indices that lead to it, and the value that it is about. -/
structure Problem where
  place : List String
  mismatch : Mismatch
  given : Value

/-- The text of a problem: the place, its steps separated by dots, and the code. -/
def Problem.print (p : Problem) : String :=
  ".".intercalate p.place ++ ":" ++ p.mismatch.code

/-- A record read from a value, or all problems of the value. -/
inductive Checked (α : Type) where
  | ok (a : α)
  | invalid (problems : List Problem)

namespace Checked

def map {α β : Type} (f : α → β) : Checked α → Checked β
  | ok a => ok (f a)
  | invalid ps => invalid ps

/-- Applies one reading to another and keeps the problems of both. -/
def seq {α β : Type} : Checked (α → β) → Checked α → Checked β
  | ok f, ok a => ok (f a)
  | ok _, invalid ps => invalid ps
  | invalid ps, ok _ => invalid ps
  | invalid ps, invalid qs => invalid (ps ++ qs)

instance : Functor Checked := ⟨map, fun a x => map (fun _ => a) x⟩

instance : Applicative Checked where
  pure := ok
  seq f x := f.seq (x ())

/-- A single problem with a value at the place itself. -/
def fail {α : Type} (m : Mismatch) (given : Value) : Checked α :=
  invalid [⟨[], m, given⟩]

/-- A reading of a part: its problems lie one step further in. -/
def within {α : Type} (step : String) : Checked α → Checked α
  | ok a => ok a
  | invalid ps => invalid (ps.map fun p => { p with place := step :: p.place })

/-- Readings of the items of a list, each one step further in at its index. -/
def items {α : Type} (read : Value → Checked α) (vs : List Value) : Checked (List α) :=
  go 0 vs
where
  go (index : Nat) : List Value → Checked (List α)
    | [] => ok []
    | v :: rest => List.cons <$> (read v).within (toString index) <*> go (index + 1) rest

/-- A text. -/
def text : Value → Checked String
  | .text s => ok s
  | v => fail .notText v

/-- A text or null. -/
def textOrNull : Value → Checked (Option String)
  | .null => ok none
  | v => some <$> text v

/-- A list, its items read one by one. -/
def list {α : Type} (read : Value → Checked α) : Value → Checked (List α)
  | .list vs => items read vs
  | v => fail .notList v

/-- An object. -/
def object : Value → Checked Members
  | .object m => ok m
  | v => fail .notObject v

/-- An object that is to become a record of a kind. -/
def record {α : Type} (kind : String) (read : Members → Checked α) : Value → Checked α
  | .object m => read m
  | v => fail (.notRecord kind) v

/-- A member that must be there. -/
def required {α : Type} (m : Members) (key : String) (read : Value → Checked α) : Checked α :=
  match m.get? key with
  | some v => (read v).within key
  | none => (fail .missing (.object m) : Checked α).within key

/-- A member that may be left out. -/
def optional {α : Type} (m : Members) (key : String) (default : α) (read : Value → Checked α) : Checked α :=
  match m.get? key with
  | some v => (read v).within key
  | none => ok default

end Checked
end DesignKit
