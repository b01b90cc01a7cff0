import DesignKit.Proofs.Token.Sections

/-! # What is null or switched off is absent

A null says no more than a missing member, and an entry that is switched off no more than a missing entry:
either may be taken out of a document, wherever the compilation looks members up or walks over entries, and the
document compiles to the same table or ends in the same fault. What stands within a value that is printed is not
looked at and stays. -/

namespace DesignKit

/-- A null is found where a key is missing. -/
theorem Members.get_without_null {before after : Members} {key : String} (hkey : key ∉ after.keys) (k : String) :
    Members.get (before ++ (key, .null) :: after) k = Members.get (before ++ after) k := by
  rw [get, get, get?_append, get?_append, get?_cons]
  cases before.get? k with
  | some v => rfl
  | none =>
    by_cases hk : k = key
    · rw [if_pos hk, hk, get?_eq_none hkey]
      rfl
    · rw [if_neg hk]

namespace Reading

/-- Something is taken out of a value. A key that is looked up stands once in its object. -/
inductive Deletion : Reading → Value → Value → Prop
  /-- A null member of a record, looked up or not. -/
  | recordNull {fields : List (String × Reading)} {before after : Members} {key : String} (hkey : key ∉ after.keys) :
    Deletion (.record fields) (.object (before ++ (key, .null) :: after)) (.object (before ++ after))
  /-- A null among entries that are looked up. -/
  | namedNull {r : Reading} {before after : Members} {key : String} (hkey : key ∉ after.keys) :
    Deletion (.named r) (.object (before ++ (key, .null) :: after)) (.object (before ++ after))
  /-- An entry that is walked over and is null or switched off. -/
  | idleEntry {r : Reading} {before after : Members} {key : String} {v : Value} (hidle : Idle r v) :
    Deletion (.ordered r) (.object (before ++ (key, v) :: after)) (.object (before ++ after))
  | idleItem {r : Reading} {before after : List Value} {v : Value} (hidle : Idle r v) :
    Deletion (.ordered r) (.list (before ++ v :: after)) (.list (before ++ after))
  /-- Something is taken out of a member that is looked up. -/
  | member {fields : List (String × Reading)} {before after : Members} {key : String} {r : Reading} {v w : Value}
    (hkey : fields.lookup key = some r) (h : Deletion r v w) :
    Deletion (.record fields) (.object (before ++ (key, v) :: after)) (.object (before ++ (key, w) :: after))
  | namedEntry {r : Reading} {before after : Members} {key : String} {v w : Value} (h : Deletion r v w) :
    Deletion (.named r) (.object (before ++ (key, v) :: after)) (.object (before ++ (key, w) :: after))
  | entry {r : Reading} {before after : Members} {key : String} {v w : Value} (h : Deletion r v w) :
    Deletion (.ordered r) (.object (before ++ (key, v) :: after)) (.object (before ++ (key, w) :: after))
  | item {r : Reading} {before after : List Value} {v w : Value} (h : Deletion r v w) :
    Deletion (.ordered r) (.list (before ++ v :: after)) (.list (before ++ w :: after))

theorem Same.skipEntry_within {r : Reading} {before after : Members} {key : String} {v : Value} (hidle : Idle r v) :
    Same (.ordered r) (.object (before ++ (key, v) :: after)) (.object (before ++ after)) := by
  induction before with
  | nil => exact .skipEntry hidle (.refl _ _)
  | cons e rest ih => exact .entry (.refl _ _) ih

theorem Same.skipItem_within {r : Reading} {before after : List Value} {v : Value} (hidle : Idle r v) :
    Same (.ordered r) (.list (before ++ v :: after)) (.list (before ++ after)) := by
  induction before with
  | nil => exact .skipItem hidle (.refl _ _)
  | cons e rest ih => exact .item (.refl _ _) ih

/-- A reading finds the same before and after. -/
theorem Deletion.same {r : Reading} {v w : Value} (h : Deletion r v w) : Same r v w := by
  induction h with
  | recordNull hkey => exact .record fun k r _ => .of_eq (Members.get_without_null hkey k)
  | namedNull hkey => exact .named fun k => .of_eq (Members.get_without_null hkey k)
  | idleEntry hidle => exact .skipEntry_within hidle
  | idleItem hidle => exact .skipItem_within hidle
  | member hkey _ ih =>
    refine .record fun k s hk => get?_changed ih fun heq => ?_
    rw [heq, hkey] at hk
    exact (Option.some.inj hk).symm
  | namedEntry _ ih => exact .named fun k => get?_changed ih fun _ => rfl
  | entry _ ih => exact ih.entry_within
  | item _ ih => exact ih.item_within

end Reading

namespace TokenDocument
open Reading

/-- A document from which nulls and entries that are switched off were taken out compiles like the document with
them. The entries that have a switch are the hues, the colors, the borders, the radii and the shadows. -/
theorem compile_without_absent (rounding : Color.Rounding) (schema : ScaleSchema) {doc doc' : Value}
    (h : Relation.EqvGen (Deletion documentReading) doc doc') :
    compile rounding schema doc = compile rounding schema doc' :=
  congrArg (Quot.lift (compile rounding schema) fun _ _ hstep => compile_congr schema hstep.same) (Quot.eqvGen_sound h)

/-- A document with hues, a palette and a border. -/
def sketch (hues colors thin : Members) : Members :=
  [("color", .object [("hues", .object hues), ("sections", .list [.object [("colors", .object colors)]])]),
    ("borders", .object [("sizes", .object [("thin", .object thin)])])]

/-- A hue that is switched off and could not be read if it were on. -/
def mutedHue : Members :=
  [("enabled", .bool false), ("value", .text "many")]

/-- Nulls where nothing is said, a hue and a color that are switched off. -/
def markedDocument : Value :=
  .object (("spacing", .null) :: sketch [("dark", .object mutedHue)]
    [("ink", .text "black"), ("sky", .object [("enabled", .bool false), ("color", .int 7)])]
    [("enabled", .null), ("value", .int 1)])

/-- The same without them. -/
def bareDocument : Value :=
  .object (sketch [] [("ink", .text "black")] [("value", .int 1)])

theorem compile_without_absent_marked :
    Relation.EqvGen (Deletion documentReading) markedDocument bareDocument ∧
      compile .oneByOne .standard markedDocument = compile .oneByOne .standard bareDocument ∧
      compile .oneByOne .standard bareDocument =
        .ok [⟨"--ink", Category.colors.name, "black"⟩, ⟨"--border-thin", Category.borders.name, "1px"⟩] := by
  have hspacing : ∀ m : Members, "spacing" ∉ Members.keys m →
      Deletion documentReading (.object (("spacing", .null) :: m)) (.object m) := fun m hkey =>
    @Deletion.recordNull _ [] m "spacing" hkey
  have hhue : ∀ colors thin : Members, Deletion documentReading
      (.object (sketch [("dark", .object mutedHue)] colors thin)) (.object (sketch [] colors thin)) := by
    intro colors thin
    refine @Deletion.member _ [] [_] "color" colorReading _ _ rfl (@Deletion.member _ [] [_] "hues" _ _ _ rfl ?_)
    exact @Deletion.idleEntry _ [] [] "dark" _ (.off rfl rfl)
  have hcolor : ∀ hues thin : Members, Deletion documentReading
      (.object (sketch hues [("ink", .text "black"), ("sky", .object [("enabled", .bool false), ("color", .int 7)])] thin))
      (.object (sketch hues [("ink", .text "black")] thin)) := by
    intro hues thin
    refine @Deletion.member _ [] [_] "color" colorReading _ _ rfl (@Deletion.member _ [_] [] "sections" _ _ _ rfl ?_)
    refine @Deletion.item _ [] [] _ _ (@Deletion.member _ [] [] "colors" _ _ _ rfl ?_)
    exact @Deletion.idleEntry _ [_] [] "sky" _ (.off rfl rfl)
  have hborder : ∀ hues colors : Members, Deletion documentReading
      (.object (sketch hues colors [("enabled", .null), ("value", .int 1)]))
      (.object (sketch hues colors [("value", .int 1)])) := by
    intro hues colors
    refine @Deletion.member _ [_] [] "borders" flatReading _ _ rfl (@Deletion.member _ [] [] "sizes" _ _ _ rfl ?_)
    exact @Deletion.entry _ [] [] "thin" _ _ (@Deletion.recordNull _ [] [_] "enabled" (by decide))
  have hsteps : Relation.EqvGen (Deletion documentReading) markedDocument bareDocument :=
    .trans _ _ _ (.rel _ _ (hspacing _ (by simp [sketch, Members.keys])))
      (.trans _ _ _ (.rel _ _ (hhue _ _)) (.trans _ _ _ (.rel _ _ (hcolor _ _)) (.rel _ _ (hborder _ _))))
  exact ⟨hsteps, compile_without_absent .oneByOne .standard hsteps, rfl⟩

end TokenDocument
end DesignKit
