/-! # Parts of texts

A text occurs in another when the other reads like it from some place on. -/

namespace DesignKit.Text

/-- A row of characters occurs in another. -/
def occursIn (part : List Char) : List Char → Bool
  | [] => part.isEmpty
  | c :: rest => part.isPrefixOf (c :: rest) || occursIn part rest

/-- A text holds another. -/
def holds (s part : String) : Bool :=
  occursIn part.toList s.toList

end DesignKit.Text
