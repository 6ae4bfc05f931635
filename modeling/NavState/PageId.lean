import NavState.Text.Quoted

namespace NavState

/-!
# Page identifiers

A host names its history entries by numbers or by texts.  The two never
coincide: the number one and the text `1` name different pages.
-/

/-- The identifier of a history entry. -/
inductive PageId where
  | number (value : Nat)
  | text (value : String)
  deriving Repr, DecidableEq

namespace PageId

/-- Numbers in decimal, texts in quotes. -/
def describe : PageId → String
  | number value => toString value
  | text value => Text.quote value

end PageId

end NavState
