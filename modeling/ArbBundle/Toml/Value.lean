import ArbBundle.Decimal.Binary64

/-!
# Value — the data of a TOML document
-/

namespace ArbBundle

inductive Toml
  | text (s : String)
  | integer (n : Int)
  | real (x : Decimal.Binary64)
  | boolean (b : Bool)
  /-- A date, a time or both, in their canonical spelling. -/
  | moment (spelling : String)
  | array (elements : List Toml)
  | table (entries : List (String × Toml))

end ArbBundle
