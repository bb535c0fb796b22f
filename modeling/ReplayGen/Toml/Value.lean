import ReplayGen.Decimal.Binary64

set_option autoImplicit false

namespace ReplayGen.Toml

open Decimal

inductive Value where
  | string (value : String)
  | integer (value : Int)
  | float (value : Binary64)
  | boolean (value : Bool)
  | moment (spelling : String)
  | array (items : List Value)
  -- Entries in the order in which the document gives them.
  | table (entries : List (String × Value))
  deriving Repr

end ReplayGen.Toml
