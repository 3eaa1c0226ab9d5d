import Scriptorium.Double

/-! The values of TOML 1.0. Dates and times are told apart from everything else, but no use is
made of what they say, so they carry nothing. A table keeps its keys in the order in which they
came. Tables that were listed under headers of their own make an array of another kind than the
values between two brackets. -/

namespace Scriptorium.Toml

inductive Value where
  | str (text : String)
  | int (n : Int)
  | float (x : Double)
  | bool (b : Bool)
  | datetime
  | array (items : List Value)
  | tables (items : List (List (String × Value)))
  | table (entries : List (String × Value))
deriving Inhabited

/-- The parsed form of a document: the entries of its root. -/
abbrev Table := List (String × Value)

/-- The items of an array of either kind. -/
def Value.items? : Value → Option (List Value)
  | .array items => some items
  | .tables items => some (items.map .table)
  | _ => none

end Scriptorium.Toml
