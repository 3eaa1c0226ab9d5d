import Scriptorium.Code
import Scriptorium.Diagnostic
import Scriptorium.Source

/-! Code generators. A generator is handed a source and whether to compile it strictly. It says what
there is to say about the source and gives a bundle of code, unless it cannot make one. -/

namespace Scriptorium

structure Generated where
  diagnostics : List Diagnostic
  bundle : Option Bundle
deriving Inhabited

abbrev Generator := Source → Bool → Generated

end Scriptorium
