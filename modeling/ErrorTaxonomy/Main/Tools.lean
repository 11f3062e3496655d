import ErrorTaxonomy.Load.Basic
import ErrorTaxonomy.Main.Glob.Search
import ErrorTaxonomy.Main.Query.Interpreter

/-! # Tools — what the program loads with -/

namespace ErrorTaxonomy.Load

/-- The tools that the program brings along. -/
def Tools.own : Tools := ⟨Glob.search, Query.interpreter⟩

end ErrorTaxonomy.Load
