import ErrorTaxonomy.Main.Query.Term

/-! # Names — what the named filters stand for

A name and its arguments stand for a term. A name that is not listed with that number of arguments is
kept as unknown. -/

namespace ErrorTaxonomy.Query.Builtin

/-- The filter without outputs. -/
def empty : Term := .apply .empty []

/-- The parts of the input. -/
def parts : Term := .path .self [.each false]

/-- The input, when a condition holds of it. -/
def select (condition : Term) : Term := .branch condition .self empty

/-- The array of the outputs for each part. -/
def map (t : Term) : Term := .collect (.pipe parts t)

/-- The first output of `g` for which `decide` has an output, answered by `found`; otherwise the
contrary. -/
def search (found : Bool) (g decide : Term) : Term :=
  .firstOf (.both (.pipe g (.pipe decide (.constant (.bool found)))) (.constant (.bool !found)))

/-- Whether a condition holds of some output. -/
def any (g condition : Term) : Term := search true g (.logic true condition empty)

/-- Whether a condition holds of all outputs. -/
def all (g condition : Term) : Term := search false g (.logic false condition empty)

/-- The item at an index. -/
def item (i : Int) : Term := .path .self [.index (.constant (Value.ofInt i)) false]

/-- The last output, if there is one. -/
def last (t : Term) : Term :=
  .pipe (.collect t) (.pipe (select (.compare .ne .self (.constant (.arr [])))) (item (-1)))

/-- The error of each output, or the input when there is none. -/
def error (t : Term) : Term := .both (.pipe t (.apply .error [])) .self

/-- The names that take no argument. -/
def plain : String → Option Term
  | "null" => some (.constant .null)
  | "true" => some (.constant (.bool true))
  | "false" => some (.constant (.bool false))
  | "nan" => some (.constant (.num (.real (0.0 / 0.0))))
  | "infinite" => some (.constant (.num (.real (1.0 / 0.0))))
  | "empty" => some empty
  | "error" => some (.apply .error [])
  | "length" => some (.apply .length [])
  | "keys" => some (.apply .keys [])
  | "keys_unsorted" => some (.apply .keysUnsorted [])
  | "add" => some (.apply .add [])
  | "sort" => some (.apply .sort [])
  | "unique" => some (.keyed .unique .self)
  | "reverse" => some (.apply .reverse [])
  | "tostring" => some (.apply .toText [])
  | "tojson" => some (.apply .toJsonText [])
  | "to_entries" => some (.apply .toEntries [])
  | "from_entries" => some (.apply .fromEntries [])
  | "type" => some (.apply .typeName [])
  | "not" => some (.apply .not [])
  | "recurse" => some (.apply .withParts [])
  | "first" => some (item 0)
  | "last" => some (item (-1))
  | "any" => some (any parts .self)
  | "all" => some (all parts .self)
  | "values" => some (select (.compare .ne .self (.constant .null)))
  | "nulls" => some (select (.compare .eq .self (.constant .null)))
  | _ => none

/-- The names that take one argument. -/
def unary (t : Term) : String → Option Term
  | "select" => some (select t)
  | "map" => some (map t)
  | "map_values" => some (.update parts t)
  | "del" => some (.update t empty)
  | "error" => some (error t)
  | "has" => some (.apply .has [t])
  | "join" => some (.apply .join [t])
  | "startswith" => some (.apply .startsWith [t])
  | "endswith" => some (.apply .endsWith [t])
  | "ltrimstr" => some (.apply .withoutStart [t])
  | "rtrimstr" => some (.apply .withoutEnd [t])
  | "split" => some (.apply .split [t])
  | "range" => some (.apply .range [t])
  | "sort_by" => some (.keyed .sort t)
  | "group_by" => some (.keyed .group t)
  | "unique_by" => some (.keyed .unique t)
  | "first" => some (.firstOf t)
  | "last" => some (last t)
  | "add" => some (.pipe (.collect t) (.apply .add []))
  | "any" => some (any parts t)
  | "all" => some (all parts t)
  | "with_entries" =>
    some (.pipe (.apply .toEntries []) (.pipe (map t) (.apply .fromEntries [])))
  | _ => none

/-- The names that take two arguments. -/
def binary (t u : Term) : String → Option Term
  | "any" => some (any t u)
  | "all" => some (all t u)
  | "range" => some (.apply .range [t, u])
  | _ => none

/-- The term that a **call** stands for. -/
def call (name : String) (args : List Term) : Term :=
  let known :=
    match args with
    | [] => plain name
    | [t] => unary t name
    | [t, u] => binary t u name
    | _ => none
  known.getD (.unknown name args)

end ErrorTaxonomy.Query.Builtin
