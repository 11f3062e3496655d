import ErrorTaxonomy.Schema.Basic

/-! # Options — which messages are errors and how results are named

A message **qualifies** as an error when its name ends with the marker suffix and it is no map entry.
The artifact of a unit is named after its file, with the output suffix instead of `.proto`. -/

namespace ErrorTaxonomy

/-- The settings of a run. -/
structure Options where
  markerSuffix : String := "Error"
  displayKey : String := "errors.display"
  outputSuffix : String := ".errors.rs"
  deriving Repr, DecidableEq

namespace Options

/-- Whether a message is an error. -/
def qualifies (o : Options) (m : Message) : Bool :=
  !m.mapEntry && Text.endsWith o.markerSuffix m.name

/-- The name of the artifact of a unit. -/
def artifactName (o : Options) (u : SchemaUnit) : String :=
  (Text.beforeSuffix? ".proto" u.file).getD u.file ++ o.outputSuffix

end Options
end ErrorTaxonomy
