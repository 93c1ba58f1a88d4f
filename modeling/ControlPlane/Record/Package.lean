import ControlPlane.Record.Basic

/-!
Packages: the modules that functions are made from.
-/

namespace ControlPlane

/-- A module of a package. -/
structure Module where
  displayName : String := ""
  description : String := ""
  sourceSchema : String := ""
  sinkSchema : String := ""
  deriving DecidableEq, Inhabited

namespace Module

def schema : Schema Module where
  name := "Module"
  start := {}
  fields := [
    .of "displayName" .preset .text (·.displayName) (fun m v => { m with displayName := v })
      String.isEmpty,
    .of "description" .preset .text (·.description) fun m v => { m with description := v },
    .of "sourceSchema" .preset .text (·.sourceSchema) (fun m v => { m with sourceSchema := v })
      String.isEmpty,
    .of "sinkSchema" .preset .text (·.sinkSchema) (fun m v => { m with sinkSchema := v })
      String.isEmpty]

def form : Form Module := schema.form

end Module

/-- The modules of a package by name. -/
structure PackageSpec where
  displayName : String := ""
  description : String := ""
  modules : Dictionary String Module := ∅
  deriving DecidableEq, Inhabited

namespace PackageSpec

def schema : Schema PackageSpec where
  name := "PackageSpec"
  start := {}
  fields := [
    .of "displayName" .preset .text (·.displayName) (fun s v => { s with displayName := v })
      String.isEmpty,
    .of "description" .preset .text (·.description) (fun s v => { s with description := v })
      String.isEmpty,
    .of "modules" .preset (.dictionary Module.form) (·.modules)
      fun s v => { s with modules := v }]

def form : Form PackageSpec := schema.form

end PackageSpec

abbrev PackageRecord := RecordOf PackageSpec Unit

instance : RecordShape PackageSpec Unit where
  kind := .package
  spec := PackageSpec.schema
  status := .unit
  noStatus := ()

end ControlPlane
