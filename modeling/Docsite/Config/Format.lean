/-
**Configuration formats.**

* `ofPath?`: the format that the extension of a file names, whatever the case of its letters.
-/

import Docsite.Path

namespace Docsite

/-- A data format in which a site can be declared. -/
inductive ConfigFormat where
  | toml
  | json
  | yaml
  deriving DecidableEq, Repr

namespace ConfigFormat

/-- The name of a format. -/
def name : ConfigFormat → String
  | .toml => "TOML"
  | .json => "JSON"
  | .yaml => "YAML"

/-- The format that an extension in lower case names. -/
def ofExtension? (extension : String) : Option ConfigFormat :=
  if extension == "toml" then some .toml
  else if extension == "json" then some .json
  else if extension == "yaml" || extension == "yml" then some .yaml
  else none

/-- The format of a configuration file. -/
def ofPath? (path : Path) : Option ConfigFormat :=
  ofExtension? (String.ofList (path.extension.toList.map Char.toLower))

end ConfigFormat

end Docsite
