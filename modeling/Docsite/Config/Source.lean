/-
**From source text to configuration.**

* `declaration?`: the declaration that a text spells in a data format.
* `SiteConfig.ofSource`: the checked configuration, with a warning for every key without meaning.
-/

import Docsite.Config.Validate
import Docsite.Declaration.Reader
import Docsite.Json.Dialect
import Docsite.Json.Reader
import Docsite.Toml.Dialect
import Docsite.Toml.Reader
import Docsite.Yaml.Dialect

namespace Docsite

/-- The declaration that a text spells in a data format. -/
def declaration? (format : ConfigFormat) (source : String) : Option (Reading SiteDeclaration) :=
  match format with
  | .json => do SiteDeclaration.read? Json.dialect (← Json.read? source)
  | .toml => do SiteDeclaration.read? Toml.dialect (← Toml.read? source)
  | .yaml => do
    let document ← Yaml.Document.read? source
    SiteDeclaration.read? (Yaml.dialect document) document.root

/-- Warns of every key path without meaning. -/
def warnOfUnknown (unknown : List KeyPath) : Check Unit :=
  ExceptT.lift { value := (), notices := unknown.map fun path => .unknownKey path.show }

/-- The checked configuration that a text spells. -/
def SiteConfig.ofSource (format : ConfigFormat) (source : String) : Check SiteConfig :=
  match declaration? format source with
  | none => throw (.malformed format)
  | some reading => do
    warnOfUnknown reading.unknown
    let config ← validate reading.value
    Check.giveIf true
      (.configValidated config.title config.navbar.items.length config.headTags.length)
    return config

end Docsite
