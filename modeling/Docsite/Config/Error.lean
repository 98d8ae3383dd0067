/-
**Configuration errors.**

Why a site configuration cannot be used. Every error is final; those that concern one key name it.
-/

import Docsite.Config.Format
import Docsite.Storage.Basic
import Docsite.Url.Basic

namespace Docsite

/-! ## Faults of a single value -/

/-- What is wrong with the value of a key. -/
inductive ValueFault where
  | notAUrl (text : String) (error : UrlError)
  | schemeNotSupported (scheme : String)
  | urlWithoutHost
  | notRooted (path : String)
  | notAnElementName (name : String)
  /-- The value is none of the words that are listed. -/
  | notOneOf (value : String) (allowed : List String)
  /-- A link names both a site path and a target to pass on. -/
  | bothTargets
  deriving DecidableEq, Repr

/-- The wording of a fault. -/
def ValueFault.message : ValueFault → String
  | .notAUrl text error => s!"invalid URL '{text}': " ++ error.message
  | .schemeNotSupported scheme => s!"scheme '{scheme}' not supported, must be http or https"
  | .urlWithoutHost => "URL must have a host"
  | .notRooted path => s!"'{path}' must start with '/'"
  | .notAnElementName name => s!"'{name}' is not a valid element name"
  | .notOneOf value allowed => s!"'{value}' is not one of: " ++ Text.joinWith ", " allowed
  | .bothTargets => "set either `to` or `href`, not both"

/-! ## Errors -/

/-- Why a site configuration cannot be used. -/
inductive ConfigError where
  | unreadable (path : Path) (cause : FileError)
  | malformed (format : ConfigFormat)
  | unsupportedFormat (path : Path)
  | missingField (field : String)
  | unknownPolicy (field value : String)
  | invalidValue (field : String) (fault : ValueFault)
  deriving DecidableEq, Repr

namespace ConfigError

/-- The key that an error concerns. -/
def field? : ConfigError → Option String
  | .missingField field | .unknownPolicy field _ | .invalidValue field _ => some field
  | _ => none

/-- The wording of an error. -/
def message : ConfigError → String
  | .unreadable path cause => s!"Failed to read {path.text}: " ++ cause.message
  | .malformed format => s!"Failed to parse {format.name} configuration: "
  | .unsupportedFormat path =>
    s!"Unsupported configuration format: {path.text} (expected .toml, .json, .yaml or .yml)"
  | .missingField field => s!"Missing required field `{field}`"
  | .unknownPolicy field value =>
    s!"Invalid value for `{field}`: '{value}' (expected one of: throw, warn, log, ignore)"
  | .invalidValue field fault => s!"Invalid value for `{field}`: " ++ fault.message

end ConfigError

end Docsite
