import FeatureLayer.Text.Quoted

namespace FeatureLayer

inductive Refusal where
  | notEnoughData
  | notEnoughMemory
  | unsupportedGeometryType
  | unsupportedOperation
  | corruptData
  | failure
  | unsupportedSrs
  | invalidHandle
  | nonExistingFeature
  deriving DecidableEq, Repr

namespace Refusal

/-- Reads a numeric code; `0` is success and not a refusal, unknown codes are plain failures. -/
def ofCode : Nat → Option Refusal
  | 0 => none
  | 1 => some .notEnoughData
  | 2 => some .notEnoughMemory
  | 3 => some .unsupportedGeometryType
  | 4 => some .unsupportedOperation
  | 5 => some .corruptData
  | 7 => some .unsupportedSrs
  | 8 => some .invalidHandle
  | 9 => some .nonExistingFeature
  | _ => some .failure

def name : Refusal → String
  | notEnoughData => "NotEnoughData"
  | notEnoughMemory => "NotEnoughMemory"
  | unsupportedGeometryType => "UnsupportedGeometryType"
  | unsupportedOperation => "UnsupportedOperation"
  | corruptData => "CorruptData"
  | failure => "Failure"
  | unsupportedSrs => "UnsupportedSrs"
  | invalidHandle => "InvalidHandle"
  | nonExistingFeature => "NonExistingFeature"

end Refusal

inductive GeometryText where
  | wkb
  | wkt
  deriving DecidableEq, Repr

def GeometryText.method : GeometryText → String
  | wkb => "OGR_G_CreateFromWkb"
  | wkt => "OGR_G_CreateFromWkt"

inductive Error where
  /-- The data source, a layer of it or a query on it could not be opened. -/
  | openFailure (source detail : String)
  | filterSyntax (predicate detail : String)
  | geometryParse (form : GeometryText)
  | typeMismatch (field expected actual : String)
  | unmappedField (field layer : String)
  | notNullable (field : String)
  | capabilityUnsupported (capability layer : String)
  /-- The store rejected a record that the layer had accepted. -/
  | write (method detail : String)
  | range (method detail : String)
  | allocation (rows : Nat)
  | layerClosed
  | interrupted (rows : Nat)
  /-- The store refused a call. -/
  | refused (reason : Refusal) (method detail : String)
  | badArgument (detail : String)
  deriving DecidableEq, Repr

namespace Error

def message : Error → String
  | openFailure source detail => s!"Unable to open '{source}': {detail}"
  | filterSyntax predicate detail => s!"Invalid attribute filter '{predicate}': {detail}"
  | geometryParse form => s!"Unable to parse geometry on method {form.method}: not a geometry"
  | typeMismatch field expected actual => s!"Field '{field}' expects {expected} but got {actual}"
  | unmappedField field layer => s!"'{field}' does not match any field of layer '{layer}'"
  | notNullable field => s!"Field '{field}' is not nullable"
  | capabilityUnsupported capability layer => s!"Layer '{layer}' does not support {capability}"
  | write method detail => s!"OGR method '{method}' rejected the feature: {detail}"
  | range method detail => s!"Value out of range on method {method}: {detail}"
  | allocation rows => s!"Unable to allocate a result table of {rows} rows"
  | layerClosed => "Layer is not open"
  | interrupted rows => s!"Interrupted after {rows} rows"
  | refused reason method detail =>
    s!"OGR method '{method}' returned error: '{reason.name}': {detail}"
  | badArgument detail => s!"BadArgument error: {detail}"

/-- What the store said, without the frame that a layer puts around it. -/
def detail : Error → String
  | refused _ _ detail => detail
  | e => e.message

end Error

/-- What stops the program in the middle of a call, which then has no answer. -/
inductive Panic where
  | overflow
  deriving DecidableEq, Repr

/-- Conditions that do not stop a call. -/
inductive Warning where
  /-- More records were read than the count had promised. -/
  | countMismatch (expected : Int) (actual : Nat)
  | missingSpatialRef (field detail : String)
  | filtersNotRestored (cause : Error)
  | attributeFilterNotRestored (cause : Error)
  | transactionsUnsupported (source : String) (forced : Bool)
  | transactionNotStarted (cause : Error)
  | transactionNotEnded (commit : Bool) (cause : Error)
  | deleteFailed (fid : Int) (cause : Error)
  deriving DecidableEq, Repr

def Warning.message : Warning → String
  | countMismatch expected actual =>
    s!"feature count reported {expected} but {actual} features were read"
  | missingSpatialRef field detail => s!"no spatial reference for '{field}': {detail}"
  | filtersNotRestored cause => s!"Unable to restore layer filters: {cause.message}"
  | attributeFilterNotRestored cause => s!"Unable to restore attribute filter: {cause.message}"
  | transactionsUnsupported source forced =>
    s!"Data source '{source}' does not support transactions" ++ if forced then "" else " natively"
  | transactionNotStarted cause => s!"Unable to start transaction: {cause.detail}"
  | transactionNotEnded commit cause =>
    "Unable to " ++ (if commit then "commit" else "roll back") ++ s!" transaction: {cause.detail}"
  | deleteFailed fid cause => s!"Failed to delete feature {fid}: {cause.detail}"

end FeatureLayer
