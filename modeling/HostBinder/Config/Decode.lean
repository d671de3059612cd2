import HostBinder.Config.Document
import HostBinder.Decimal.Shortest
import HostBinder.Settings
import HostBinder.SortedTable
import HostBinder.Text.Quoted

set_option autoImplicit false

namespace HostBinder

open Config

inductive Found where
  | described (text : String)
  | tooLarge (message : String)
  deriving DecidableEq, Repr

inductive SettingsError where
  | malformed
  | unexpected (found : Found) (wanted : String)
  | unknownSetting (key : String)
  | unknownTable (key : String)
  | unknownPolicy (name : String)
  | noPolicy
  | policyEntries (many : Bool)
  | policyContent (array : Bool)
  | policyPayload (found : String)
  deriving DecidableEq, Repr

def SettingsError.message : SettingsError → String
  | .malformed => "malformed document"
  | .unexpected (.described text) wanted => "invalid type: " ++ text ++ ", expected " ++ wanted
  | .unexpected (.tooLarge message) _ => message
  | .unknownSetting key =>
    "unknown field `" ++ key ++ "`, expected one of `base_type`, `invalid_fields`, `output`"
  | .unknownTable key => "unknown field `" ++ key ++ "`, expected `build`"
  | .unknownPolicy name => "unknown variant `" ++ name ++ "`, expected one of `skip`, `abort`, `emit`"
  | .noPolicy => "wanted string or table"
  | .policyEntries many =>
    if many then "wanted exactly 1 element, more than 1 element" else "wanted exactly 1 element, found 0 elements"
  | .policyContent array => if array then "expected empty array" else "expected empty table"
  | .policyPayload found => "expected table, found " ++ found

namespace ConfigValue

def kind : ConfigValue → String
  | string _ => "string"
  | integer _ => "integer"
  | float _ => "float"
  | boolean _ => "boolean"
  | moment => "datetime"
  | array .. => "array"
  | table .. => "table"

def valuesOf (bits : Nat) : Int := Int.ofNat (Nat.pow 2 bits)

def describeInteger (n : Int) : Found :=
  if -valuesOf 63 ≤ n && n < valuesOf 64 then .described ("integer `" ++ toString n ++ "`")
  else if -valuesOf 127 ≤ n && n < valuesOf 127 then .described ("integer `" ++ toString n ++ "` as i128")
  else if 0 ≤ n && n < valuesOf 128 then .described ("integer `" ++ toString n ++ "` as u128")
  else .tooLarge "integer number overflowed"

def describeFloat (f : FloatValue) : Found :=
  let told (negative : Bool) (text : String) : Found :=
    .described ("floating point `" ++ (if negative then "-" else "") ++ text ++ "`")
  match f with
  | .infinite negative => told negative "inf"
  | .notANumber => told false "NaN"
  | .decimal negative coefficient exponent =>
    match Decimal.ofDecimal coefficient exponent with
    | .zero => told negative "0.0"
    | .number b => told negative (Decimal.shortest b).positional
    | .tooLarge => .tooLarge "floating-point number overflowed"

def describe : ConfigValue → Found
  | string s => .described ("string " ++ Text.Quoted.text s)
  | integer n => describeInteger n
  | float f => describeFloat f
  | boolean b => .described ("boolean `" ++ (if b then "true" else "false") ++ "`")
  | moment => .described "map"
  | array .. => .described "sequence"
  | table .. => .described "map"

def text : ConfigValue → Except SettingsError String
  | string s => .ok s
  | v => .error (.unexpected v.describe "a string")

end ConfigValue

def policyOfName (name : String) : Except SettingsError InvalidFieldPolicy :=
  match InvalidFieldPolicy.ofName? name with
  | some p => .ok p
  | none => .error (.unknownPolicy name)

/-- What may stand beside the name of a policy: nothing, in an array or a table. -/
def emptyPayload : ConfigValue → Except SettingsError Unit
  | .array _ elements => if elements.isEmpty then .ok () else .error (.policyContent true)
  | .table _ entries => if entries.isEmpty then .ok () else .error (.policyContent false)
  | v => .error (.policyPayload v.kind)

def policyOfValue : ConfigValue → Except SettingsError InvalidFieldPolicy
  | .string s => policyOfName s
  | .table _ [(name, payload)] => do
    let p ← policyOfName name
    emptyPayload payload
    return p
  | .table _ entries => .error (.policyEntries !entries.isEmpty)
  | _ => .error .noPolicy

def sortedEntries (entries : List (String × ConfigValue)) : List (String × ConfigValue) :=
  (entries.foldl (fun (t : SortedTable ConfigValue) e => t.insert e.1 e.2) ∅).entries

def readSetting (s : Settings) (entry : String × ConfigValue) : Except SettingsError Settings := do
  if entry.1 = "base_type" then return { s with baseType := ← entry.2.text }
  else if entry.1 = "invalid_fields" then return { s with invalidFields := ← policyOfValue entry.2 }
  else if entry.1 = "output" then return { s with output := ← entry.2.text }
  else throw (.unknownSetting entry.1)

def settingNames : List String := ["base_type", "invalid_fields", "output"]

/-- The key that a date or time has where a table is wanted. -/
def momentKey : String := "$__toml_private_datetime"

/-- The settings of the build table, or of an array of settings in order. -/
def settingsOfValue : ConfigValue → Except SettingsError Settings
  | .table _ entries => (sortedEntries entries).foldlM readSetting .default
  | .array _ elements => (settingNames.zip elements).foldlM readSetting .default
  | .moment => .error (.unknownSetting momentKey)
  | v => .error (.unexpected v.describe "struct BuildConfig")

def settingsOfEntries (entries : List (String × ConfigValue)) : Except SettingsError Settings :=
  (sortedEntries entries).foldlM
    (fun _ entry => if entry.1 = "build" then settingsOfValue entry.2 else throw (.unknownTable entry.1)) .default

def settingsOfText (s : String) : Except SettingsError Settings :=
  match document? s with
  | some entries => settingsOfEntries entries
  | none => .error .malformed

end HostBinder
