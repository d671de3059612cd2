import HostBinder.CrateRoots
import HostBinder.Marker.Refusal
import HostBinder.Text.Words

set_option autoImplicit false

/-!
The code that a marked type is given besides its own: its path at run time, the trait of its kind, and a
constant with its schema node that is inserted into the schema at program start.
-/

namespace HostBinder.Marker

open Code

def pathConstant (roots : CrateRoots) (type : Tokens) : Tokens :=
  op "<" ++ type ++ word "as" :: within roots.core ["traits", "Path"] ++ op ">" ++ op "::" ++ [word "PATH"]

def invocation (name : String) (args : Tokens) : Tokens := word name :: op "!" ++ [parens args]

def initialised (name : String) (value : Tokens) : Tokens := word name :: op ":" ++ value ++ op ","

def implementation (trait : Tokens) (type : Ident) (body : Tokens) : Tokens :=
  word "impl" :: trait ++ [word "for", .ident type, braces body]

def pathImplementation (roots : CrateRoots) (type : Ident) : Tokens :=
  implementation (within roots.core ["traits", "Path"]) type
    (word "const" :: word "PATH" :: op ":" ++ op "&" ++
      [.mark '\x27' true, word "static", word "str"] ++ op "=" ++
      invocation "concat"
        (invocation "module_path" [] ++ op "," ++ quoted "::" :: op "," ++ [quoted type.text]) ++ op ";")

def typeName (roots : CrateRoots) (type : Ident) : Tokens :=
  within roots.schema ["node", "Def"] ++
    [braces (initialised "module_path" (invocation "module_path" []) ++ initialised "ident" [quoted type.text])]

def kindName : Marker → String
  | .component => "Component"
  | .host => "Host"

def constantName (marker : Marker) (type : Ident) : Except MalformedIdent Ident :=
  let kind := match marker with
    | .component => "COMPONENT"
    | .host => "HOST"
  identOf ("__" ++ Text.upperSnakeCase type.text ++ "_" ++ kind ++ "_SCHEMA")

def node (marker : Marker) (roots : CrateRoots) (type : Ident) (fields : Tokens) : Tokens :=
  within roots.schema ["node", kindName marker] ++
    [braces (initialised "def" (typeName roots type) ++ fields)]

/-- The constant that holds a schema node, and its insertion at program start. -/
def registration (marker : Marker) (roots : CrateRoots) (constant : Ident) (node : Tokens) : Tokens :=
  outerAttribute [word "doc", parens [word "hidden"]] ++
    outerAttribute [word "allow", parens [word "dead_code"]] ++
    word "const" :: .ident constant :: op ":" ++ within roots.schema ["node", kindName marker] ++ op "=" ++
    node ++ op ";" ++ atStart roots ++
    [word "fn", word "__ctor", parens [],
      braces (within roots.schema ["build", "schema_write"] ++ parens [] :: op "." ++
        [word "insert_node",
          parens (within roots.schema ["node", "SchemaNode", kindName marker] ++ [parens [.ident constant]])] ++
        op ";")]

def expansion (marker : Marker) (roots : CrateRoots) (type : Ident) (item fields : Tokens) : Expansion Tokens := do
  let constant ← (constantName marker type).mapError .unnameable
  return item ++ pathImplementation roots type ++
    implementation (within roots.core ["traits", kindName marker]) type [] ++
    registration marker roots constant (node marker roots type fields)

end HostBinder.Marker
