import Completions.Engine.Backend
import Completions.Json.Reader
import Completions.Text.Quoted

/-!
Where engines come from: modules with named members, some of which make a backend from arguments.
-/

namespace Completions.Launch

inductive Product (σ : Type) where
  | backend (b : Backend σ) (world : σ)
  | other (kind : String)

inductive Member (σ : Type) where
  | factory (make : Fields → Except Fault (Product σ))
  | value (kind : String)
  | space (kind : String) (members : List (String × Member σ))

abbrev Modules (σ : Type) := List (String × List (String × Member σ))

inductive FactoryFlaw where
  | form (spec : String)
  | beside (name : String)
  | noModule (name : String)
  | noInner (name : String) (owner : String)
  | noMember (owner : String) (name : String)
  | notCallable (spec : String)
  | notBackend (spec : String) (kind : String)
  | argumentsText (flaw : String)
  | argumentsKind
  deriving DecidableEq, Repr

namespace FactoryFlaw

def message : FactoryFlaw → String
  | .form spec => "--engine must look like 'module:callable' (got " ++ quoted spec ++ ")"
  | .beside name =>
    "the 'package' argument is required to perform a relative import for " ++ quoted name
  | .noModule name => "No module named " ++ quoted name
  | .noInner name owner =>
    "No module named " ++ quoted name ++ "; " ++ quoted owner ++ " is not a package"
  | .noMember owner name => owner ++ " has no attribute '" ++ name ++ "'"
  | .notCallable spec => quoted spec ++ " is not callable"
  | .notBackend spec kind =>
    quoted spec ++ " returned " ++ kind ++ ", expected a BaseEngineAdapter"
  | .argumentsText flaw => "--engine-kwargs must be valid JSON: " ++ flaw
  | .argumentsKind => "--engine-kwargs must be a JSON object"

def kind : FactoryFlaw → FaultKind
  | .form _ | .argumentsText _ | .argumentsKind => .value
  | .noModule _ | .noInner _ _ => .other "ModuleNotFoundError"
  | .noMember _ _ => .other "AttributeError"
  | .beside _ | .notCallable _ | .notBackend _ _ => .type

def fault (f : FactoryFlaw) : Fault := ⟨f.kind, f.message⟩

end FactoryFlaw

/-- The module and the path of a factory's name, divided by the first colon. -/
def splitSpec (spec : String) : String × String :=
  let cs := spec.toList
  let name := cs.takeWhile (· != ':')
  (String.ofList name, String.ofList (cs.drop (name.length + 1)))

variable {σ : Type}

def Member.inside : Member σ → String × List (String × Member σ)
  | .factory _ => ("'function' object", [])
  | .value kind => ("'" ++ kind ++ "' object", [])
  | .space kind members => ("'" ++ kind ++ "' object", members)

def memberAt (owner : String) (members : List (String × Member σ)) (name : String) :
    List String → Except FactoryFlaw (Member σ)
  | [] =>
    match members.lookup name with
    | some m => .ok m
    | none => .error (.noMember owner name)
  | next :: rest =>
    match members.lookup name with
    | some m => memberAt m.inside.1 m.inside.2 next rest
    | none => .error (.noMember owner name)

/-- Why a name is no module's: of the names that it is made of, divided at dots, the shortest one that
is missing is told. `found` is the longest so far that is there, and `parts` is what follows it. -/
def missing (modules : Modules σ) (found : String) : List String → FactoryFlaw
  | [] => .noModule found
  | part :: parts =>
    let name := found ++ "." ++ part
    if (modules.lookup name).isSome then missing modules name parts else .noInner name found

def findModule (modules : Modules σ) (name : String) :
    Except FactoryFlaw (List (String × Member σ)) :=
  if name.startsWith "." then .error (.beside name)
  else match modules.lookup name, name.splitOn "." with
    | some members, _ => .ok members
    | none, [] => .error (.noModule name)
    | none, first :: parts =>
      .error (if (modules.lookup first).isSome then missing modules first parts else .noModule first)

def findFactory (modules : Modules σ) (spec : String) :
    Except FactoryFlaw (Fields → Except Fault (Product σ)) := do
  let (name, path) := splitSpec spec
  if name = "" ∨ path = "" then .error (.form spec)
  let members ← findModule modules name
  let owner := "module '" ++ name ++ "'"
  let member ← match path.splitOn "." with
    | [] => .error (.noMember owner path)
    | first :: rest => memberAt owner members first rest
  match member with
  | .factory make => pure make
  | _ => .error (.notCallable spec)

def readArguments (text : String) : Except FactoryFlaw Fields :=
  match Json.read text.toList with
  | .error e => .error (.argumentsText (e.message text.toList))
  | .ok (.obj fields) => .ok fields
  | .ok _ => .error .argumentsKind

end Completions.Launch
