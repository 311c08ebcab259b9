/-!
JSON values. Whole numbers and doubles are kept apart, and the fields of an object keep their order.
-/

namespace Completions

inductive Json where
  | null
  | bool (b : Bool)
  | int (n : Int)
  | float (x : Float)
  | str (s : String)
  | arr (items : List Json)
  | obj (fields : List (String × Json))
  deriving Inhabited, BEq

abbrev Fields := List (String × Json)

namespace Fields

def get? (fs : Fields) (key : String) : Option Json := fs.lookup key

def has (fs : Fields) (key : String) : Bool := (fs.get? key).isSome

/-- A field that is absent reads as null. -/
def get (fs : Fields) (key : String) : Json := (fs.get? key).getD .null

theorem get?_nil (key : String) : get? [] key = none := rfl

theorem get?_cons (k : String) (v : Json) (rest : Fields) (key : String) :
    get? ((k, v) :: rest) key = if key = k then some v else rest.get? key := by
  by_cases here : key = k
  · rw [get?, List.lookup_cons, beq_iff_eq.2 here, if_pos here]
  · rw [get?, List.lookup_cons, beq_eq_false_iff_ne.2 here, if_neg here, get?]

theorem get?_append (fs more : Fields) (key : String) :
    get? (fs ++ more) key = (fs.get? key).or (more.get? key) :=
  List.lookup_append

theorem get?_absent {fs : Fields} {key : String} (absent : key ∉ fs.map Prod.fst) :
    fs.get? key = none := by
  refine List.lookup_eq_none_iff.2 fun f known => bne_iff_ne.2 fun here => absent ?_
  exact here ▸ List.mem_map_of_mem known

/-- A new key goes to the end; a key that is there keeps its place and gets the new value. -/
def put (fs : Fields) (key : String) (v : Json) : Fields :=
  match fs with
  | [] => [(key, v)]
  | (k, old) :: rest => if k = key then (k, v) :: rest else (k, old) :: Fields.put rest key v

/-- Of equal keys the first gives the place and the last the value. -/
def ofPairs (pairs : List (String × Json)) : Fields :=
  pairs.foldl (fun fs p => fs.put p.1 p.2) []

end Fields

namespace Json

def truthy : Json → Bool
  | .null => false
  | .bool b => b
  | .int n => n != 0
  | .float x => x != 0
  | .str s => s != ""
  | .arr items => !items.isEmpty
  | .obj fields => !fields.isEmpty

def isNull : Json → Bool
  | .null => true
  | _ => false

def isStr (v : Json) (s : String) : Bool :=
  match v with
  | .str t => t == s
  | _ => false

/-- Equality with a whole number, across the kinds of numbers; true counts as one. -/
def isInt (v : Json) (n : Int) : Bool :=
  match v with
  | .int m => m == n
  | .bool b => (if b then 1 else 0) == n
  | .float x => x == Float.ofInt n
  | _ => false

mutual

def isFinite : Json → Bool
  | .float x => x.isFinite
  | .arr items => areFinite items
  | .obj fields => fieldsFinite fields
  | _ => true

def areFinite : List Json → Bool
  | [] => true
  | v :: rest => v.isFinite && areFinite rest

def fieldsFinite : List (String × Json) → Bool
  | [] => true
  | (_, v) :: rest => v.isFinite && fieldsFinite rest

end

mutual

def finite : Json → Json
  | .float x => if x.isFinite then .float x else .null
  | .arr items => .arr (finiteItems items)
  | .obj fields => .obj (finiteFields fields)
  | v => v

def finiteItems : List Json → List Json
  | [] => []
  | v :: rest => v.finite :: finiteItems rest

def finiteFields : List (String × Json) → List (String × Json)
  | [] => []
  | (k, v) :: rest => (k, v.finite) :: finiteFields rest

end

end Json

end Completions
