import Completions.Text.Integer
import Completions.Text.Quoted

/-!
The command line. Options begin with two dashes and may be shortened as long as only one option is
meant; a value follows its option as the next word or after an equals sign.
-/

namespace Completions.Launch

inductive LogLevel where
  | critical
  | error
  | warning
  | info
  | debug
  | trace
  deriving DecidableEq, Repr

namespace LogLevel

def name : LogLevel → String
  | .critical => "critical"
  | .error => "error"
  | .warning => "warning"
  | .info => "info"
  | .debug => "debug"
  | .trace => "trace"

def all : List LogLevel := [.critical, .error, .warning, .info, .debug, .trace]

def ofName? (n : String) : Option LogLevel := all.find? fun l => l.name == n

def weight : LogLevel → Nat
  | .critical => 50
  | .error => 40
  | .warning => 30
  | .info => 20
  | .debug | .trace => 10

end LogLevel

/-- The value of an option. Two dashes after an equals sign are no value: they leave the option blank. -/
inductive Setting (α : Type) where
  | value (a : α)
  | blank
  deriving DecidableEq, Repr

def Setting.getD (s : Setting α) (default : α) : α :=
  match s with
  | .value a => a
  | .blank => default

structure Settings where
  engineArguments : Setting String := .value "\x7b\x7d"
  host : Setting String := .value "0.0.0.0"
  port : Setting Int := .value 8787
  modelId : Option (Setting String) := none
  template : Setting String := .value ""
  useTemplateEngine : Bool := true
  promptBatchSize : Setting Int := .value 1
  /-- Zero sets no limit beside the context. -/
  maxPromptTokens : Setting Int := .value 0
  defaultMaxTokens : Setting Int := .value (-1)
  rejectWhenBusy : Bool := false
  httpMaxConcurrency : Setting Int := .value 0
  warmupDecodeTokens : Setting Int := .value 0
  logLevel : Setting LogLevel := .value .info
  reload : Bool := false
  deriving DecidableEq, Repr

structure Options where
  /-- Where the engine is made: a module, a colon, and a path of names in it. -/
  engine : Setting String
  settings : Settings
  deriving DecidableEq, Repr

inductive Usage where
  | help
  | ambiguous (word : String) (names : List String)
  | valueMissing (names : String)
  | valueIgnored (names : String) (value : String)
  | notInteger (names : String) (value : String)
  | notChoice (names : String) (value : String) (choices : List String)
  | engineMissing
  | unrecognized (words : List String)
  deriving DecidableEq, Repr

namespace Usage

def message : Usage → String
  | .help => ""
  | .ambiguous word names => "ambiguous option: " ++ word ++ " could match " ++ ", ".intercalate names
  | .valueMissing names => "argument " ++ names ++ ": expected one argument"
  | .valueIgnored names value =>
    "argument " ++ names ++ ": ignored explicit argument " ++ quoted value
  | .notInteger names value => "argument " ++ names ++ ": invalid int value: " ++ quoted value
  | .notChoice names value choices =>
    "argument " ++ names ++ ": invalid choice: " ++ quoted value ++ " (choose from " ++
      ", ".intercalate (choices.map quoted) ++ ")"
  | .engineMissing => "the following arguments are required: --engine"
  | .unrecognized words => "unrecognized arguments: " ++ " ".intercalate words

def code : Usage → Nat
  | .help => 0
  | _ => 2

end Usage

structure Draft where
  engine : Option (Setting String) := none
  settings : Settings := {}
  deriving DecidableEq, Repr

inductive Effect where
  | help
  | switch (set : Settings → Settings)
  | engine
  | text (set : Setting String → Settings → Settings)
  | number (set : Setting Int → Settings → Settings)
  | level

structure Flag where
  names : List String
  effect : Effect

namespace Flag

def label (f : Flag) : String := "/".intercalate f.names

def takesValue (f : Flag) : Bool :=
  match f.effect with
  | .help | .switch _ => false
  | _ => true

end Flag

def flags : List Flag :=
  [⟨["-h", "--help"], .help⟩,
   ⟨["--engine"], .engine⟩,
   ⟨["--engine-kwargs"], .text fun v s => { s with engineArguments := v }⟩,
   ⟨["--host"], .text fun v s => { s with host := v }⟩,
   ⟨["--port"], .number fun n s => { s with port := n }⟩,
   ⟨["--model-id"], .text fun v s => { s with modelId := some v }⟩,
   ⟨["--template"], .text fun v s => { s with template := v }⟩,
   ⟨["--no-template-engine"], .switch fun s => { s with useTemplateEngine := false }⟩,
   ⟨["--prompt-batch-size"], .number fun n s => { s with promptBatchSize := n }⟩,
   ⟨["--max-prompt-tokens"], .number fun n s => { s with maxPromptTokens := n }⟩,
   ⟨["--default-max-tokens"], .number fun n s => { s with defaultMaxTokens := n }⟩,
   ⟨["--reject-when-busy"], .switch fun s => { s with rejectWhenBusy := true }⟩,
   ⟨["--http-max-concurrency"], .number fun n s => { s with httpMaxConcurrency := n }⟩,
   ⟨["--warmup-decode-tokens"], .number fun n s => { s with warmupDecodeTokens := n }⟩,
   ⟨["--log-level"], .level⟩,
   ⟨["--reload"], .switch fun s => { s with reload := true }⟩]

inductive Word where
  | plain (text : String)
  | option (flag : Flag) (value : Option String)
  | letters (flag : Flag) (more : String)
  | unknown (text : String)

def namedFlags : List (String × Flag) := flags.flatMap fun f => f.names.map fun n => (n, f)

def splitValue (word : String) : String × Option String :=
  let cs := word.toList
  let name := cs.takeWhile (· != '=')
  match cs.drop name.length with
  | [] => (word, none)
  | _ :: value => (String.ofList name, some (String.ofList value))

def withoutLineBreak (cs : List Char) : List Char :=
  if cs.getLast? = some '\n' then cs.dropLast else cs

def isNumberLike (cs : List Char) : Bool :=
  let digits (ds : List Char) := ds.all fun c => (Text.digitValue? c).isSome
  match withoutLineBreak cs with
  | '-' :: rest =>
    (!rest.isEmpty && digits rest) ||
      (let whole := rest.takeWhile (· != '.')
       match rest.drop whole.length with
       | '.' :: fraction => digits whole && !fraction.isEmpty && digits fraction
       | _ => false)
  | _ => false

/-- A word with two dashes is an option when it begins the name of just one. -/
def byBeginning (word : String) : Except Usage (Option Word) :=
  let (name, value) := splitValue word
  match namedFlags.filter fun p => name.toList.isPrefixOf p.1.toList with
  | [] => .ok none
  | [(_, flag)] => .ok (some (.option flag value))
  | many => .error (.ambiguous word (many.map Prod.fst))

def byLetter (cs : List Char) : Option Word :=
  (namedFlags.lookup (String.ofList (cs.take 2))).map fun flag =>
    .letters flag (String.ofList (cs.drop 2))

def understandDashed (word : String) : Except Usage Word := do
  let cs := word.toList
  let (name, value) := splitValue word
  match namedFlags.lookup word, namedFlags.lookup name with
  | some flag, _ => pure (.option flag none)
  | none, some flag =>
    pure (if name.toList[1]? = some '-' then .option flag value else .letters flag (value.getD ""))
  | none, none =>
    let found ← if cs[1]? = some '-' then byBeginning word else pure (byLetter cs)
    match found with
    | some w => pure w
    | none => pure (if isNumberLike cs || cs.contains ' ' then .plain word else .unknown word)

def understand (word : String) : Except Usage Word :=
  match word.toList with
  | '-' :: _ :: _ => understandDashed word
  | _ => pure (.plain word)

/-- All words. Two dashes alone are no option, and after them there are none. -/
def understandAll : List String → Except Usage (List Word)
  | [] => .ok []
  | word :: rest =>
    if word = "--" then .ok (.unknown word :: rest.map .plain)
    else do
      let w ← understand word
      let ws ← understandAll rest
      pure (w :: ws)

def settingOf (value : String) : Setting String := if value = "--" then .blank else .value value

def Setting.read? (read : α → Option β) : Setting α → Option (Setting β)
  | .value a => (read a).map .value
  | .blank => some .blank

def applyValue (f : Flag) (value : String) (d : Draft) : Except Usage Draft :=
  match f.effect with
  | .engine => .ok { d with engine := some (settingOf value) }
  | .text set => .ok { d with settings := set (settingOf value) d.settings }
  | .number set =>
    match (settingOf value).read? fun v => Text.integer? v.toList with
    | some n => .ok { d with settings := set n d.settings }
    | none => .error (.notInteger f.label value)
  | .level =>
    match (settingOf value).read? LogLevel.ofName? with
    | some l => .ok { d with settings := { d.settings with logLevel := l } }
    | none => .error (.notChoice f.label value (LogLevel.all.map LogLevel.name))
  | .help | .switch _ => .error (.valueIgnored f.label value)

def applySwitch (f : Flag) (d : Draft) : Except Usage Draft :=
  match f.effect with
  | .switch set => .ok { d with settings := set d.settings }
  | .help => .error .help
  | _ => .error (.valueMissing f.label)

/-- The options of one word with one dash, each a letter. What is not an option is taken for a value of
the option before it, which has no use for it. -/
def letterFlags (f : Flag) : List Char → Except Usage (List Flag)
  | [] => .ok [f]
  | c :: rest =>
    match namedFlags.lookup (String.ofList ['-', c]) with
    | some g => (letterFlags g rest).map (f :: ·)
    | none => .error (.valueIgnored f.label (String.ofList (c :: rest)))

def follow (d : Draft) : List Word → Except Usage (Draft × List String)
  | [] => .ok (d, [])
  | .plain text :: rest | .unknown text :: rest => do
    let (d, extra) ← follow d rest
    pure (d, text :: extra)
  | .letters f more :: rest => do
    if more = "" then .error (.valueIgnored f.label more)
    let fs ← letterFlags f more.toList
    let d ← fs.foldlM (fun d g => applySwitch g d) d
    follow d rest
  | .option f (some value) :: rest => do
    let d ← applyValue f value d
    follow d rest
  | .option f none :: rest =>
    if f.takesValue then
      match rest with
      | .plain value :: rest => do
        let d ← applyValue f value d
        follow d rest
      | _ => .error (.valueMissing f.label)
    else do
      let d ← applySwitch f d
      follow d rest

def readOptions (words : List String) : Except Usage Options := do
  let ws ← understandAll words
  let (d, extra) ← follow {} ws
  match d.engine with
  | none => .error .engineMissing
  | some engine =>
    if extra.isEmpty then pure { engine, settings := d.settings } else .error (.unrecognized extra)

end Completions.Launch
