import Gazetteer.Number.Numeral
import Gazetteer.Text.Pieces

/-!
# Command line arguments

Options may stand before or after the name of a command. Those that every command takes may be given
again after it, and then the later one counts; at one place each may be given once. After `--`
everything is an operand.
-/

namespace Gazetteer.CommandLine

inductive Verb where
  | command (request file : Option String) (isPretty : Bool)
  | map (force : Bool)
  | areas
  | area (reference : String)
  | find (query : String)
  | describe (target : String)
  | cacheStatus
  | cacheClear
deriving DecidableEq, Repr

structure Invocation where
  verb : Verb
  root : String
  /-- Whether commands to go on with are shown as tool calls. -/
  agent : Bool
  json : Bool
  limit : Option Nat
deriving DecidableEq, Repr

/-- Reasons to end before a command runs. -/
inductive Ending where
  | usage
  | version
  | help
deriving DecidableEq, Repr

/-- The commands, with the two of `cache`. -/
inductive Level where
  | top
  | command
  | map
  | areas
  | area
  | find
  | describe
  | cache
  | cacheStatus
  | cacheClear
deriving DecidableEq, Repr

inductive Switch where
  | agent
  | json
  | verbose
  | isPretty
  | force
  | version
  | help
deriving DecidableEq, Repr

/-- An option with a value. -/
inductive Setting where
  | root
  | limit
  | file
deriving DecidableEq, Repr

namespace Level

/-- The command that a word names at a level. -/
def inner? : Level → String → Option Level
  | .top, word =>
    [("command", command), ("map", map), ("areas", areas), ("area", area), ("find", find),
      ("describe", describe), ("cache", cache)].lookup word
  | .cache, word => [("status", cacheStatus), ("clear", cacheClear)].lookup word
  | _, _ => none

def operands : Level → Nat
  | .command | .area | .find | .describe => 1
  | _ => 0

def switch? (level : Level) (name : String) : Option Switch :=
  let shared := [("agent", Switch.agent), ("json", .json), ("verbose", .verbose), ("help", .help)]
  let own := match level with
    | .top => [("version", Switch.version)]
    | .command => [("pretty", .isPretty)]
    | .map => [("force", .force)]
    | _ => []
  (own ++ shared).lookup name

def letter? (level : Level) (letter : Char) : Option Switch :=
  let shared := [('v', Switch.verbose), ('h', .help)]
  (if level = .top then ('V', .version) :: shared else shared).lookup letter

def setting? (level : Level) (name : String) : Option Setting :=
  let shared := [("root", Setting.root), ("limit", .limit)]
  (if level = .command then ("file", .file) :: shared else shared).lookup name

end Level

/-- Paths may not be empty, and a limit is a number. -/
def Setting.admits (s : Setting) (value : String) : Bool :=
  match s with
  | .root | .file => value ≠ ""
  | .limit => (Numeral.readWord? 10 value.toList).isSome

/-- What has been given so far: at the present level, and at the levels before it. -/
structure Given where
  switches : List Switch
  settings : List (Setting × String)
  operands : List String
  outerSwitches : List Switch
  outerSettings : List (Setting × String)

namespace Given

def none : Given := ⟨[], [], [], [], []⟩

/-- Goes on to an inner level. -/
def enter (g : Given) : Given :=
  ⟨[], [], [], g.switches ++ g.outerSwitches, g.settings ++ g.outerSettings⟩

def switch (g : Given) (s : Switch) : Except Ending Given :=
  match s with
  | .version => .error .version
  | .help => .error .help
  | s => if s ∈ g.switches then .error .usage else .ok { g with switches := s :: g.switches }

def letters (level : Level) (g : Given) : List Char → Except Ending Given
  | [] => .ok g
  | c :: cs =>
    match level.letter? c with
    | some s => do letters level (← g.switch s) cs
    | .none => .error .usage

def set (g : Given) (s : Setting) (value : String) : Except Ending Given :=
  if (g.settings.lookup s).isSome || !s.admits value then .error .usage
  else .ok { g with settings := (s, value) :: g.settings }

def operand (level : Level) (g : Given) (word : String) : Except Ending Given :=
  if g.operands.length < level.operands then .ok { g with operands := g.operands ++ [word] }
  else .error .usage

def has (g : Given) (s : Switch) : Bool := s ∈ g.switches || s ∈ g.outerSwitches

def value? (g : Given) (s : Setting) : Option String :=
  g.settings.lookup s <|> g.outerSettings.lookup s

/-- The command of a level with its operands, if all that it needs has been given. -/
def verb? (g : Given) : Level → Option Verb
  | .command =>
    match g.operands.head?, g.value? .file with
    | some _, some _ => .none
    | request, file => some (.command request file (g.has .isPretty))
  | .map => some (.map (g.has .force))
  | .areas => some .areas
  | .area => g.operands.head?.map .area
  | .find => g.operands.head?.map .find
  | .describe => g.operands.head?.map .describe
  | .cacheStatus => some .cacheStatus
  | .cacheClear => some .cacheClear
  | .top | .cache => .none

def finish (level : Level) (g : Given) : Except Ending Invocation :=
  match g.verb? level with
  | some verb =>
    let limit := (g.value? .limit).bind fun text => Numeral.readWord? 10 text.toList
    .ok ⟨verb, (g.value? .root).getD ".", g.has .agent, g.has .json, limit.map UInt64.toNat⟩
  | .none => .error .usage

end Given

/-- What an argument is by its form. -/
inductive Form where
  | separator
  | long (name : String)
  | longWith (name value : String)
  | letters (letters : List Char)
  | word

def formOf (argument : String) : Form :=
  match argument.toList with
  | ['-', '-'] => .separator
  | '-' :: '-' :: cs =>
    match Text.cutFirst? '=' cs with
    | some (name, value) => .longWith (.ofList name) (.ofList value)
    | none => .long (.ofList cs)
  | ['-'] => .word
  | '-' :: cs => .letters cs
  | _ => .word

/-- The operands after `--`. -/
def parseOperands (level : Level) (g : Given) : List String → Except Ending Invocation
  | [] => g.finish level
  | word :: rest => do parseOperands level (← g.operand level word) rest

/-- Reads arguments at a level. A setting that waits for its value takes the next argument. -/
def parseAt (level : Level) (g : Given) (waiting : Option Setting) :
    List String → Except Ending Invocation
  | [] => if waiting.isSome then .error .usage else g.finish level
  | argument :: rest =>
    match waiting, formOf argument with
    | some s, .word => do parseAt level (← g.set s argument) none rest
    | some _, _ => .error .usage
    | none, .separator => parseOperands level g rest
    | none, .letters letters => do parseAt level (← g.letters level letters) none rest
    | none, .longWith name value =>
      match level.setting? name with
      | some s => do parseAt level (← g.set s value) none rest
      | none => .error .usage
    | none, .long name =>
      match level.switch? name, level.setting? name with
      | some s, _ => do parseAt level (← g.switch s) none rest
      | none, some s => parseAt level g (some s) rest
      | none, none => .error .usage
    | none, .word =>
      match level.inner? argument with
      | some inner => parseAt inner g.enter none rest
      | none => do parseAt level (← g.operand level argument) none rest

/-- The invocation that arguments describe. -/
def parse (arguments : List String) : Except Ending Invocation := parseAt .top .none none arguments

example : (parse ["--root", "a", "map", "--root=b"]).toOption.map Invocation.root = some "b" := by
  decide

end Gazetteer.CommandLine
