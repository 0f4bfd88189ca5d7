import SiteCache.Program.Option
import SiteCache.Text.Split

set_option autoImplicit false

namespace SiteCache.Program

inductive Command where
  | sync (sites : List SiteId) (resource : Option ResourceKind) (filter : ProductFilter)
      (order : ProductSortOrder)
  | list (site : SiteId) (resource : ResourceKind)
  | resetProducts (site : SiteId)
  | config

structure Invocation where
  config : Option String
  database : Option String
  command : Command

inductive CommandName where
  | sync
  | list
  | resetProducts
  | config
  deriving DecidableEq, Repr

namespace CommandName

def read? (s : String) : Option CommandName :=
  if s = "sync" then some .sync
  else if s = "list" then some .list
  else if s = "reset-products" then some .resetProducts
  else if s = "config" then some .config
  else none

def options : CommandName → List Opt
  | .sync => globalOptions ++ [sitesOption, resourceOption] ++ productOptions
  | .list => globalOptions ++ [siteOption, resourceOption]
  | .resetProducts => globalOptions ++ [siteOption]
  | .config => globalOptions

def command? (given : Given) : CommandName → Option Command
  | .sync => some (.sync given.sites given.resource
      ⟨given.stockStatus, given.status, given.productType⟩ (given.sort.getD .nameAscending))
  | .list =>
    match given.sites, given.resource with
    | site :: _, some resource => some (.list site resource)
    | _, _ => none
  | .resetProducts => given.sites.head?.map .resetProducts
  | .config => some .config

end CommandName

/-- An option whose effect has not been seen yet, because its value is still to come or because
nothing has called for it. -/
inductive Pending where
  | nothing
  | awaiting (o : Opt)
  | holding (o : Opt) (taking : Taking) (value : String)

/-- How far a level has been read. -/
structure Level where
  options : List Opt
  isTop : Bool
  given : Given := {}
  pending : Pending := .nothing
  used : Bool := false
  closed : Bool := false

namespace Level

def isAwaiting (l : Level) : Bool :=
  match l.pending with
  | .awaiting _ => true
  | _ => false

def take (l : Level) (o : Opt) (taking : Taking) (value : String) : Except Stop Level :=
  match taking.take value l.given with
  | .ok given => .ok { l with given := given, pending := .nothing, used := true }
  | .error refusal => .error (refusal.toStop o value)

def settle (l : Level) : Except Stop Level :=
  match l.pending with
  | .nothing => .ok l
  | .awaiting o => .error (.usage (.missingValue o.label))
  | .holding o taking value => l.take o taking value

def apply (l : Level) (o : Opt) (attached : Option String) : Except Stop Level := do
  match o.effect, attached with
  | .value taking, some value => (← l.settle).take o taking value
  | .value _, none => pure { ← l.settle with pending := .awaiting o }
  | _, some value => throw (.usage (.unexpectedValue o.label value))
  | .verbose, none => pure { ← l.settle with used := true }
  | .stop reason, none =>
    let _ ← l.settle
    throw reason

def readLong (l : Level) (body : List Char) : Except Stop Level :=
  let (name, attached) := match Text.splitFirst? (· = '=') body with
    | some (name, value) => (String.ofList name, some (String.ofList value))
    | none => (String.ofList body, none)
  match l.options.find? (·.long = name) with
  | some o => l.apply o attached
  | none => .error (.usage (.unknownArgument ("--" ++ name)))

def attachedValue? : List Char → Option String
  | [] => none
  | '=' :: value => some (.ofList value)
  | value => some (.ofList value)

def readShort (l : Level) : List Char → Except Stop Level
  | [] => .ok l
  | c :: rest =>
    match l.options.find? (·.short = some c) with
    | none => .error (.usage (.unknownArgument (.ofList ['-', c])))
    | some o =>
      match o.effect with
      | .value _ => l.apply o (attachedValue? rest)
      | _ => do readShort (← l.apply o none) rest

def readPlain (l : Level) (argument : String) : Except Stop Level :=
  match l.closed, l.pending with
  | false, .awaiting o =>
    match o.effect with
    | .value taking => .ok { l with pending := .holding o taking argument }
    | _ => .ok l
  | closed, _ =>
    if l.isTop && !(closed && (CommandName.read? argument).isSome) then
      .error (.usage (.unknownCommand argument))
    else .error (.usage (.unknownArgument argument))

def read (l : Level) (argument : String) : Except Stop Level :=
  if l.closed then l.readPlain argument
  else if argument = "--" then .ok { l with closed := true }
  else
    match argument.toList with
    | '-' :: '-' :: body => l.readLong body
    | '-' :: c :: body => l.readShort (c :: body)
    | _ => l.readPlain argument

def readAll (l : Level) : List String → Except Stop (Level × Option (String × List String))
  | [] => .ok (l, none)
  | argument :: rest =>
    let named := argument = "help" || (CommandName.read? argument).isSome
    if l.isTop && !l.closed && !l.isAwaiting && named then .ok (l, some (argument, rest))
    else do readAll (← l.read argument) rest

end Level

def askHelp : List String → Stop
  | [] => .help
  | name :: rest =>
    if name = "help" ∨ (CommandName.read? name).isSome then
      match rest with
      | [] => .help
      | other :: _ => .usage (.unknownCommand other)
    else .usage (.unknownCommand name)

def readCommand (name : CommandName) (arguments : List String) : Except Stop Invocation := do
  let (level, _) ← Level.readAll { options := name.options, isTop := false } arguments
  let given := (← level.settle).given
  match name.command? given with
  | some command => pure ⟨given.config, given.database, command⟩
  | none => throw (.usage .missingRequired)

/-- What is given behind the name of the command counts before what is given in front of it. -/
def Invocation.read (arguments : List String) : Except Stop Invocation := do
  let top : Level := { options := globalOptions ++ [versionOption], isTop := true }
  match ← top.readAll arguments with
  | (level, some (name, rest)) =>
    match CommandName.read? name with
    | none => throw (askHelp rest)
    | some name =>
      let invocation ← readCommand name rest
      let given := (← level.settle).given
      pure { invocation with
        config := invocation.config.or given.config
        database := invocation.database.or given.database }
  | (level, none) =>
    let level ← level.settle
    throw (.usage (if level.used then .missingCommand else .nothingAsked))

end SiteCache.Program
