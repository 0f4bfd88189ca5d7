import SiteCache.Product
import SiteCache.Program.Usage
import SiteCache.Query
import SiteCache.Text.Decimal

set_option autoImplicit false

namespace SiteCache.Program

structure Given where
  config : Option String := none
  database : Option String := none
  sites : List SiteId := []
  resource : Option ResourceKind := none
  stockStatus : Option StockStatus := none
  status : Option ProductStatus := none
  productType : Option ProductType := none
  sort : Option ProductSortOrder := none

inductive Refusal where
  | missing
  | repeated
  | invalid (reason : String)
  deriving DecidableEq, Repr

structure Taking where
  placeholder : String
  take : String → Given → Except Refusal Given

inductive Effect where
  | verbose
  | stop (reason : Stop)
  | value (taking : Taking)

structure Opt where
  long : String
  short : Option Char
  effect : Effect

def Opt.label (o : Opt) : String :=
  match o.effect with
  | .verbose => "--" ++ o.long ++ "..."
  | .stop _ => "--" ++ o.long
  | .value taking => "--" ++ o.long ++ " <" ++ taking.placeholder ++ ">"

def Refusal.toStop (o : Opt) (value : String) : Refusal → Stop
  | .missing => .usage (.missingValue o.label)
  | .repeated => .usage (.repeatedOption o.label)
  | .invalid reason => .usage (.invalidValue o.label value reason)

def once {α : Type} (placeholder : String) (get : Given → Option α) (set : Given → α → Given)
    (read : String → Except Refusal α) : Effect :=
  .value ⟨placeholder, fun s given =>
    if (get given).isSome then .error .repeated else (read s).map (set given)⟩

def readPath (s : String) : Except Refusal String :=
  if s.isEmpty then .error .missing else .ok s

def readSite (s : String) : Except Refusal SiteId :=
  match Text.readInt64 s.toList with
  | .ok n => .ok ⟨n⟩
  | .error e => .error (.invalid e.message)

def named {α : Type} (parse : String → Except DomainError α) (s : String) : Except Refusal α :=
  (parse s).mapError fun e => .invalid e.message

def helpOption : Opt := ⟨"help", some 'h', .stop .help⟩

def globalOptions : List Opt :=
  [⟨"verbose", some 'v', .verbose⟩,
    ⟨"config", some 'c', once "CONFIG" (·.config) ({ · with config := some · }) readPath⟩,
    ⟨"db", none, once "DB" (·.database) ({ · with database := some · }) readPath⟩,
    helpOption]

def versionOption : Opt := ⟨"version", some 'V', .stop .version⟩

def siteOption : Opt :=
  ⟨"site", some 's', once "SITE" (·.sites.head?) ({ · with sites := [·] }) readSite⟩

def sitesOption : Opt :=
  ⟨"site", some 's', .value ⟨"SITE", fun s given =>
    (readSite s).map fun site => { given with sites := given.sites ++ [site] }⟩⟩

def resourceOption : Opt :=
  ⟨"resource", some 'r', once "RESOURCE" (·.resource) ({ · with resource := some · })
    (named ResourceKind.parse)⟩

def productOptions : List Opt :=
  [⟨"stock-status", none, once "STOCK_STATUS" (·.stockStatus) ({ · with stockStatus := some · })
      (named StockStatus.parse)⟩,
    ⟨"status", none, once "STATUS" (·.status) ({ · with status := some · })
      (named ProductStatus.parse)⟩,
    ⟨"type", none, once "PRODUCT_TYPE" (·.productType) ({ · with productType := some · })
      (named ProductType.parse)⟩,
    ⟨"sort", none, once "SORT" (·.sort) ({ · with sort := some · })
      (named ProductSortOrder.parse)⟩]

end SiteCache.Program
