import TokenOverlay.SortedMap.Basic
import TokenOverlay.Balance
import TokenOverlay.Property
import TokenOverlay.Offer
import TokenOverlay.Crowdsale.Basic
import TokenOverlay.Feature
import TokenOverlay.Distribution

namespace TokenOverlay

/-!
The state that the protocol derives from the chain: the registry of
properties, the ledger of balances, the crowdsales, the order book, the
features and the receipts of distributions.  This module holds the tables and
what can be read from them; they are changed through `Edit` only.
-/

abbrev Address := String

/-! ## Registry -/

structure Registry where
  properties : SortedMap PropertyId Property
  nextMainId : PropertyId
  nextTestId : PropertyId
deriving DecidableEq

namespace Registry

/-- The two protocol tokens, before anything was issued. -/
def initial : Registry where
  properties :=
    (SortedMap.empty.insert Ecosystem.mainToken (.protocolToken .main "Main Protocol Token")).insert
      Ecosystem.testToken (.protocolToken .test "Test Protocol Token")
  nextMainId := Ecosystem.main.firstId
  nextTestId := Ecosystem.test.firstId

def get? (r : Registry) (id : PropertyId) : Option Property := r.properties.get? id

def exists? (r : Registry) (id : PropertyId) : Bool := r.properties.contains id

/-- Unknown properties are shown as if they were divisible. -/
def isDivisible (r : Registry) (id : PropertyId) : Bool :=
  ((r.get? id).map Property.divisible).getD true

def list (r : Registry) : List Property := r.properties.values

/-- The number that the next property of an ecosystem gets. -/
def nextId (r : Registry) : Ecosystem → PropertyId
  | .main => r.nextMainId
  | .test => r.nextTestId

def withNextId (r : Registry) (ecosystem : Ecosystem) (id : PropertyId) : Registry :=
  match ecosystem with
  | .main => { r with nextMainId := id }
  | .test => { r with nextTestId := id }

/-- Change the supply of a property that exists. -/
def withSupply (r : Registry) (id : PropertyId) (total : Int) : Registry :=
  match r.get? id with
  | some p => { r with properties := r.properties.insert id { p with totalTokens := total } }
  | none => r

end Registry

/-! ## Ledger -/

structure Ledger where
  balances : SortedMap Address (SortedMap PropertyId Balance)
deriving DecidableEq

namespace Ledger

def empty : Ledger := ⟨.empty⟩

/-- What an address holds of one property. -/
def balance (l : Ledger) (address : Address) (property : PropertyId) : Balance :=
  ((l.balances.get? address).bind fun table => table.get? property).getD Balance.zero

def available (l : Ledger) (address : Address) (property : PropertyId) : Int :=
  (l.balance address property).available

def reserved (l : Ledger) (address : Address) (property : PropertyId) : Int :=
  (l.balance address property).reserved

/-- All that an address holds, by property. -/
def balancesOf (l : Ledger) (address : Address) : List (PropertyId × Balance) :=
  ((l.balances.get? address).map SortedMap.entries).getD []

/-- What an address can spend of the properties of one ecosystem. -/
def availableIn (l : Ledger) (address : Address) (ecosystem : Ecosystem) :
    List (PropertyId × Int) :=
  ((l.balancesOf address).filter fun entry =>
      Ecosystem.of entry.1 = some ecosystem && 0 < entry.2.available).map
    fun entry => (entry.1, entry.2.available)

/-- The addresses that can spend a property, and how much. -/
def holders (l : Ledger) (property : PropertyId) : List (Address × Int) :=
  l.balances.entries.filterMap fun (address, table) =>
    ((table.get? property).filter fun b => 0 < b.available).map fun b => (address, b.available)

/-- The sum of all that is held of a property. -/
def totalFor (l : Ledger) (property : PropertyId) : Int :=
  Amount.total ((l.balances.values.filterMap fun table => table.get? property).map
    fun b => b.available + b.reserved)

/-- The properties of which something is held, each once and ascending. -/
def knownProperties (l : Ledger) : List PropertyId :=
  (l.balances.values.flatMap SortedMap.keys).foldl
    (fun (ids : SortedMap PropertyId Unit) id => ids.insert id ()) .empty |>.keys

/-- Store a balance; balances of nothing, and addresses without balances, are not kept. -/
def write (l : Ledger) (address : Address) (property : PropertyId) (b : Balance) : Ledger :=
  if b.isEmpty then
    match l.balances.get? address with
    | none => l
    | some table =>
        let table := table.erase property
        if table.isEmpty then ⟨l.balances.erase address⟩ else ⟨l.balances.insert address table⟩
  else ⟨l.balances.insert address (((l.balances.get? address).getD .empty).insert property b)⟩

end Ledger

/-! ## Crowdsales -/

structure CrowdsaleBook where
  sales : SortedMap PropertyId Crowdsale
  participations : SortedMap PropertyId (List Participation)
deriving DecidableEq

namespace CrowdsaleBook

def empty : CrowdsaleBook := ⟨.empty, .empty⟩

def get? (book : CrowdsaleBook) (property : PropertyId) : Option Crowdsale :=
  book.sales.get? property

def all (book : CrowdsaleBook) : List Crowdsale := book.sales.values

def active (book : CrowdsaleBook) : List Crowdsale := book.all.filter Crowdsale.active

/-- The sale an issuer runs at the moment. -/
def activeOf? (book : CrowdsaleBook) (issuer : Address) : Option Crowdsale :=
  book.active.find? fun sale => sale.issuer = issuer

/-- The contributions to a sale, oldest first. -/
def participationsOf (book : CrowdsaleBook) (property : PropertyId) : List Participation :=
  (book.participations.get? property).getD []

/-- The sale that a payment of some property to a recipient contributes to. -/
def target? (book : CrowdsaleBook) (recipient : Address) (property : PropertyId) :
    Option Crowdsale :=
  (book.activeOf? recipient).filter fun sale => sale.desiredProperty = property

def withSale (book : CrowdsaleBook) (property : PropertyId) (sale : Option Crowdsale) :
    CrowdsaleBook :=
  { book with sales := book.sales.assign property sale }

def addParticipation (book : CrowdsaleBook) (property : PropertyId) (p : Participation) :
    CrowdsaleBook :=
  { book with
    participations := book.participations.insert property (book.participationsOf property ++ [p]) }

/-- Take back the latest contribution to a sale. -/
def dropParticipation (book : CrowdsaleBook) (property : PropertyId) : CrowdsaleBook :=
  match book.participations.get? property with
  | none => book
  | some list =>
      let list := list.dropLast
      { book with
        participations :=
          if list.isEmpty then book.participations.erase property
          else book.participations.insert property list }

end CrowdsaleBook

/-! ## Order book -/

structure OrderBook where
  offers : SortedMap Address (SortedMap PropertyId Offer)
deriving DecidableEq

namespace OrderBook

def empty : OrderBook := ⟨.empty⟩

def get? (book : OrderBook) (seller : Address) (property : PropertyId) : Option Offer :=
  (book.offers.get? seller).bind fun table => table.get? property

/-- The open offers, by seller and then by property. -/
def all (book : OrderBook) : List Offer := book.offers.values.flatMap SortedMap.values

/-- Store or remove an offer; sellers without offers are not kept. -/
def write (book : OrderBook) (seller : Address) (property : PropertyId) :
    Option Offer → OrderBook
  | some offer =>
      ⟨book.offers.insert seller (((book.offers.get? seller).getD .empty).insert property offer)⟩
  | none =>
      match book.offers.get? seller with
      | none => book
      | some table =>
          let table := table.erase property
          if table.isEmpty then ⟨book.offers.erase seller⟩ else ⟨book.offers.insert seller table⟩

end OrderBook

/-! ## Features -/

structure FeatureTable where
  features : SortedMap FeatureId Feature
deriving DecidableEq

namespace FeatureTable

def empty : FeatureTable := ⟨.empty⟩

def get? (table : FeatureTable) (id : FeatureId) : Option Feature := table.features.get? id

def all (table : FeatureTable) : List Feature := table.features.values

def completed (table : FeatureTable) : List Feature := table.all.filter Feature.completed

def pending (table : FeatureTable) : List Feature :=
  table.all.filter fun feature => !feature.completed

def isActive (table : FeatureTable) (id : FeatureId) : Bool :=
  ((table.get? id).map Feature.completed).getD false

def withFeature (table : FeatureTable) (id : FeatureId) (feature : Option Feature) :
    FeatureTable :=
  ⟨table.features.assign id feature⟩

end FeatureTable

/-! ## The whole state -/

structure State where
  registry : Registry
  ledger : Ledger
  crowdsales : CrowdsaleBook
  orders : OrderBook
  features : FeatureTable
  receipts : SortedMap String DistributionReceipt
deriving DecidableEq

namespace State

def initial : State where
  registry := .initial
  ledger := .empty
  crowdsales := .empty
  orders := .empty
  features := .empty
  receipts := .empty

instance : Inhabited State := ⟨initial⟩

/-- The properties whose registered supply is not the sum of their balances, and the balances
of properties that are not registered, each in words. -/
def supplyMismatches (s : State) : List String :=
  ((s.registry.list.filter fun p => p.totalTokens ≠ s.ledger.totalFor p.id).map fun p =>
      s!"property {p.id.toNat} registers {p.totalTokens} but " ++
        s!"balances sum to {s.ledger.totalFor p.id}")
    ++ ((s.ledger.knownProperties.filter fun id => !s.registry.exists? id).map fun id =>
      s!"balances exist for unknown property {id.toNat}")

end State
end TokenOverlay
