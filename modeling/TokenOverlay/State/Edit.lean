import TokenOverlay.State.Basic

namespace TokenOverlay

/-!
The state changes in eight ways only, each a write to one place of one table.
Every edit has an entry that says what was in that place before, and reverting
the entry puts it back.  Everything the protocol does to the state is a run of
edits, so undoing the entries newest first undoes whatever was done.
-/

/-- One write to the state. -/
inductive Edit where
  | balance (address : Address) (property : PropertyId) (next : Balance)
  | supply (property : PropertyId) (total : Int)
  /-- Register a new property and move on the numbering of its ecosystem. -/
  | register (property : Property) (nextId : PropertyId)
  | sale (sale : Crowdsale)
  | participation (property : PropertyId) (participation : Participation)
  | offer (seller : Address) (property : PropertyId) (offer : Option Offer)
  | feature (id : FeatureId) (feature : Option Feature)
  | receipt (receipt : DistributionReceipt)
deriving DecidableEq, Repr

/-- What takes one edit back. -/
inductive UndoEntry where
  | balance (address : Address) (property : PropertyId) (previous : Balance)
  | supply (property : PropertyId) (previous : Int)
  | propertyCreated (property : PropertyId) (ecosystem : Ecosystem) (previousNextId : PropertyId)
  | crowdsale (property : PropertyId) (previous : Option Crowdsale)
  | participation (property : PropertyId)
  | offer (seller : Address) (property : PropertyId) (previous : Option Offer)
  | feature (id : FeatureId) (previous : Option Feature)
  | receipt (txid : String)
deriving DecidableEq, Repr

namespace State

def withRegistry (s : State) (change : Registry → Registry) : State :=
  { s with registry := change s.registry }

def withLedger (s : State) (change : Ledger → Ledger) : State :=
  { s with ledger := change s.ledger }

def withCrowdsales (s : State) (change : CrowdsaleBook → CrowdsaleBook) : State :=
  { s with crowdsales := change s.crowdsales }

def withOrders (s : State) (change : OrderBook → OrderBook) : State :=
  { s with orders := change s.orders }

def withFeatures (s : State) (change : FeatureTable → FeatureTable) : State :=
  { s with features := change s.features }

/-- Make an edit. -/
def apply (s : State) : Edit → State
  | .balance address property next => s.withLedger fun l => l.write address property next
  | .supply property total => s.withRegistry fun r => r.withSupply property total
  | .register property nextId => s.withRegistry fun r =>
      { r.withNextId property.ecosystem nextId with
        properties := r.properties.insert property.id property }
  | .sale sale => s.withCrowdsales fun book => book.withSale sale.propertyId (some sale)
  | .participation property p => s.withCrowdsales fun book => book.addParticipation property p
  | .offer seller property offer => s.withOrders fun book => book.write seller property offer
  | .feature id feature => s.withFeatures fun table => table.withFeature id feature
  | .receipt receipt => { s with receipts := s.receipts.insert receipt.txid receipt }

/-- Take an edit back. -/
def revert (s : State) : UndoEntry → State
  | .balance address property previous =>
      s.withLedger fun l => l.write address property previous
  | .supply property previous => s.withRegistry fun r => r.withSupply property previous
  | .propertyCreated property ecosystem previousNextId => s.withRegistry fun r =>
      { r.withNextId ecosystem previousNextId with properties := r.properties.erase property }
  | .crowdsale property previous => s.withCrowdsales fun book => book.withSale property previous
  | .participation property => s.withCrowdsales fun book => book.dropParticipation property
  | .offer seller property previous =>
      s.withOrders fun book => book.write seller property previous
  | .feature id previous => s.withFeatures fun table => table.withFeature id previous
  | .receipt txid => { s with receipts := s.receipts.erase txid }

/-- Take back entries in the order of the list. -/
def revertAll (s : State) (entries : List UndoEntry) : State := entries.foldl revert s

/-- The entry that takes an edit back, noted before it is made. -/
def inverse (s : State) : Edit → UndoEntry
  | .balance address property _ => .balance address property (s.ledger.balance address property)
  | .supply property _ =>
      .supply property (((s.registry.get? property).map Property.totalTokens).getD 0)
  | .register property _ =>
      .propertyCreated property.id property.ecosystem (s.registry.nextId property.ecosystem)
  | .sale sale => .crowdsale sale.propertyId (s.crowdsales.get? sale.propertyId)
  | .participation property _ => .participation property
  | .offer seller property _ => .offer seller property (s.orders.get? seller property)
  | .feature id _ => .feature id (s.features.get? id)
  | .receipt receipt => .receipt receipt.txid

end State
end TokenOverlay
