import TokenOverlay.Engine.Json
import TokenOverlay.Proofs.Fields

namespace TokenOverlay

/-!
What is stored comes back.  Every record of a snapshot is found again in its
JSON form, as long as its numbers keep to the widths in which they are stored:
heights and places to 32 bits, counts to 64 bits, amounts and times to 64
signed bits.
-/

open Amount (Fits)

/-! ## Properties and balances -/

namespace Property

/-- The numbers of a property keep to their widths. -/
def Storable (p : Property) : Prop := p.creationBlock < UInt32.size ∧ Fits p.totalTokens

instance (p : Property) : Decidable p.Storable := inferInstanceAs (Decidable (_ ∧ _))

theorem ofJson_toJson {p : Property} (storable : p.Storable) : ofJson p.toJson = some p := by
  rcases storable with ⟨block, total⟩
  unfold ofJson toJson
  refine Eq.trans (Json.bind_fields rfl (by decide)) ?_
  simp [Json.height?_ofNat block, Json.int64?_integer total, Ecosystem.ofJson_toJson,
    PropertyKind.ofJson_toJson, Description.ofJson_toJson]

end Property

namespace Balance

def Storable (b : Balance) : Prop := Fits b.available ∧ Fits b.reserved

instance (b : Balance) : Decidable b.Storable := inferInstanceAs (Decidable (_ ∧ _))

theorem ofJson_toJson {b : Balance} (storable : b.Storable) : ofJson b.toJson = some b := by
  rcases storable with ⟨available, reserved⟩
  unfold ofJson toJson
  refine Eq.trans (Json.bind_fields rfl (by decide)) ?_
  simp [Json.int64?_integer available, Json.int64?_integer reserved]

end Balance

/-! ## Sales and offers -/

namespace Crowdsale

def Storable (s : Crowdsale) : Prop :=
  Fits s.tokensPerUnit ∧ Fits s.deadline ∧ Fits s.tokensIssued ∧ Fits s.issuerTokens ∧
    ∀ block ∈ s.closeBlock, block < UInt32.size

instance (s : Crowdsale) : Decidable s.Storable := inferInstanceAs (Decidable (_ ∧ _))

theorem ofJson_toJson {s : Crowdsale} (storable : s.Storable) : ofJson s.toJson = some s := by
  rcases storable with ⟨rate, deadline, issued, issuer, closed⟩
  have closeTxid := Json.optional?_ofOption s.closeTxid (fun txid _ => Json.text?_text txid) nofun
  have closeBlock := Json.optional?_ofOption s.closeBlock
    (fun block given => Json.height?_ofNat (closed block given)) nofun
  unfold ofJson toJson
  refine Eq.trans (Json.bind_fields rfl (by decide)) ?_
  simp [Json.int64?_integer rate, Json.int64?_integer deadline, Json.int64?_integer issued,
    Json.int64?_integer issuer, closeTxid, closeBlock]

end Crowdsale

namespace Participation

def Storable (p : Participation) : Prop :=
  p.block < UInt32.size ∧ Fits p.amountPaid ∧ Fits p.participantTokens ∧ Fits p.issuerTokens

instance (p : Participation) : Decidable p.Storable := inferInstanceAs (Decidable (_ ∧ _))

theorem ofJson_toJson {p : Participation} (storable : p.Storable) : ofJson p.toJson = some p := by
  rcases storable with ⟨block, paid, participant, issuer⟩
  unfold ofJson toJson
  refine Eq.trans (Json.bind_fields rfl (by decide)) ?_
  simp [Json.height?_ofNat block, Json.int64?_integer paid, Json.int64?_integer participant,
    Json.int64?_integer issuer]

end Participation

namespace Offer

def Storable (o : Offer) : Prop :=
  Fits o.amountOffered ∧ Fits o.amountRemaining ∧ Fits o.desiredOffered ∧
    Fits o.desiredRemaining ∧ Fits o.minFee ∧ o.block < UInt32.size

instance (o : Offer) : Decidable o.Storable := inferInstanceAs (Decidable (_ ∧ _))

theorem ofJson_toJson {o : Offer} (storable : o.Storable) : ofJson o.toJson = some o := by
  rcases storable with ⟨offered, remaining, desired, desiredRemaining, fee, block⟩
  unfold ofJson toJson
  refine Eq.trans (Json.bind_fields rfl (by decide)) ?_
  simp [Json.int64?_integer offered, Json.int64?_integer remaining, Json.int64?_integer desired,
    Json.int64?_integer desiredRemaining, Json.int64?_integer fee, Json.height?_ofNat block]

end Offer

/-! ## Features and receipts -/

namespace Feature

def Storable (f : Feature) : Prop := f.activationBlock < UInt32.size

instance (f : Feature) : Decidable f.Storable := inferInstanceAs (Decidable (_ < _))

theorem ofJson_toJson {f : Feature} (storable : f.Storable) : ofJson f.toJson = some f := by
  unfold ofJson toJson
  refine Eq.trans (Json.bind_fields rfl (by decide)) ?_
  simp [Json.height?_ofNat storable]

end Feature

namespace Recipient

def Storable (r : Recipient) : Prop := Fits r.amount

instance (r : Recipient) : Decidable r.Storable := inferInstanceAs (Decidable (Fits _))

theorem ofJson_toJson {r : Recipient} (storable : r.Storable) : ofJson r.toJson = some r := by
  unfold ofJson toJson
  refine Eq.trans (Json.bind_fields rfl (by decide)) ?_
  simp [Json.int64?_integer storable]

end Recipient

namespace DistributionReceipt

def Storable (r : DistributionReceipt) : Prop :=
  r.block < UInt32.size ∧ Fits r.amount ∧ Fits r.fee ∧
    ∀ recipient ∈ r.recipients, recipient.Storable

instance (r : DistributionReceipt) : Decidable r.Storable := inferInstanceAs (Decidable (_ ∧ _))

theorem ofJson_toJson {r : DistributionReceipt} (storable : r.Storable) :
    ofJson r.toJson = some r := by
  rcases storable with ⟨block, amount, fee, each⟩
  have recipients := Json.list?_ofList fun recipient member =>
    Recipient.ofJson_toJson (each recipient member)
  unfold ofJson toJson
  refine Eq.trans (Json.bind_fields rfl (by decide)) ?_
  simp [Json.height?_ofNat block, Json.int64?_integer amount, Json.int64?_integer fee, recipients]

end DistributionReceipt

/-! ## Records of transactions -/

namespace Purchase

def Storable (p : Purchase) : Prop := Fits p.tokens ∧ Fits p.issuerTokens

instance (p : Purchase) : Decidable p.Storable := inferInstanceAs (Decidable (_ ∧ _))

theorem ofJson_toJson {p : Purchase} (storable : p.Storable) : ofJson p.toJson = some p := by
  rcases storable with ⟨tokens, issuer⟩
  unfold ofJson toJson
  refine Eq.trans (Json.bind_fields rfl (by decide)) ?_
  simp [Json.int64?_integer tokens, Json.int64?_integer issuer]

end Purchase

namespace SubSend

def Storable (s : SubSend) : Prop := Fits s.amount

instance (s : SubSend) : Decidable s.Storable := inferInstanceAs (Decidable (Fits _))

theorem ofJson_toJson {s : SubSend} (storable : s.Storable) : ofJson s.toJson = some s := by
  unfold ofJson toJson
  refine Eq.trans (Json.bind_fields rfl (by decide)) ?_
  simp [Json.int64?_integer storable]

end SubSend

namespace TxDetails

def Storable (d : TxDetails) : Prop :=
  (∀ purchase ∈ d.purchase, purchase.Storable) ∧ (∀ send ∈ d.subSends, send.Storable) ∧
    (∀ count ∈ d.distributionRecipients, count < UInt64.size) ∧
    ∀ fee ∈ d.distributionFee, Fits fee

instance (d : TxDetails) : Decidable d.Storable := inferInstanceAs (Decidable (_ ∧ _))

theorem memberOf_eq {α : Type} (name : String) (write : α → Json) (value : Option α) :
    memberOf name write value = (value.map write).toList.map fun json => (name, json) := by
  cases value <;> rfl

/-- What is left out of the details of a transaction is read as nothing. -/
theorem ofJson_toJson {d : TxDetails} (storable : d.Storable) : ofJson d.toJson = some d := by
  rcases storable with ⟨purchase, sends, recipients, fee⟩
  have members : d.toJson = .object (Json.given [
      ("created_property", d.createdProperty.map fun id => .ofNat id.toNat),
      ("purchase", d.purchase.map Purchase.toJson),
      ("sub_sends", if d.subSends = [] then .none
        else some (Json.ofList SubSend.toJson d.subSends)),
      ("sto_recipients", d.distributionRecipients.map .ofNat),
      ("sto_fee", d.distributionFee.map .integer)]) := by
    unfold toJson
    by_cases empty : d.subSends = [] <;> simp [memberOf_eq, Json.given, empty]
  have created := Json.optional?_map d.createdProperty (fun id _ => Json.uint32?_ofNat id) nofun
  have bought := Json.optional?_map d.purchase
    (fun p member => Purchase.ofJson_toJson (purchase p member)) fun _ => Json.object_ne_null _
  have sent : readSubSends (if d.subSends = [] then .none
      else some (Json.ofList SubSend.toJson d.subSends)) = some d.subSends := by
    by_cases empty : d.subSends = []
    · rw [if_pos empty, empty]
      rfl
    · rw [if_neg empty]
      exact Json.list?_ofList fun send member => SubSend.ofJson_toJson (sends send member)
  have reached := Json.optional?_map d.distributionRecipients
    (fun count member => Json.count?_ofNat (recipients count member)) nofun
  have charged := Json.optional?_map d.distributionFee
    (fun amount member => Json.int64?_integer (fee amount member)) nofun
  unfold ofJson
  rw [members]
  refine Eq.trans (Json.bind_given rfl (by decide)) ?_
  simp [created, bought, sent, reached, charged]

end TxDetails

namespace Payload

theorem readIssuance_members (i : Issuance) :
    readIssuance (some (.ofNat i.ecosystem.toNat)) (some (.ofNat i.propertyType.toNat))
      (some (.ofNat i.previousProperty.toNat)) (some i.description.toJson) = some i := by
  simp [readIssuance, Description.ofJson_toJson]

theorem readKind_members (payload : Payload) :
    readKind payload.kind (.object payload.members) = some payload := by
  cases payload <;> refine Eq.trans (Json.bind_fields rfl (by decide)) ?_
  case sendToOwners property amount distribution =>
    have given := Json.optional?_ofOption distribution (fun id _ => Json.uint32?_ofNat id) nofun
    simp [members, transferMembers, given]
  all_goals
    simp [members, transferMembers, issuanceMembers, readIssuance_members,
      OfferAction.ofJson_toJson]

theorem ofJson_toJson (payload : Payload) : ofJson payload.toJson = some payload := by
  have readable : Json.membersReadable payload.members = true := by
    cases payload with
    | sendToOwners property amount distribution => cases distribution <;> rfl
    | _ => rfl
  have different : "kind" ∉ payload.members.map Prod.fst := by
    cases payload <;> simp [members, transferMembers, issuanceMembers]
  unfold ofJson toJson
  rw [Json.variant?_object readable different]
  exact readKind_members payload

end Payload

namespace TxRecord

def Storable (r : TxRecord) : Prop :=
  r.blockHeight < UInt32.size ∧ Fits r.blockTime ∧ r.position < UInt32.size ∧ r.details.Storable

instance (r : TxRecord) : Decidable r.Storable := inferInstanceAs (Decidable (_ ∧ _))

theorem ofJson_toJson {r : TxRecord} (storable : r.Storable) : ofJson r.toJson = some r := by
  rcases storable with ⟨height, time, position, details⟩
  have reference := Json.optional?_ofOption r.reference (fun text _ => Json.text?_text text) nofun
  have type := Json.optional?_ofOption r.messageType (fun n _ => Json.uint16?_ofNat n) nofun
  have version := Json.optional?_ofOption r.version (fun n _ => Json.uint16?_ofNat n) nofun
  have reason := Json.optional?_ofOption r.invalidReason (fun text _ => Json.text?_text text) nofun
  have payload := Json.optional?_ofOption r.payload
    (fun payload _ => Payload.ofJson_toJson payload) fun _ => Json.object_ne_null _
  unfold ofJson toJson members
  refine Eq.trans (Json.bind_fields rfl (by decide)) ?_
  simp [Json.height?_ofNat height, Json.int64?_integer time, Json.height?_ofNat position,
    TxDetails.ofJson_toJson details, reference, type, version, reason, payload]

end TxRecord

/-! ## Undo entries -/

namespace UndoEntry

def Storable : UndoEntry → Prop
  | balance _ _ previous => previous.Storable
  | supply _ previous => Fits previous
  | crowdsale _ previous => ∀ sale ∈ previous, sale.Storable
  | offer _ _ previous => ∀ offer ∈ previous, offer.Storable
  | feature _ previous => ∀ feature ∈ previous, feature.Storable
  | _ => True

instance : DecidablePred Storable
  | balance _ _ previous => inferInstanceAs (Decidable previous.Storable)
  | supply _ previous => inferInstanceAs (Decidable (Fits previous))
  | propertyCreated .. => inferInstanceAs (Decidable True)
  | crowdsale _ previous => inferInstanceAs (Decidable (∀ sale ∈ previous, sale.Storable))
  | participation _ => inferInstanceAs (Decidable True)
  | offer _ _ previous => inferInstanceAs (Decidable (∀ offer ∈ previous, offer.Storable))
  | feature _ previous => inferInstanceAs (Decidable (∀ feature ∈ previous, feature.Storable))
  | receipt _ => inferInstanceAs (Decidable True)

theorem readKind_members {entry : UndoEntry} (storable : entry.Storable) :
    readKind entry.kind (.object entry.members) = some entry := by
  cases entry with
  | balance address property previous =>
      refine Eq.trans (Json.bind_fields rfl (by decide)) ?_
      simp [members, Balance.ofJson_toJson storable]
  | supply property previous =>
      refine Eq.trans (Json.bind_fields rfl (by decide)) ?_
      simp [members, Json.int64?_integer storable]
  | propertyCreated property ecosystem previousNextId =>
      refine Eq.trans (Json.bind_fields rfl (by decide)) ?_
      simp [members, Ecosystem.ofHeldJson_toJson]
  | crowdsale property previous =>
      have given := Json.optional?_ofOption previous
        (fun sale member => Crowdsale.ofJson_toJson (storable sale member))
        fun _ => Json.object_ne_null _
      refine Eq.trans (Json.bind_fields rfl (by decide)) ?_
      simp [members, given]
  | participation property =>
      refine Eq.trans (Json.bind_fields rfl (by decide)) ?_
      simp [members]
  | offer seller property previous =>
      have given := Json.optional?_ofOption previous
        (fun offer member => Offer.ofJson_toJson (storable offer member))
        fun _ => Json.object_ne_null _
      refine Eq.trans (Json.bind_fields rfl (by decide)) ?_
      simp [members, given]
  | feature id previous =>
      have given := Json.optional?_ofOption previous
        (fun feature member => Feature.ofJson_toJson (storable feature member))
        fun _ => Json.object_ne_null _
      refine Eq.trans (Json.bind_fields rfl (by decide)) ?_
      simp [members, given]
  | receipt txid =>
      refine Eq.trans (Json.bind_fields rfl (by decide)) ?_
      simp [members]

theorem readable_members (entry : UndoEntry) : Json.membersReadable entry.members = true := by
  cases entry with
  | crowdsale property previous =>
      rcases previous with _ | ⟨_, _, _, _, _, _, _, _, _, _, _, _, _, _ | _, _ | _⟩ <;> rfl
  | offer seller property previous => cases previous <;> rfl
  | feature id previous => cases previous <;> rfl
  | _ => rfl

theorem ofJson_toJson {entry : UndoEntry} (storable : entry.Storable) :
    ofJson entry.toJson = some entry := by
  have different : "op" ∉ entry.members.map Prod.fst := by cases entry <;> simp [members]
  unfold ofJson toJson
  rw [Json.variant?_object entry.readable_members different]
  exact readKind_members storable

end UndoEntry

namespace BlockUndo

def Storable (u : BlockUndo) : Prop :=
  u.height < UInt32.size ∧ ∀ entry ∈ u.entries, entry.Storable

instance (u : BlockUndo) : Decidable u.Storable := inferInstanceAs (Decidable (_ ∧ _))

/-- The entries are listed in the order in which they were noted, and read back newest first. -/
theorem logOfJson_logToJson {entries : List UndoEntry}
    (storable : ∀ entry ∈ entries, entry.Storable) :
    logOfJson (logToJson entries) = some entries := by
  have listed := Json.list?_ofList fun entry (member : entry ∈ entries.reverse) =>
    UndoEntry.ofJson_toJson (storable entry (List.mem_reverse.mp member))
  unfold logOfJson logToJson
  refine Eq.trans (Json.bind_fields rfl (by decide)) ?_
  simp [listed]

theorem ofJson_toJson {u : BlockUndo} (storable : u.Storable) : ofJson u.toJson = some u := by
  have txids := Json.list?_ofList fun txid (_ : txid ∈ u.txids) => Json.text?_text txid
  unfold ofJson toJson
  refine Eq.trans (Json.bind_fields rfl (by decide)) ?_
  simp [Json.height?_ofNat storable.1, logOfJson_logToJson storable.2, txids]

end BlockUndo

/-! ## States and snapshots -/

namespace SortedMap

variable {κ β : Type} [Ord κ]

/-- All values of a map have a property. -/
def Holds (map : SortedMap κ β) (holds : β → Prop) : Prop := ∀ entry ∈ map.entries, holds entry.2

instance (map : SortedMap κ β) (holds : β → Prop) [DecidablePred holds] :
    Decidable (map.Holds holds) := inferInstanceAs (Decidable (∀ entry ∈ map.entries, _))

end SortedMap

namespace Registry

theorem ofJson_toJson {r : Registry} (storable : r.properties.Holds Property.Storable) :
    ofJson r.toJson = some r := by
  have properties := Json.numberTable?_ofTable
    (fun entry _ => Json.uint32Key?_uint32Key entry.1)
    fun entry member => Property.ofJson_toJson (storable entry member)
  unfold ofJson toJson
  refine Eq.trans (Json.bind_fields rfl (by decide)) ?_
  simp [properties]

end Registry

namespace Ledger

theorem ofJson_toJson {l : Ledger}
    (storable : l.balances.Holds fun row => row.Holds Balance.Storable) :
    ofJson l.toJson = some l := by
  have balances := Json.table?_ofTable fun row member => Json.numberTable?_ofTable
    (fun entry _ => Json.uint32Key?_uint32Key entry.1)
    fun entry inRow => Balance.ofJson_toJson (storable row member entry inRow)
  unfold ofJson toJson
  refine Eq.trans (Json.bind_fields rfl (by decide)) ?_
  simp [balances]

end Ledger

namespace CrowdsaleBook

theorem ofJson_toJson {book : CrowdsaleBook} (storable : book.sales.Holds Crowdsale.Storable)
    (storableLists : book.participations.Holds fun list => ∀ p ∈ list, p.Storable) :
    ofJson book.toJson = some book := by
  have sales := Json.numberTable?_ofTable
    (fun entry _ => Json.uint32Key?_uint32Key entry.1)
    fun entry member => Crowdsale.ofJson_toJson (storable entry member)
  have participations := Json.numberTable?_ofTable
    (fun entry _ => Json.uint32Key?_uint32Key entry.1)
    fun entry member => Json.list?_ofList fun p listed =>
      Participation.ofJson_toJson (storableLists entry member p listed)
  unfold ofJson toJson
  refine Eq.trans (Json.bind_fields rfl (by decide)) ?_
  simp [sales, participations]

end CrowdsaleBook

namespace OrderBook

theorem ofJson_toJson {book : OrderBook}
    (storable : book.offers.Holds fun row => row.Holds Offer.Storable) :
    ofJson book.toJson = some book := by
  have offers := Json.table?_ofTable fun row member => Json.numberTable?_ofTable
    (fun entry _ => Json.uint32Key?_uint32Key entry.1)
    fun entry inRow => Offer.ofJson_toJson (storable row member entry inRow)
  unfold ofJson toJson
  refine Eq.trans (Json.bind_fields rfl (by decide)) ?_
  simp [offers]

end OrderBook

namespace FeatureTable

theorem ofJson_toJson {table : FeatureTable} (storable : table.features.Holds Feature.Storable) :
    ofJson table.toJson = some table := by
  have features := Json.numberTable?_ofTable
    (fun entry _ => Json.uint16Key?_uint16Key entry.1)
    fun entry member => Feature.ofJson_toJson (storable entry member)
  unfold ofJson toJson
  refine Eq.trans (Json.bind_fields rfl (by decide)) ?_
  simp [features]

end FeatureTable

namespace State

def Storable (s : State) : Prop :=
  s.registry.properties.Holds Property.Storable ∧
    s.ledger.balances.Holds (fun row => row.Holds Balance.Storable) ∧
    s.crowdsales.sales.Holds Crowdsale.Storable ∧
    s.crowdsales.participations.Holds (fun list => ∀ p ∈ list, p.Storable) ∧
    s.orders.offers.Holds (fun row => row.Holds Offer.Storable) ∧
    s.features.features.Holds Feature.Storable ∧
    s.receipts.Holds DistributionReceipt.Storable

instance (s : State) : Decidable s.Storable := inferInstanceAs (Decidable (_ ∧ _))

theorem ofJson_toJson {s : State} (storable : s.Storable) : ofJson s.toJson = some s := by
  rcases storable with ⟨properties, balances, sales, participations, offers, features, each⟩
  have receipts := Json.table?_ofTable fun entry member =>
    DistributionReceipt.ofJson_toJson (each entry member)
  unfold ofJson toJson parts
  refine Eq.trans (Json.bind_fields rfl (by decide)) ?_
  simp [Registry.ofJson_toJson properties, Ledger.ofJson_toJson balances,
    CrowdsaleBook.ofJson_toJson sales participations, OrderBook.ofJson_toJson offers,
    FeatureTable.ofJson_toJson features, receipts]

end State

namespace Tip

def Storable (t : Tip) : Prop := t.height < UInt32.size

instance (t : Tip) : Decidable t.Storable := inferInstanceAs (Decidable (_ < _))

theorem ofJson_toJson {t : Tip} (storable : t.Storable) : ofJson t.toJson = some t := by
  unfold ofJson toJson
  refine Eq.trans (Json.bind_fields rfl (by decide)) ?_
  simp [Json.height?_ofNat storable]

end Tip

namespace Snapshot

/-- All numbers of a snapshot keep to the widths in which they are stored. -/
def Storable (s : Snapshot) : Prop :=
  s.state.Storable ∧
    (∀ entry ∈ s.undoChain.entries, entry.1 < UInt32.size ∧ entry.2.Storable) ∧
    s.records.Holds TxRecord.Storable ∧ ∀ tip ∈ s.tip, tip.Storable

instance (s : Snapshot) : Decidable s.Storable := inferInstanceAs (Decidable (_ ∧ _))

theorem ofJson_toJson {s : Snapshot} (storable : s.Storable) : ofJson s.toJson = some s := by
  rcases storable with ⟨state, undos, each, newest⟩
  have undoChain := Json.numberTable?_ofTable
    (fun entry member => Json.natKey?_natText (undos entry member).1)
    fun entry member => BlockUndo.ofJson_toJson (undos entry member).2
  have records := Json.table?_ofTable fun entry member => TxRecord.ofJson_toJson (each entry member)
  have tip := Json.optional?_ofOption s.tip
    (fun tip member => Tip.ofJson_toJson (newest tip member)) fun _ => Json.object_ne_null _
  unfold ofJson toJson
  refine Eq.trans (Json.bind_fields rfl (by decide)) ?_
  simp [State.ofJson_toJson state, undoChain, records, tip]

end Snapshot
end TokenOverlay
