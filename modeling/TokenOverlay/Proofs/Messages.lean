import TokenOverlay.Proofs.Wire

namespace TokenOverlay

/-!
Messages and their bytes.  Every kind of message has its layout: fields of fixed
widths, and in some kinds texts between them.  Bytes are read as a message
exactly when they start with its header and its layout, and only the texts can
be spelled in several ways, because bytes that are not UTF-8 are read too.
-/

namespace Payload

/-- The texts of a message, in the order they are written in. -/
def texts : Payload → List String
  | issueFixed issuance _ => Wire.textsOf issuance.description
  | issueCrowdsale issuance .. => Wire.textsOf issuance.description
  | issueManaged issuance => Wire.textsOf issuance.description
  | grant _ _ memo => [memo]
  | revoke _ _ memo => [memo]
  | _ => []

/-- The versions in which a message can be read. -/
def versions : Payload → List UInt16
  | sendToOwners _ _ (some _) => [1]
  | sellOffer .. => [0, 1]
  | deactivate .. => [controlVersion]
  | activate .. => [controlVersion]
  | _ => [0]

end Payload

namespace Wire

/-- The fields of a message before its texts. -/
def leading : Payload → Bytes
  | .issueFixed issuance _ => issuanceHead issuance
  | .issueCrowdsale issuance .. => issuanceHead issuance
  | .issueManaged issuance => issuanceHead issuance
  | .grant property amount _ => uint32 property ++ uint64 amount
  | .revoke property amount _ => uint32 property ++ uint64 amount
  | payload => body payload

/-- The fields of a message behind its texts. -/
def trailing : Payload → Bytes
  | .issueFixed _ amount => uint64 amount
  | .issueCrowdsale _ desired tokensPerUnit deadline earlyBonus issuerPercent =>
      uint32 desired ++ uint64 tokensPerUnit ++ uint64 deadline ++ uint8 earlyBonus ++
        uint8 issuerPercent
  | _ => []

/-- The fields of a message with these bytes in the places of its texts. -/
def spelled (payload : Payload) (raws : List Bytes) : Bytes :=
  leading payload ++ terminated raws ++ trailing payload

/-- From the one cursor to the other, exactly the fields of a message are passed. -/
def Carries (cursor : Cursor) (payload : Payload) (after : Cursor) : Prop :=
  ∃ raws, List.Forall₂ Spells raws payload.texts ∧ cursor.Passes (spelled payload raws) after

variable {cursor after : Cursor} {payload : Payload}

theorem carries_of_textless (textless : payload.texts = []) (leads : leading payload = body payload)
    (ends : trailing payload = []) :
    Carries cursor payload after ↔ cursor.Passes (body payload) after := by
  have alone : spelled payload [] = body payload := by
    rw [spelled, leads, ends, terminated_nil, List.append_nil, List.append_nil]
  rw [Carries, textless]
  constructor
  · rintro ⟨raws, spells, passes⟩
    cases spells
    rwa [alone] at passes
  · intro passes
    exact ⟨[], .nil, by rwa [alone]⟩

/-! ## One layout at a time -/

/-- The layout of a single number. -/
theorem readSingle_eq_ok {α : Type} {reader : Reader α} {write : α → Bytes} {make : α → Payload}
    (number : ∀ {cursor after value},
      reader cursor = .ok (value, after) ↔ cursor.Passes (write value) after)
    (written : ∀ value, Carries cursor (make value) after ↔ cursor.Passes (write value) after) :
    (do return make (← reader) : Reader Payload) cursor = .ok (payload, after) ↔
      ∃ value, payload = make value ∧ Carries cursor payload after := by
  simp only [bind_eq_ok, pure_eq_ok, number]
  constructor
  · rintro ⟨value, c₁, passes, rfl, rfl⟩
    exact ⟨value, rfl, (written value).mpr passes⟩
  · rintro ⟨value, rfl, carries⟩
    exact ⟨value, after, (written value).mp carries, rfl, rfl⟩

theorem readBody_sendAll :
    readBody 4 0 cursor = .ok (payload, after) ↔
      ∃ ecosystem, payload = .sendAll ecosystem ∧ Carries cursor payload after :=
  readSingle_eq_ok readUInt8_eq_ok fun _ => carries_of_textless rfl rfl rfl

theorem readBody_closeCrowdsale :
    readBody 53 0 cursor = .ok (payload, after) ↔
      ∃ property, payload = .closeCrowdsale property ∧ Carries cursor payload after :=
  readSingle_eq_ok readUInt32_eq_ok fun _ => carries_of_textless rfl rfl rfl

theorem readBody_deactivate :
    readBody 65533 65535 cursor = .ok (payload, after) ↔
      ∃ feature, payload = .deactivate feature ∧ Carries cursor payload after :=
  readSingle_eq_ok readUInt16_eq_ok fun _ => carries_of_textless rfl rfl rfl

/-- The layout of a property and an amount. -/
theorem readAmount_eq_ok {make : PropertyId → UInt64 → Payload}
    (written : ∀ property amount, Carries cursor (make property amount) after ↔
      cursor.Passes (uint32 property ++ uint64 amount) after) :
    (do return make (← readUInt32 "property") (← readUInt64 "amount") : Reader Payload) cursor =
        .ok (payload, after) ↔
      ∃ property amount, payload = make property amount ∧ Carries cursor payload after := by
  simp only [bind_eq_ok, pure_eq_ok, readUInt32_eq_ok, readUInt64_eq_ok]
  constructor
  · rintro ⟨property, c₁, passes₁, amount, c₂, passes₂, rfl, rfl⟩
    exact ⟨property, amount, rfl, (written property amount).mpr (passes₁.append passes₂)⟩
  · rintro ⟨property, amount, rfl, carries⟩
    rw [written, Cursor.passes_append] at carries
    rcases carries with ⟨c₁, passes₁, passes₂⟩
    exact ⟨property, c₁, passes₁, amount, after, passes₂, rfl, rfl⟩

theorem readBody_simpleSend :
    readBody 0 0 cursor = .ok (payload, after) ↔
      ∃ property amount, payload = .simpleSend property amount ∧ Carries cursor payload after :=
  readAmount_eq_ok fun _ _ => carries_of_textless rfl rfl rfl

theorem readBody_acceptOffer :
    readBody 22 0 cursor = .ok (payload, after) ↔
      ∃ property amount, payload = .acceptOffer property amount ∧ Carries cursor payload after :=
  readAmount_eq_ok fun _ _ => carries_of_textless rfl rfl rfl

theorem readBody_sendToOwners :
    readBody 3 0 cursor = .ok (payload, after) ↔
      ∃ property amount, payload = .sendToOwners property amount none ∧
        Carries cursor payload after := by
  apply readAmount_eq_ok
  intro property amount
  rw [carries_of_textless rfl rfl rfl, body, Option.map_none, Option.getD_none, List.append_nil]

theorem readBody_sendToOwnersOf :
    readBody 3 1 cursor = .ok (payload, after) ↔
      ∃ property amount distribution, payload = .sendToOwners property amount (some distribution) ∧
        Carries cursor payload after := by
  have layout : readBody 3 1 = (do
      return .sendToOwners (← readUInt32 "property") (← readUInt64 "amount")
        (some (← readUInt32 "distribution property"))) := rfl
  simp only [layout, bind_eq_ok, pure_eq_ok, readUInt32_eq_ok, readUInt64_eq_ok]
  constructor
  · rintro ⟨property, c₁, passes₁, amount, c₂, passes₂, distribution, c₃, passes₃, rfl, rfl⟩
    refine ⟨property, amount, distribution, rfl, (carries_of_textless rfl rfl rfl).mpr ?_⟩
    exact (passes₁.append passes₂).append passes₃
  · rintro ⟨property, amount, distribution, rfl, carries⟩
    rw [carries_of_textless rfl rfl rfl, body] at carries
    simp only [Cursor.passes_append, Option.map_some, Option.getD_some] at carries
    rcases carries with ⟨c₂, ⟨c₁, passes₁, passes₂⟩, passes₃⟩
    exact ⟨property, c₁, passes₁, amount, c₂, passes₂, distribution, after, passes₃, rfl, rfl⟩

/-- Offers have one layout in both of their versions. -/
theorem readBody_sellOffer {version : UInt16} (known : version ∈ [0, 1]) :
    readBody 20 version cursor = .ok (payload, after) ↔
      ∃ property amount desired timeLimit minFee action,
        payload = .sellOffer property amount desired timeLimit minFee action ∧
          Carries cursor payload after := by
  have layout : readBody 20 version = (do
      return .sellOffer (← readUInt32 "property") (← readUInt64 "amount") (← readUInt64 "desired")
        (← readUInt8 "time limit") (← readUInt64 "min fee") (← readAction)) := by
    simp only [List.mem_cons, List.not_mem_nil, or_false] at known
    rcases known with rfl | rfl <;> rfl
  simp only [layout, bind_eq_ok, pure_eq_ok, readUInt32_eq_ok, readUInt64_eq_ok, readUInt8_eq_ok,
    readAction_eq_ok]
  constructor
  · rintro ⟨property, c₁, passes₁, amount, c₂, passes₂, desired, c₃, passes₃, timeLimit, c₄,
      passes₄, minFee, c₅, passes₅, action, c₆, passes₆, rfl, rfl⟩
    refine ⟨property, amount, desired, timeLimit, minFee, action, rfl, ?_⟩
    apply (carries_of_textless rfl rfl rfl).mpr
    exact ((((passes₁.append passes₂).append passes₃).append passes₄).append passes₅).append passes₆
  · rintro ⟨property, amount, desired, timeLimit, minFee, action, rfl, carries⟩
    rw [carries_of_textless rfl rfl rfl, body] at carries
    simp only [Cursor.passes_append] at carries
    rcases carries with ⟨c₅, ⟨c₄, ⟨c₃, ⟨c₂, ⟨c₁, passes₁, passes₂⟩, passes₃⟩, passes₄⟩, passes₅⟩,
      passes₆⟩
    exact ⟨property, c₁, passes₁, amount, c₂, passes₂, desired, c₃, passes₃, timeLimit, c₄, passes₄,
      minFee, c₅, passes₅, action, after, passes₆, rfl, rfl⟩

theorem readBody_issueFixed :
    readBody 50 0 cursor = .ok (payload, after) ↔
      ∃ issuance amount, payload = .issueFixed issuance amount ∧ Carries cursor payload after := by
  have layout : readBody 50 0 = (do
      return .issueFixed (← readIssuance) (← readUInt64 "amount")) := rfl
  simp only [layout, bind_eq_ok, pure_eq_ok, readIssuance_eq_ok, readUInt64_eq_ok]
  constructor
  · rintro ⟨issuance, c₁, ⟨raws, spells, passes₁⟩, amount, c₂, passes₂, rfl, rfl⟩
    exact ⟨issuance, amount, rfl, raws, spells, passes₁.append passes₂⟩
  · rintro ⟨issuance, amount, rfl, raws, spells, passes⟩
    rcases Cursor.passes_append.mp passes with ⟨c₁, passes₁, passes₂⟩
    exact ⟨issuance, c₁, ⟨raws, spells, passes₁⟩, amount, after, passes₂, rfl, rfl⟩

theorem readBody_issueCrowdsale :
    readBody 51 0 cursor = .ok (payload, after) ↔
      ∃ issuance desired tokensPerUnit deadline earlyBonus issuerPercent,
        payload = .issueCrowdsale issuance desired tokensPerUnit deadline earlyBonus issuerPercent ∧
          Carries cursor payload after := by
  have layout : readBody 51 0 = (do
      return .issueCrowdsale (← readIssuance) (← readUInt32 "desired property")
        (← readUInt64 "tokens per unit") (← readUInt64 "deadline") (← readUInt8 "early bonus")
        (← readUInt8 "issuer percent")) := rfl
  simp only [layout, bind_eq_ok, pure_eq_ok, readIssuance_eq_ok, readUInt32_eq_ok,
    readUInt64_eq_ok, readUInt8_eq_ok]
  constructor
  · rintro ⟨issuance, c₁, ⟨raws, spells, passes₁⟩, desired, c₂, passes₂, tokensPerUnit, c₃, passes₃,
      deadline, c₄, passes₄, earlyBonus, c₅, passes₅, issuerPercent, c₆, passes₆, rfl, rfl⟩
    refine ⟨issuance, desired, tokensPerUnit, deadline, earlyBonus, issuerPercent, rfl, raws,
      spells, passes₁.append ?_⟩
    exact (((passes₂.append passes₃).append passes₄).append passes₅).append passes₆
  · rintro ⟨issuance, desired, tokensPerUnit, deadline, earlyBonus, issuerPercent, rfl, raws,
      spells, passes⟩
    rcases Cursor.passes_append.mp passes with ⟨c₁, passes₁, rest⟩
    simp only [trailing, Cursor.passes_append] at rest
    rcases rest with ⟨c₅, ⟨c₄, ⟨c₃, ⟨c₂, passes₂, passes₃⟩, passes₄⟩, passes₅⟩, passes₆⟩
    exact ⟨issuance, c₁, ⟨raws, spells, passes₁⟩, desired, c₂, passes₂, tokensPerUnit, c₃, passes₃,
      deadline, c₄, passes₄, earlyBonus, c₅, passes₅, issuerPercent, after, passes₆, rfl, rfl⟩

theorem readBody_issueManaged :
    readBody 54 0 cursor = .ok (payload, after) ↔
      ∃ issuance, payload = .issueManaged issuance ∧ Carries cursor payload after := by
  have layout : readBody 54 0 = (do return .issueManaged (← readIssuance)) := rfl
  simp only [layout, bind_eq_ok, pure_eq_ok, readIssuance_eq_ok]
  constructor
  · rintro ⟨issuance, c₁, ⟨raws, spells, passes⟩, rfl, rfl⟩
    exact ⟨issuance, rfl, raws, spells, passes.append (Cursor.passes_nil.mpr rfl)⟩
  · rintro ⟨issuance, rfl, raws, spells, passes⟩
    rcases Cursor.passes_append.mp passes with ⟨c₁, passes, none⟩
    rcases Cursor.passes_nil.mp none with rfl
    exact ⟨issuance, after, ⟨raws, spells, passes⟩, rfl, rfl⟩

/-- The layout of a property, an amount and a memo. -/
theorem readMemo_eq_ok {make : PropertyId → UInt64 → String → Payload}
    (texts : ∀ property amount memo, (make property amount memo).texts = [memo])
    (written : ∀ property amount memo raws, spelled (make property amount memo) raws =
      uint32 property ++ uint64 amount ++ terminated raws) :
    (do return make (← readUInt32 "property") (← readUInt64 "amount") (← readText "memo") :
        Reader Payload) cursor = .ok (payload, after) ↔
      ∃ property amount memo, payload = make property amount memo ∧
        Carries cursor payload after := by
  simp only [bind_eq_ok, pure_eq_ok, readUInt32_eq_ok, readUInt64_eq_ok, readText_eq_ok]
  constructor
  · rintro ⟨property, c₁, passes₁, amount, c₂, passes₂, memo, c₃, ⟨raw, spells, passes₃⟩, rfl, rfl⟩
    refine ⟨property, amount, memo, rfl, [raw], ?_, ?_⟩
    · rw [texts]
      exact .cons spells .nil
    · rw [written, terminated_cons, terminated_nil, List.append_nil]
      exact (passes₁.append passes₂).append passes₃
  · rintro ⟨property, amount, memo, rfl, raws, spells, passes⟩
    rw [texts] at spells
    rcases spells with _ | ⟨spells, _ | _⟩
    rw [written, terminated_cons, terminated_nil, List.append_nil] at passes
    rcases Cursor.passes_append.mp passes with ⟨c₂, head, passes₃⟩
    rcases Cursor.passes_append.mp head with ⟨c₁, passes₁, passes₂⟩
    exact ⟨property, c₁, passes₁, amount, c₂, passes₂, memo, after, ⟨_, spells, passes₃⟩, rfl, rfl⟩

theorem readBody_grant :
    readBody 55 0 cursor = .ok (payload, after) ↔
      ∃ property amount memo, payload = .grant property amount memo ∧
        Carries cursor payload after :=
  readMemo_eq_ok (fun _ _ _ => rfl) (fun _ _ _ _ => List.append_nil _)

theorem readBody_revoke :
    readBody 56 0 cursor = .ok (payload, after) ↔
      ∃ property amount memo, payload = .revoke property amount memo ∧
        Carries cursor payload after :=
  readMemo_eq_ok (fun _ _ _ => rfl) (fun _ _ _ _ => List.append_nil _)

theorem readBody_activate :
    readBody 65534 65535 cursor = .ok (payload, after) ↔
      ∃ feature block clientVersion, payload = .activate feature block clientVersion ∧
        Carries cursor payload after := by
  have layout : readBody 65534 65535 = (do
      return .activate (← readUInt16 "feature id") (← readUInt32 "activation block")
        (← readUInt32 "min client version")) := rfl
  simp only [layout, bind_eq_ok, pure_eq_ok, readUInt16_eq_ok, readUInt32_eq_ok]
  constructor
  · rintro ⟨feature, c₁, passes₁, block, c₂, passes₂, clientVersion, c₃, passes₃, rfl, rfl⟩
    refine ⟨feature, block, clientVersion, rfl, (carries_of_textless rfl rfl rfl).mpr ?_⟩
    exact (passes₁.append passes₂).append passes₃
  · rintro ⟨feature, block, clientVersion, rfl, carries⟩
    rw [carries_of_textless rfl rfl rfl, body] at carries
    simp only [Cursor.passes_append] at carries
    rcases carries with ⟨c₂, ⟨c₁, passes₁, passes₂⟩, passes₃⟩
    exact ⟨feature, c₁, passes₁, block, c₂, passes₂, clientVersion, after, passes₃, rfl, rfl⟩

/-! ## All layouts -/

/-- The types and versions in which there are messages. -/
def layouts : List (UInt16 × UInt16) :=
  [(0, 0), (3, 0), (3, 1), (4, 0), (20, 0), (20, 1), (22, 0), (50, 0), (51, 0), (53, 0), (54, 0),
    (55, 0), (56, 0), (65533, 65535), (65534, 65535)]

theorem mem_layouts {type version : UInt16}
    (read : readBody type version cursor = .ok (payload, after)) : (type, version) ∈ layouts := by
  have numbers : (type.toNat, version.toNat) ∈
      layouts.map fun layout => (layout.1.toNat, layout.2.toNat) := by
    generalize made : readBody type version = reader at read
    unfold readBody at made
    split at made
    case h_16 =>
      subst made
      cases read
    all_goals
      next typeIs versionIs =>
      rw [typeIs, versionIs]
      decide
  rcases List.mem_map.mp numbers with ⟨⟨type', version'⟩, member, same⟩
  rw [Prod.mk.injEq, UInt16.toNat_inj, UInt16.toNat_inj] at same
  rcases same with ⟨rfl, rfl⟩
  exact member

theorem readBody_sound {type version : UInt16}
    (read : readBody type version cursor = .ok (payload, after)) :
    type = payload.messageType ∧ version ∈ payload.versions ∧ Carries cursor payload after := by
  have member := mem_layouts read
  simp only [layouts, List.mem_cons, List.not_mem_nil, or_false, Prod.mk.injEq] at member
  rcases member with ⟨rfl, rfl⟩ | ⟨rfl, rfl⟩ | ⟨rfl, rfl⟩ | ⟨rfl, rfl⟩ | ⟨rfl, rfl⟩ | ⟨rfl, rfl⟩ |
    ⟨rfl, rfl⟩ | ⟨rfl, rfl⟩ | ⟨rfl, rfl⟩ | ⟨rfl, rfl⟩ | ⟨rfl, rfl⟩ | ⟨rfl, rfl⟩ | ⟨rfl, rfl⟩ |
    ⟨rfl, rfl⟩ | ⟨rfl, rfl⟩
  · rcases readBody_simpleSend.mp read with ⟨property, amount, rfl, carries⟩
    exact ⟨rfl, List.mem_singleton_self _, carries⟩
  · rcases readBody_sendToOwners.mp read with ⟨property, amount, rfl, carries⟩
    exact ⟨rfl, List.mem_singleton_self _, carries⟩
  · rcases readBody_sendToOwnersOf.mp read with ⟨property, amount, distribution, rfl, carries⟩
    exact ⟨rfl, List.mem_singleton_self _, carries⟩
  · rcases readBody_sendAll.mp read with ⟨ecosystem, rfl, carries⟩
    exact ⟨rfl, List.mem_singleton_self _, carries⟩
  · rcases (readBody_sellOffer (.head _)).mp read with ⟨_, _, _, _, _, _, rfl, carries⟩
    exact ⟨rfl, .head _, carries⟩
  · rcases (readBody_sellOffer (.tail _ (.head _))).mp read with ⟨_, _, _, _, _, _, rfl, carries⟩
    exact ⟨rfl, .tail _ (.head _), carries⟩
  · rcases readBody_acceptOffer.mp read with ⟨property, amount, rfl, carries⟩
    exact ⟨rfl, List.mem_singleton_self _, carries⟩
  · rcases readBody_issueFixed.mp read with ⟨issuance, amount, rfl, carries⟩
    exact ⟨rfl, List.mem_singleton_self _, carries⟩
  · rcases readBody_issueCrowdsale.mp read with ⟨_, _, _, _, _, _, rfl, carries⟩
    exact ⟨rfl, List.mem_singleton_self _, carries⟩
  · rcases readBody_closeCrowdsale.mp read with ⟨property, rfl, carries⟩
    exact ⟨rfl, List.mem_singleton_self _, carries⟩
  · rcases readBody_issueManaged.mp read with ⟨issuance, rfl, carries⟩
    exact ⟨rfl, List.mem_singleton_self _, carries⟩
  · rcases readBody_grant.mp read with ⟨property, amount, memo, rfl, carries⟩
    exact ⟨rfl, List.mem_singleton_self _, carries⟩
  · rcases readBody_revoke.mp read with ⟨property, amount, memo, rfl, carries⟩
    exact ⟨rfl, List.mem_singleton_self _, carries⟩
  · rcases readBody_deactivate.mp read with ⟨feature, rfl, carries⟩
    exact ⟨rfl, List.mem_singleton_self _, carries⟩
  · rcases readBody_activate.mp read with ⟨feature, block, clientVersion, rfl, carries⟩
    exact ⟨rfl, List.mem_singleton_self _, carries⟩

theorem readBody_complete {version : UInt16} (taken : version ∈ payload.versions)
    (carries : Carries cursor payload after) :
    readBody payload.messageType version cursor = .ok (payload, after) := by
  cases payload with
  | simpleSend property amount =>
      rcases List.mem_singleton.mp taken with rfl
      exact readBody_simpleSend.mpr ⟨property, amount, rfl, carries⟩
  | sendToOwners property amount distribution =>
      rcases distribution with _ | distribution
      · rcases List.mem_singleton.mp taken with rfl
        exact readBody_sendToOwners.mpr ⟨property, amount, rfl, carries⟩
      · rcases List.mem_singleton.mp taken with rfl
        exact readBody_sendToOwnersOf.mpr ⟨property, amount, distribution, rfl, carries⟩
  | sendAll ecosystem =>
      rcases List.mem_singleton.mp taken with rfl
      exact readBody_sendAll.mpr ⟨ecosystem, rfl, carries⟩
  | sellOffer property amount desired timeLimit minFee action =>
      exact (readBody_sellOffer taken).mpr
        ⟨property, amount, desired, timeLimit, minFee, action, rfl, carries⟩
  | acceptOffer property amount =>
      rcases List.mem_singleton.mp taken with rfl
      exact readBody_acceptOffer.mpr ⟨property, amount, rfl, carries⟩
  | issueFixed issuance amount =>
      rcases List.mem_singleton.mp taken with rfl
      exact readBody_issueFixed.mpr ⟨issuance, amount, rfl, carries⟩
  | issueCrowdsale issuance desired tokensPerUnit deadline earlyBonus issuerPercent =>
      rcases List.mem_singleton.mp taken with rfl
      exact readBody_issueCrowdsale.mpr
        ⟨issuance, desired, tokensPerUnit, deadline, earlyBonus, issuerPercent, rfl, carries⟩
  | closeCrowdsale property =>
      rcases List.mem_singleton.mp taken with rfl
      exact readBody_closeCrowdsale.mpr ⟨property, rfl, carries⟩
  | issueManaged issuance =>
      rcases List.mem_singleton.mp taken with rfl
      exact readBody_issueManaged.mpr ⟨issuance, rfl, carries⟩
  | grant property amount memo =>
      rcases List.mem_singleton.mp taken with rfl
      exact readBody_grant.mpr ⟨property, amount, memo, rfl, carries⟩
  | revoke property amount memo =>
      rcases List.mem_singleton.mp taken with rfl
      exact readBody_revoke.mpr ⟨property, amount, memo, rfl, carries⟩
  | deactivate feature =>
      rcases List.mem_singleton.mp taken with rfl
      exact readBody_deactivate.mpr ⟨feature, rfl, carries⟩
  | activate feature block clientVersion =>
      rcases List.mem_singleton.mp taken with rfl
      exact readBody_activate.mpr ⟨feature, block, clientVersion, rfl, carries⟩

/-- What a message leaves behind it does not depend on how its texts are spelled. -/
theorem readBody_behind {version : UInt16} {raws raws' : List Bytes} {rest rest' : Bytes}
    (taken : version ∈ payload.versions) (spells : List.Forall₂ Spells raws payload.texts)
    (spells' : List.Forall₂ Spells raws' payload.texts)
    (same : spelled payload raws ++ rest = spelled payload raws' ++ rest') : rest = rest' := by
  have carries : Carries ⟨0, spelled payload raws ++ rest⟩ payload
      ⟨0 + (spelled payload raws).length, rest⟩ := ⟨raws, spells, rfl, rfl⟩
  have carries' : Carries ⟨0, spelled payload raws ++ rest⟩ payload
      ⟨0 + (spelled payload raws').length, rest'⟩ := ⟨raws', spells', same, rfl⟩
  have read := (readBody_complete taken carries).symm.trans (readBody_complete taken carries')
  injection read with pair
  injection pair with _ cursors
  exact congrArg Cursor.rest cursors

theorem body_eq (payload : Payload) :
    body payload = leading payload ++ payload.texts.flatMap text ++ trailing payload := by
  have plain : ∀ fields : Bytes, fields = fields ++ [].flatMap text ++ [] := by
    intro fields
    rw [List.flatMap_nil, List.append_nil, List.append_nil]
  have issued : ∀ i : Issuance,
      issuance i = issuanceHead i ++ (textsOf i.description).flatMap text := by
    intro i
    simp only [issuance, issuanceHead, textsOf, description, List.flatMap_cons, List.flatMap_nil,
      List.append_assoc, List.append_nil]
  have noted : ∀ memo, text memo = [memo].flatMap text := by
    intro memo
    rw [List.flatMap_singleton]
  cases payload with
  | issueFixed i amount => rw [body, issued]; rfl
  | issueCrowdsale i desired tokensPerUnit deadline earlyBonus issuerPercent =>
      rw [body, issued]
      simp only [leading, trailing, Payload.texts, List.append_assoc]
  | issueManaged i => rw [body, issued]; exact (List.append_nil _).symm
  | grant property amount memo => rw [body, noted]; exact (List.append_nil _).symm
  | revoke property amount memo => rw [body, noted]; exact (List.append_nil _).symm
  | _ => exact plain _

/-- With the bytes of its texts in their places, a message is spelled as it is written. -/
theorem spelled_eq_body {raws : List Bytes}
    (written : List.Forall₂ (fun raw value => text value = raw ++ [0]) raws payload.texts) :
    spelled payload raws = body payload := by
  have terminates : ∀ {raws : List Bytes} {values : List String},
      List.Forall₂ (fun raw value => text value = raw ++ [0]) raws values →
        terminated raws = values.flatMap text := by
    intro raws values written
    induction written with
    | nil => rfl
    | cons first _ ih => rw [terminated_cons, List.flatMap_cons, first, ih]
  rw [body_eq, spelled, terminates written]

end Wire

namespace Message

open Wire

/-- A message in a version in which it can be read. -/
def Supported (message : Message) : Prop := message.version ∈ message.payload.versions

/-- The bytes of a message with these bytes in the places of its texts. -/
def spelled (message : Message) (raws : List Bytes) : Bytes :=
  uint16 message.version ++ uint16 message.payload.messageType ++ Wire.spelled message.payload raws

theorem uint16_pair (high low : UInt8) :
    uint16 (UInt16.ofNat (256 * high.toNat + low.toNat)) = [high, low] := by
  have bound : 256 * high.toNat + low.toNat < 65536 := by
    have first := high.toNat_lt
    have second := low.toNat_lt
    omega
  have number : magnitude [high, low] = 256 * high.toNat + low.toNat := by
    simp only [magnitude, List.foldl_cons, List.foldl_nil, Nat.mul_zero, Nat.zero_add]
  rw [uint16, UInt16.toNat_ofNat_of_lt' bound, ← number]
  exact (bigEndian_magnitude [high, low]).1

theorem header?_append (version type : UInt16) (rest : Bytes) :
    header? (uint16 version ++ uint16 type ++ rest) = some (version, type) := by
  have number : ∀ value : UInt16, UInt16.ofNat (256 * (UInt8.ofNat (value.toNat / 256)).toNat +
      (UInt8.ofNat value.toNat).toNat) = value := by
    intro value
    have bound := value.toNat_lt
    have digits : 256 * (value.toNat / 256 % 256) + value.toNat % 256 = value.toNat := by omega
    change UInt16.ofNat (256 * (value.toNat / 256 % 256) + value.toNat % 256) = value
    rw [digits, UInt16.ofNat_toNat]
  change some (UInt16.ofNat (256 * (UInt8.ofNat (version.toNat / 256)).toNat +
    (UInt8.ofNat version.toNat).toNat), UInt16.ofNat (256 * (UInt8.ofNat (type.toNat / 256)).toNat +
    (UInt8.ofNat type.toNat).toNat)) = _
  rw [number, number]

theorem header?_eq_some {bytes : Bytes} {version type : UInt16}
    (header : header? bytes = some (version, type)) :
    bytes = uint16 version ++ uint16 type ++ bytes.drop 4 := by
  unfold header? at header
  split at header
  · next a b c d rest =>
      cases header
      rw [uint16_pair, uint16_pair]
      rfl
  · cases header

theorem decode_eq_ok {bytes : Bytes} {message : Message} :
    decode bytes = .ok message ↔
      message.Supported ∧ ∃ raws rest, List.Forall₂ Spells raws message.payload.texts ∧
        bytes = message.spelled raws ++ rest := by
  unfold decode
  constructor
  · intro read
    cases header : header? bytes with
    | none =>
        rw [header] at read
        cases read
    | some pair =>
        rcases pair with ⟨version, type⟩
        rw [header] at read
        dsimp only at read
        cases fields : readBody type version ⟨4, bytes.drop 4⟩ with
        | error reason =>
            rw [fields] at read
            cases read
        | ok answer =>
            rcases answer with ⟨payload, after⟩
            rw [fields] at read
            cases read
            rcases readBody_sound fields with ⟨rfl, taken, raws, spells, passes⟩
            refine ⟨taken, raws, after.rest, spells, ?_⟩
            rw [spelled, List.append_assoc, ← passes.bytes]
            exact header?_eq_some header
  · rintro ⟨taken, raws, rest, spells, rfl⟩
    have header : header? (message.spelled raws ++ rest) =
        some (message.version, message.payload.messageType) := by
      rw [spelled, List.append_assoc]
      exact header?_append message.version message.payload.messageType _
    have behind : (message.spelled raws ++ rest).drop 4 =
        Wire.spelled message.payload raws ++ rest := rfl
    have carries : Carries ⟨4, Wire.spelled message.payload raws ++ rest⟩ message.payload
        ⟨4 + (Wire.spelled message.payload raws).length, rest⟩ := ⟨raws, spells, rfl, rfl⟩
    rw [header, behind]
    dsimp only
    rw [readBody_complete taken carries]

/-- A message whose texts are spelled in UTF-8 is spelled as it is written. -/
theorem spelled_eq_encode {message : Message} {raws : List Bytes}
    (spells : List.Forall₂ Spells raws message.payload.texts)
    (valid : ∀ raw ∈ raws, ∃ source, Utf8.encode source = raw) :
    message.spelled raws = message.encode := by
  have written : List.Forall₂ (fun raw value => text value = raw ++ [0]) raws
      message.payload.texts := by
    have each := (List.forall₂_and_left _ _).mpr ⟨valid, spells⟩
    exact each.imp fun _ _ both => both.2.text_eq both.1
  rw [spelled, encode, spelled_eq_body written]

/-- Texts that are written whole are spelled with their own bytes. -/
theorem writable_spells {values : List String} (writable : ∀ value ∈ values, Writable value) :
    List.Forall₂ Spells (values.map Utf8.encode) values := by
  rw [List.forall₂_map_left_iff, List.forall₂_same]
  intro value member
  exact (writable value member).spells

/-- A message is read back from its bytes, whatever follows them, and from no part of them. -/
theorem decode_encode_whole {message : Message} (supported : message.Supported)
    (writable : ∀ value ∈ message.payload.texts, Writable value) :
    (∀ rest, decode (message.encode ++ rest) = .ok message) ∧
      ∀ front, front <+: message.encode → front ≠ message.encode →
        ∃ reason, decode front = .error reason := by
  have spells := writable_spells writable
  have written : message.spelled (message.payload.texts.map Utf8.encode) = message.encode := by
    apply spelled_eq_encode spells
    intro raw member
    rcases List.mem_map.mp member with ⟨value, _, same⟩
    exact ⟨value, same⟩
  have reads : ∀ rest, decode (message.encode ++ rest) = .ok message := by
    intro rest
    exact decode_eq_ok.mpr ⟨supported, _, rest, spells, by rw [written]⟩
  refine ⟨reads, fun front before strict => ?_⟩
  rcases before with ⟨missing, whole⟩
  cases outcome : decode front with
  | error reason => exact ⟨reason, rfl⟩
  | ok shorter =>
      rcases decode_eq_ok.mp outcome with ⟨taken, raws, rest, spells', rfl⟩
      -- The whole is then read as the same message, which leaves nothing behind it.
      have longer : decode (message.encode ++ []) = .ok shorter :=
        decode_eq_ok.mpr ⟨taken, raws, rest ++ missing, spells', by
          rw [List.append_nil, ← whole, List.append_assoc]⟩
      rw [reads] at longer
      cases longer
      have behind : rest ++ missing = [] := by
        apply readBody_behind supported spells' spells
        rw [← written, spelled, spelled, List.append_assoc, List.append_assoc] at whole
        rw [List.append_nil]
        exact List.append_cancel_left whole
      rcases List.append_eq_nil_iff.mp behind with ⟨rfl, rfl⟩
      exact absurd ((List.append_nil _).symm.trans whole) strict

/-- A grant whose memo takes more bytes than characters. -/
def noted : Message := ⟨0, .grant 3 7 "żółw"⟩

theorem decode_encode_whole_noted :
    noted.Supported ∧ (∀ value ∈ noted.payload.texts, Writable value) ∧
      decode (noted.encode ++ [1, 2]) = .ok noted ∧
      ∃ reason, decode noted.encode.dropLast = .error reason := by
  have supported : noted.Supported := List.mem_singleton_self _
  have writable : ∀ value ∈ noted.payload.texts, Writable value := by
    intro value member
    rcases List.mem_singleton.mp member with rfl
    exact ⟨by decide +kernel, by decide +kernel⟩
  have whole := decode_encode_whole supported writable
  have shorter : noted.encode.dropLast ≠ noted.encode := by decide +kernel
  exact ⟨supported, writable, whole.1 [1, 2],
    whole.2 _ (List.dropLast_prefix noted.encode) shorter⟩

/-- Only messages in a version of theirs are read, and only from their header and fields.  Where
the texts are UTF-8, those are the bytes the message is written in.  What follows is ignored. -/
theorem decode_reads_encoding {bytes : Bytes} {message : Message}
    (read : decode bytes = .ok message) :
    header? bytes = some (message.version, message.payload.messageType) ∧ message.Supported ∧
      ∃ raws rest, bytes = message.spelled raws ++ rest ∧
        List.Forall₂ Spells raws message.payload.texts ∧
        (∀ other, decode (message.spelled raws ++ other) = .ok message) ∧
        ((∀ raw ∈ raws, ∃ source, Utf8.encode source = raw) →
          message.spelled raws = message.encode ∧ message.encode <+: bytes) := by
  rcases decode_eq_ok.mp read with ⟨supported, raws, rest, spells, rfl⟩
  refine ⟨?_, supported, raws, rest, rfl, spells, fun other => ?_, fun valid => ?_⟩
  · rw [spelled, List.append_assoc]
    exact header?_append message.version message.payload.messageType _
  · exact decode_eq_ok.mpr ⟨supported, raws, other, spells, rfl⟩
  · have written := spelled_eq_encode spells valid
    exact ⟨written, rest, by rw [written]⟩

/-- A grant with a memo, and two bytes more. -/
def notedBytes : Bytes :=
  [0, 0, 0, 55, 0, 0, 0, 3, 0, 0, 0, 0, 0, 0, 0, 7,
    0xC5, 0xBC, 0xC3, 0xB3, 0xC5, 0x82, 0x77, 0, 1, 2]

theorem decode_reads_encoding_noted :
    decode notedBytes = .ok noted ∧ header? notedBytes = some (0, 55) ∧ noted.Supported ∧
      ∃ raws rest, notedBytes = noted.spelled raws ++ rest ∧
        List.Forall₂ Spells raws ["żółw"] ∧
        ∀ other, decode (noted.spelled raws ++ other) = .ok noted := by
  have read : decode notedBytes = .ok noted := by decide +kernel
  rcases decode_reads_encoding read with ⟨header, supported, raws, rest, bytes, spells, others, _⟩
  exact ⟨read, header, supported, raws, rest, bytes, spells, others⟩

end Message
end TokenOverlay
