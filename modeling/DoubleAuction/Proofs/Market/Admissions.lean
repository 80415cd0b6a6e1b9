import DoubleAuction.Market.Admission
import DoubleAuction.Market.Payout
import DoubleAuction.Proofs.Except
import DoubleAuction.Proofs.Order.Codec

/-! # Claims and admissions

A deposit may be claimed when it is the latest transfer of its ledger, pays the market, and its
sequence number is above the highest one used there (`inspect_eq_ok_iff`). The highest number used
on a ledger never falls, so a used transfer stays used (`Claims.Extends`). An attempt to place an
order has four ends (`PlaceEnd`, `place_end`), and only the last of them changes the market.
-/

namespace DoubleAuction

namespace Claims

theorem lastClaimed_use (claims : Claims) (ledger other : Address) (seq : UInt64) :
    (claims.use ledger seq).lastClaimed other =
      if ledger = other then some seq else claims.lastClaimed other :=
  AddressMap.find?_insert claims.claimed ledger other seq

/-- A transfer is used when the highest number used on its ledger reaches its own. -/
theorem isUsed_iff {claims : Claims} {ledger : Address} {seq : UInt64} :
    claims.isUsed ledger seq = true ↔
      ∃ last, claims.lastClaimed ledger = some last ∧ seq ≤ last := by
  unfold isUsed
  cases claims.lastClaimed ledger <;> simp

/-- Every number used before is still used. -/
def Extends (old new : Claims) : Prop :=
  ∀ ledger seq, old.isUsed ledger seq = true → new.isUsed ledger seq = true

theorem Extends.refl (claims : Claims) : Extends claims claims := fun _ _ used => used

theorem Extends.trans {first middle last : Claims} (left : Extends first middle)
    (right : Extends middle last) : Extends first last :=
  fun ledger seq used => right ledger seq (left ledger seq used)

/-- A number that is still unused is above every number used. -/
theorem lt_of_unused {claims : Claims} {ledger : Address} {seq other : UInt64}
    (used : claims.isUsed ledger seq = true) (unused : claims.isUsed ledger other = false) :
    seq < other := by
  apply UInt64.not_le.mp
  intro less
  obtain ⟨last, found, below⟩ := isUsed_iff.mp used
  rw [isUsed_iff.mpr ⟨last, found, UInt64.le_trans less below⟩] at unused
  cases unused

theorem Extends.unused {old new : Claims} (extension : Extends old new) {ledger : Address}
    {seq : UInt64} (unused : new.isUsed ledger seq = false) : old.isUsed ledger seq = false := by
  cases used : old.isUsed ledger seq with
  | false => rfl
  | true =>
    rw [extension ledger seq used] at unused
    cases unused

/-- The highest number used never falls. -/
theorem Extends.lastClaimed {old new : Claims} (extension : Extends old new) {ledger : Address}
    {last : UInt64} (found : old.lastClaimed ledger = some last) :
    ∃ later, new.lastClaimed ledger = some later ∧ last ≤ later :=
  isUsed_iff.mp (extension ledger last (isUsed_iff.mpr ⟨last, found, UInt64.le_refl last⟩))

/-- Using a number that is not below the last one used keeps every number used. -/
theorem extends_use {claims : Claims} {ledger : Address} {seq : UInt64}
    (higher : ∀ last, claims.lastClaimed ledger = some last → last ≤ seq) :
    Extends claims (claims.use ledger seq) := by
  intro other number used
  obtain ⟨last, found, less⟩ := isUsed_iff.mp used
  rw [isUsed_iff, lastClaimed_use]
  by_cases same : ledger = other
  · subst same
    exact ⟨seq, if_pos rfl, UInt64.le_trans less (higher last found)⟩
  · exact ⟨last, (if_neg same).trans found, less⟩

theorem isUsed_use (claims : Claims) (ledger : Address) (seq : UInt64) :
    (claims.use ledger seq).isUsed ledger seq = true :=
  isUsed_iff.mpr ⟨seq, by rw [lastClaimed_use, if_pos rfl], UInt64.le_refl seq⟩

section Retiring

variable {L : Type u} [Ledger L]

theorem lastClaimed_retireLatest (claims : Claims) (ledger : L) (other : Address) :
    (claims.retireLatest ledger).lastClaimed other =
      match Ledger.lastTransfer ledger with
      | none => claims.lastClaimed other
      | some transfer =>
        if Ledger.address ledger = other then
          some (max ((claims.lastClaimed other).getD 0) transfer.seq)
        else claims.lastClaimed other := by
  unfold retireLatest
  cases Ledger.lastTransfer ledger with
  | none => rfl
  | some transfer =>
    simp only [lastClaimed_use]
    split
    case isTrue same => rw [same]
    case isFalse => rfl

theorem le_max (first second : UInt64) :
    first ≤ max first second ∧ second ≤ max first second := by
  have unfolded : max first second = if first ≤ second then second else first := rfl
  rw [unfolded]
  split
  case isTrue less => exact ⟨less, UInt64.le_refl second⟩
  case isFalse notLess => exact ⟨UInt64.le_refl first, UInt64.le_of_lt (UInt64.not_le.mp notLess)⟩

theorem extends_retireLatest (claims : Claims) (ledger : L) :
    Extends claims (claims.retireLatest ledger) := by
  unfold retireLatest
  cases Ledger.lastTransfer ledger with
  | none => exact .refl claims
  | some transfer =>
    apply extends_use
    intro last found
    rw [found]
    exact (le_max last transfer.seq).1

theorem isUsed_retireLatest (claims : Claims) {ledger : L} {transfer : Transfer}
    (latest : Ledger.lastTransfer ledger = some transfer) :
    (claims.retireLatest ledger).isUsed (Ledger.address ledger) transfer.seq = true := by
  have entry := lastClaimed_retireLatest claims ledger (Ledger.address ledger)
  simp only [latest, ↓reduceIte] at entry
  exact isUsed_iff.mpr ⟨_, entry, (le_max _ transfer.seq).2⟩

/-- Retires the latest transfer on the ledger of a side, if a payout came back there. -/
def retireOn (claims : Claims) (ledgers : Sided L) (returned : List Payout) (side : Side) :
    Claims :=
  if returned.any (·.side = side) then claims.retireLatest (ledgers.get side) else claims

theorem retireReturned_eq (claims : Claims) (ledgers : Sided L) (returned : List Payout) :
    claims.retireReturned ledgers returned =
      (claims.retireOn ledgers returned .buy).retireOn ledgers returned .sell := rfl

/-- Retiring changes no entry but that of a ledger to which payouts came back. -/
theorem lastClaimed_retireOn_of_ne (claims : Claims) {ledgers : Sided L} {returned : List Payout}
    {side : Side} {other : Address}
    (elsewhere : returned.any (·.side = side) = true → Ledger.address (ledgers.get side) ≠ other) :
    (claims.retireOn ledgers returned side).lastClaimed other = claims.lastClaimed other := by
  unfold retireOn
  split
  case isTrue back =>
    rw [lastClaimed_retireLatest]
    cases Ledger.lastTransfer (ledgers.get side) with
    | none => rfl
    | some transfer => exact if_neg (elsewhere back)
  case isFalse => rfl

theorem extends_retireOn (claims : Claims) (ledgers : Sided L) (returned : List Payout)
    (side : Side) : Extends claims (claims.retireOn ledgers returned side) := by
  unfold retireOn
  split
  · exact extends_retireLatest claims (ledgers.get side)
  · exact .refl claims

theorem extends_retireReturned (claims : Claims) (ledgers : Sided L) (returned : List Payout) :
    Extends claims (claims.retireReturned ledgers returned) :=
  (extends_retireOn claims ledgers returned .buy).trans (extends_retireOn _ ledgers returned .sell)

/-- The latest transfer of a ledger to which payouts came back is used from then on. -/
theorem isUsed_retireReturned (claims : Claims) {ledgers : Sided L} {returned : List Payout}
    {side : Side} {transfer : Transfer} (back : returned.any (·.side = side) = true)
    (latest : Ledger.lastTransfer (ledgers.get side) = some transfer) :
    (claims.retireReturned ledgers returned).isUsed (Ledger.address (ledgers.get side))
      transfer.seq = true := by
  have retired (before : Claims) : (before.retireOn ledgers returned side).isUsed
      (Ledger.address (ledgers.get side)) transfer.seq = true := by
    simp only [retireOn, back, ↓reduceIte]
    exact isUsed_retireLatest before latest
  rw [retireReturned_eq]
  cases side with
  | buy => exact extends_retireOn _ ledgers returned .sell _ _ (retired claims)
  | sell => exact retired _

/-- What retiring makes of an entry depends on that entry only. -/
theorem lastClaimed_retireOn_congr {claims other : Claims} {ledger : Address}
    (same : claims.lastClaimed ledger = other.lastClaimed ledger) (ledgers : Sided L)
    (returned : List Payout) (side : Side) :
    (claims.retireOn ledgers returned side).lastClaimed ledger =
      (other.retireOn ledgers returned side).lastClaimed ledger := by
  unfold retireOn
  split
  · rw [lastClaimed_retireLatest, lastClaimed_retireLatest, same]
  · exact same

/-- On each of two different ledgers, retiring looks only at the payouts that came back there. -/
theorem lastClaimed_retireReturned (claims : Claims) {ledgers : Sided L}
    (distinct : Ledger.address (ledgers.get .buy) ≠ Ledger.address (ledgers.get .sell))
    (returned : List Payout) (side : Side) :
    (claims.retireReturned ledgers returned).lastClaimed (Ledger.address (ledgers.get side)) =
      (claims.retireOn ledgers returned side).lastClaimed (Ledger.address (ledgers.get side)) := by
  rw [retireReturned_eq]
  cases side with
  | buy => exact lastClaimed_retireOn_of_ne _ fun _ => Ne.symm distinct
  | sell =>
    have before : (claims.retireOn ledgers returned .buy).lastClaimed
        (Ledger.address (ledgers.get .sell)) = _ :=
      lastClaimed_retireOn_of_ne claims fun _ => distinct
    exact lastClaimed_retireOn_congr before ledgers returned .sell

theorem lastClaimed_retireReturned_of_ne (claims : Claims) {ledgers : Sided L}
    {returned : List Payout} {other : Address}
    (elsewhere : ∀ side, returned.any (·.side = side) = true →
      Ledger.address (ledgers.get side) ≠ other) :
    (claims.retireReturned ledgers returned).lastClaimed other = claims.lastClaimed other :=
  (lastClaimed_retireOn_of_ne _ (elsewhere .sell)).trans
    (lastClaimed_retireOn_of_ne claims (elsewhere .buy))

end Retiring

/-- A depositor may claim a transfer: it is a new payment of theirs to the recipient, of an amount
that fits the quantity field. -/
structure Claimable (claims : Claims) (ledger depositor recipient : Address) (transfer : Transfer) :
    Prop where
  success : transfer.success = true
  sender : transfer.sender = depositor
  recipient : transfer.recipient = recipient
  unused : claims.isUsed ledger transfer.seq = false
  positive : transfer.amount ≠ 0
  fits : transfer.amount.toNat < fieldLimit

/-- Using a claimable transfer keeps every number used. -/
theorem Claimable.extends {claims : Claims} {ledger depositor recipient : Address}
    {transfer : Transfer} (claimable : claims.Claimable ledger depositor recipient transfer) :
    Extends claims (claims.use ledger transfer.seq) := by
  apply extends_use
  intro last found
  have unused : ¬ transfer.seq ≤ last := by
    intro less
    have used := isUsed_iff.mpr ⟨last, found, less⟩
    rw [claimable.unused] at used
    cases used
  exact UInt64.le_of_lt (UInt64.not_le.mp unused)

/-- A claim is offered exactly on a claimable latest transfer. -/
theorem inspect_eq_ok_iff {L : Type u} [Ledger L] {claims : Claims} {ledger : L}
    {depositor recipient : Address} {claim : Claim} :
    claims.inspect ledger depositor recipient = .ok claim ↔
      ∃ transfer, Ledger.lastTransfer ledger = some transfer ∧
        claims.Claimable (Ledger.address ledger) depositor recipient transfer ∧
        claim = ⟨transfer.seq, .ofNat transfer.amount.toNat⟩ := by
  unfold inspect
  cases Ledger.lastTransfer ledger with
  | none => simp
  | some transfer =>
    simp only [guard_eq_ok, Option.some.injEq, exists_eq_left']
    constructor
    · rintro ⟨success, sender, recipient, unused, amount, same⟩
      obtain ⟨positive, fits⟩ := not_or.mp amount
      exact ⟨⟨by simpa using success, by simpa using sender, by simpa using recipient,
        by simpa using unused, positive, Nat.lt_of_not_le fits⟩, (Except.ok.inj same).symm⟩
    · rintro ⟨⟨success, sender, recipient, unused, positive, fits⟩, rfl⟩
      exact ⟨by simpa using success, by simpa using sender, by simpa using recipient,
        by simpa using unused, not_or.mpr ⟨positive, Nat.not_le_of_lt fits⟩, rfl⟩

section Claiming

variable {L : Type u} [Ledger L]

/-- A claim is made when it is offered. -/
theorem claim_eq_ok_iff {claims next : Claims} {ledger : L} {depositor recipient : Address}
    {claim : Claim} :
    claims.claim ledger depositor recipient = .ok (claim, next) ↔
      claims.inspect ledger depositor recipient = .ok claim ∧
        next = claims.use (Ledger.address ledger) claim.seq := by
  unfold Claims.claim
  constructor
  · intro claimed
    obtain ⟨offered, inspected, same⟩ := bind_eq_ok.mp claimed
    obtain ⟨rfl, rfl⟩ := Prod.mk.inj (Except.ok.inj same)
    exact ⟨inspected, rfl⟩
  · rintro ⟨inspected, rfl⟩
    exact bind_eq_ok.mpr ⟨claim, inspected, rfl⟩

theorem claim_eq_error_iff {claims : Claims} {ledger : L} {depositor recipient : Address}
    {reason : Rejection} :
    claims.claim ledger depositor recipient = .error reason ↔
      claims.inspect ledger depositor recipient = .error reason := by
  unfold Claims.claim
  cases claims.inspect ledger depositor recipient <;> simp [bind, Except.bind, pure, Except.pure]

/-- What can be claimed on a ledger depends on the last number used there and on no other. -/
theorem inspect_congr {claims other : Claims} {ledger : L}
    (same : claims.lastClaimed (Ledger.address ledger) = other.lastClaimed (Ledger.address ledger))
    (depositor recipient : Address) :
    claims.inspect ledger depositor recipient = other.inspect ledger depositor recipient := by
  have used (seq : UInt64) : claims.isUsed (Ledger.address ledger) seq =
      other.isUsed (Ledger.address ledger) seq := by
    rw [isUsed, isUsed, same]
  unfold inspect
  cases Ledger.lastTransfer ledger with
  | none => rfl
  | some transfer => simp only [used]

end Claiming

end Claims

namespace Market

section Placing

variable {L : Type u} [Ledger L]

/-- The order that a transfer funds. -/
def orderFrom (side : Side) (caller : Address) (price : UInt64) (transfer : Transfer) : Order :=
  ⟨side, price, .ofNat transfer.amount.toNat, caller⟩

/-- A transfer that fits the quantity field becomes the quantity as it is. -/
theorem quantity_orderFrom {transfer : Transfer} (fits : transfer.amount.toNat < fieldLimit)
    (side : Side) (caller : Address) (price : UInt64) :
    (orderFrom side caller price transfer).quantity.toNat = transfer.amount.toNat := by
  have small : transfer.amount.toNat < 2 ^ 48 := fits
  simp only [orderFrom, UInt64.toNat_ofNat']
  exact Nat.mod_eq_of_lt (by omega)

/-- An admitted order is read back from its key as it is. -/
theorem ofKey_orderFrom {side : Side} {caller : Address} {price : UInt64} {transfer : Transfer}
    (priceFits : price.toNat < fieldLimit) (fits : transfer.amount.toNat < fieldLimit) :
    Order.ofKey side (orderFrom side caller price transfer).key =
      orderFrom side caller price transfer := by
  have priced : (orderFrom side caller price transfer).price.toNat < fieldLimit := priceFits
  apply Order.ofKey_key priced
  rw [quantity_orderFrom fits]
  exact fits

/-- An admitted order is live. -/
theorem emptyField?_orderFrom {side : Side} {caller : Address} {price : UInt64}
    {transfer : Transfer} (trader : caller ≠ .zero) (priced : price ≠ 0)
    (positive : transfer.amount ≠ 0) (fits : transfer.amount.toNat < fieldLimit) :
    (orderFrom side caller price transfer).emptyField? = none := by
  apply Order.emptyField?_eq_none_iff.mpr
  refine ⟨trader, priced, ?_⟩
  intro zero
  have same := quantity_orderFrom fits side caller price
  rw [zero] at same
  exact positive (BitVec.eq_of_toNat_eq same.symm)

/-- The market with one more order, funded by a transfer that is used from now on. -/
def withOrder (market : Market) (book : Book) (side : Side) (ledger : Address) (order : Order)
    (transfer : Transfer) : Market :=
  { market with
    book := some (book.setHeap side ((book.heaps.get side).push market.address order.key))
    claims := market.claims.use ledger transfer.seq }

/-- How an attempt to place an order ends. -/
inductive PlaceEnd (market : Market) (side : Side) (ledger : L) (caller : Address)
    (price : UInt64) : Except Error (Admission × Market) → Prop
  | notInitialized (bare : market.book = none) :
      PlaceEnd market side ledger caller price (.error .notInitialized)
  | otherLedger {book : Book} (bound : market.book = some book)
      (other : Ledger.address ledger ≠ book.currencies.get side) :
      PlaceEnd market side ledger caller price
        (.error (.ledgerMismatch (book.currencies.get side) (Ledger.address ledger)))
  | rejected {book : Book} {reason : Rejection} (bound : market.book = some book)
      (same : Ledger.address ledger = book.currencies.get side)
      (judged : market.judge ledger caller price = .error reason) :
      PlaceEnd market side ledger caller price (.ok (.rejected reason, market))
  | accepted {book : Book} {transfer : Transfer} (bound : market.book = some book)
      (same : Ledger.address ledger = book.currencies.get side) (trader : caller ≠ .zero)
      (priced : price ≠ 0) (priceFits : price.toNat < fieldLimit)
      (latest : Ledger.lastTransfer ledger = some transfer)
      (claimable : market.claims.Claimable (Ledger.address ledger) caller market.address transfer) :
      PlaceEnd market side ledger caller price
        (.ok (.accepted (orderFrom side caller price transfer)
            (orderFrom side caller price transfer).key,
          market.withOrder book side (Ledger.address ledger) (orderFrom side caller price transfer)
            transfer))

/-- An order is judged well when its trader and price are valid and its deposit can be claimed. -/
theorem judge_eq_ok_iff {market : Market} {ledger : L} {caller : Address} {price : UInt64}
    {claim : Claim} {claims : Claims} :
    market.judge ledger caller price = .ok (claim, claims) ↔
      (caller ≠ .zero ∧ price ≠ 0 ∧ price.toNat < fieldLimit) ∧
        market.claims.inspect ledger caller market.address = .ok claim ∧
        claims = market.claims.use (Ledger.address ledger) claim.seq := by
  unfold judge
  rw [guard_eq_ok, guard_eq_ok]
  constructor
  · rintro ⟨trader, valid, claimed⟩
    obtain ⟨priced, fits⟩ := not_or.mp valid
    exact ⟨⟨trader, priced, Nat.lt_of_not_le fits⟩, Claims.claim_eq_ok_iff.mp claimed⟩
  · rintro ⟨⟨trader, priced, fits⟩, claimed⟩
    exact ⟨trader, not_or.mpr ⟨priced, Nat.not_le_of_lt fits⟩, Claims.claim_eq_ok_iff.mpr claimed⟩

theorem place_end (market : Market) (side : Side) (ledger : L) (caller : Address) (price : UInt64) :
    PlaceEnd market side ledger caller price (market.place side ledger caller price) := by
  unfold place
  cases bound : market.book with
  | none => exact .notInitialized bound
  | some book =>
    simp only [checkLedger, bind, Except.bind, pure, Except.pure]
    by_cases same : Ledger.address ledger = book.currencies.get side
    · simp only [if_pos same]
      cases judged : market.judge ledger caller price with
      | error reason => exact .rejected bound same judged
      | ok verdict =>
        obtain ⟨claim, claims⟩ := verdict
        obtain ⟨⟨trader, priced, priceFits⟩, inspected, rfl⟩ := judge_eq_ok_iff.mp judged
        obtain ⟨transfer, latest, claimable, rfl⟩ := Claims.inspect_eq_ok_iff.mp inspected
        have quantity : (UInt64.ofNat transfer.amount.toNat).toNat < fieldLimit := by
          have same := quantity_orderFrom claimable.fits side caller price
          simp only [orderFrom] at same
          rw [same]
          exact claimable.fits
        simp only [Order.create, checkPrice, checkQuantity, if_pos priceFits, if_pos quantity, bind,
          Except.bind, pure, Except.pure]
        exact .accepted bound same trader priced priceFits latest claimable
    · simp only [if_neg same]
      exact .otherLedger bound same

/-- On the ledger of a side, the latest transfer decides which orders are accepted; the others are
rejected without a change to the market. -/
theorem place_on_latest {market : Market} {book : Book} {side : Side} {ledger : L}
    {transfer : Transfer} (bound : market.book = some book)
    (same : Ledger.address ledger = book.currencies.get side)
    (latest : Ledger.lastTransfer ledger = some transfer) (caller : Address) (price : UInt64) :
    let placed := market.place side ledger caller price
    let good := (caller ≠ .zero ∧ price ≠ 0 ∧ price.toNat < fieldLimit) ∧
      market.claims.Claimable (Ledger.address ledger) caller market.address transfer
    (good ∧ ∃ next, placed = .ok (.accepted (orderFrom side caller price transfer)
        (orderFrom side caller price transfer).key, next)) ∨
      (¬ good ∧ ∃ reason, placed = .ok (.rejected reason, market)) := by
  have ended := place_end market side ledger caller price
  dsimp only
  generalize market.place side ledger caller price = placed at ended ⊢
  cases ended with
  | notInitialized bare =>
    rw [bound] at bare
    cases bare
  | otherLedger also elsewhere =>
    obtain rfl := Option.some.inj (bound.symm.trans also)
    exact absurd same elsewhere
  | rejected _ _ judged =>
    refine .inr ⟨?_, _, rfl⟩
    rintro ⟨valid, claimable⟩
    have inspected := Claims.inspect_eq_ok_iff.mpr ⟨transfer, latest, claimable, rfl⟩
    rw [judge_eq_ok_iff.mpr ⟨valid, inspected, rfl⟩] at judged
    cases judged
  | accepted _ _ trader priced priceFits also claimable =>
    obtain rfl := Option.some.inj (latest.symm.trans also)
    exact .inl ⟨⟨⟨trader, priced, priceFits⟩, claimable⟩, _, rfl⟩

end Placing

end Market

end DoubleAuction
