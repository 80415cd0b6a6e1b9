import DoubleAuction.Ledger.Token
import DoubleAuction.Market.Calls
import DoubleAuction.Proofs.Book.HeapOrder
import DoubleAuction.Proofs.Market.Admissions
import DoubleAuction.Proofs.Order.Correspondence

/-! # Placing an order is all or nothing

Whether an order is accepted is decided before anything changes (`Market.offer`): a deposit on offer
fits the quantity field and the price has been judged, so building the order and pushing its key
cannot fail once the deposit is used (`Market.place_eq`). An accepted order uses its deposit and
rests, and a rejected one leaves the market as it was, and with it the deposit for a later call
(`Market.place_all_or_nothing`).
-/

namespace DoubleAuction

namespace Market

variable {L : Type u} [Ledger L]

/-- The claim that an order would be funded by, or why there is none. -/
def offer (market : Market) (ledger : L) (caller : Address) (price : UInt64) :
    Except Rejection Claim :=
  if caller = .zero then .error .zeroTrader
  else if price = 0 ∨ fieldLimit ≤ price.toNat then .error .invalidPrice
  else market.claims.inspect ledger caller market.address

/-- A call may rest an order: caller and price are valid, and the caller is offered a claim. -/
structure Admissible (market : Market) (ledger : L) (caller : Address) (price : UInt64)
    (claim : Claim) : Prop where
  trader : caller ≠ .zero
  priced : price ≠ 0
  fits : price.toNat < fieldLimit
  offered : market.claims.inspect ledger caller market.address = .ok claim

/-- The order that a claim funds. -/
def orderOf (side : Side) (caller : Address) (price : UInt64) (claim : Claim) : Order :=
  ⟨side, price, claim.quantity, caller⟩

/-- The market with one more order, for which a claim on a ledger is made. -/
def withClaim (market : Market) (book : Book) (side : Side) (ledger : Address) (order : Order)
    (claim : Claim) : Market :=
  { market with
    book := some (book.setHeap side ((book.heaps.get side).push market.address order.key))
    claims := market.claims.use ledger claim.seq }

section Offers

variable {market : Market} {book : Book} {side : Side} {ledger : L} {caller : Address}
variable {price : UInt64} {claim : Claim}

theorem offer_eq_ok_iff :
    market.offer ledger caller price = .ok claim ↔ market.Admissible ledger caller price claim := by
  unfold offer
  rw [guard_eq_ok, guard_eq_ok]
  constructor
  · rintro ⟨trader, valid, offered⟩
    obtain ⟨priced, fits⟩ := not_or.mp valid
    exact ⟨trader, priced, Nat.lt_of_not_le fits, offered⟩
  · rintro ⟨trader, priced, fits, offered⟩
    exact ⟨trader, not_or.mpr ⟨priced, Nat.not_le_of_lt fits⟩, offered⟩

/-- An order is rejected for the reason that there is no claim on offer. -/
theorem judge_eq_error_iff {reason : Rejection} :
    market.judge ledger caller price = .error reason ↔
      market.offer ledger caller price = .error reason := by
  unfold judge offer
  split
  case isTrue => simp
  case isFalse =>
    split
    case isTrue => simp
    case isFalse => exact Claims.claim_eq_error_iff

theorem place_of_bare (bare : market.book = none) :
    market.place side ledger caller price = .error .notInitialized := by
  simp only [place, bare]
  rfl

theorem place_elsewhere (bound : market.book = some book)
    (elsewhere : Ledger.address ledger ≠ book.currencies.get side) :
    market.place side ledger caller price =
      .error (.ledgerMismatch (book.currencies.get side) (Ledger.address ledger)) := by
  simp only [place, bound, checkLedger, elsewhere, ↓reduceIte, bind, Except.bind]

/-- On the ledger of its side, an order that is offered a claim rests, and any other is rejected. -/
theorem place_eq (bound : market.book = some book)
    (same : Ledger.address ledger = book.currencies.get side) :
    market.place side ledger caller price =
      .ok (match market.offer ledger caller price with
        | .error reason => (.rejected reason, market)
        | .ok claim =>
          (.accepted (orderOf side caller price claim) (orderOf side caller price claim).key,
            market.withClaim book side (Ledger.address ledger) (orderOf side caller price claim)
              claim)) := by
  have ended := place_end market side ledger caller price
  generalize market.place side ledger caller price = placed at ended
  cases ended with
  | notInitialized bare =>
    rw [bound] at bare
    cases bare
  | otherLedger also elsewhere =>
    obtain rfl := Option.some.inj (bound.symm.trans also)
    exact absurd same elsewhere
  | rejected _ _ judged => rw [judge_eq_error_iff.mp judged]
  | accepted also _ trader priced fits latest claimable =>
    obtain rfl := Option.some.inj (bound.symm.trans also)
    have offered := Claims.inspect_eq_ok_iff.mpr ⟨_, latest, claimable, rfl⟩
    rw [offer_eq_ok_iff.mpr ⟨trader, priced, fits, offered⟩]
    rfl

/-- What is offered depends on the name of the market and the last number used on the ledger. -/
theorem offer_congr {other : Market} (address : other.address = market.address)
    (claimed : other.claims.lastClaimed (Ledger.address ledger) =
      market.claims.lastClaimed (Ledger.address ledger)) (caller : Address) (price : UInt64) :
    other.offer ledger caller price = market.offer ledger caller price := by
  unfold offer
  rw [address, Claims.inspect_congr claimed]

/-- What an accepted order changes: its key joins the heap of its side, which stays in order, and
the transfer that it is funded by is used on its ledger. -/
structure Admitted (market : Market) (book : Book) (side : Side) (ledger : L) (order : Order)
    (next : Market) : Prop where
  funded : ∃ transfer, Ledger.lastTransfer ledger = some transfer ∧
    transfer.amount.toNat = order.quantity.toNat ∧
    ∀ other, next.claims.lastClaimed other =
      if Ledger.address ledger = other then some transfer.seq else market.claims.lastClaimed other
  readBack : Order.ofLiveKey side order.key = .ok order
  rests : ∃ heap, next.book = some (book.setHeap side heap) ∧
    heap.keys.toList.Perm (order.key :: (book.heaps.get side).keys.toList) ∧
    heap.checkOrder = .ok () ∧ heap.id = (book.heaps.get side).id ∧
    heap.owner = (book.heaps.get side).owner
  others : next = { market with book := next.book, claims := next.claims }

/-- The claim on offer is the latest transfer of its ledger, and its amount fits an order. -/
theorem Admissible.transfer (admissible : market.Admissible ledger caller price claim) :
    ∃ transfer, Ledger.lastTransfer ledger = some transfer ∧ transfer.seq = claim.seq ∧
      transfer.amount.toNat = claim.quantity.toNat ∧ claim.quantity ≠ 0 ∧
      claim.quantity.toNat < fieldLimit := by
  obtain ⟨transfer, latest, claimable, rfl⟩ := Claims.inspect_eq_ok_iff.mp admissible.offered
  have amount : (UInt64.ofNat transfer.amount.toNat).toNat = transfer.amount.toNat :=
    quantity_orderFrom claimable.fits .buy caller price
  refine ⟨transfer, latest, rfl, amount.symm, ?_, ?_⟩
  · rintro (zero : UInt64.ofNat transfer.amount.toNat = 0)
    rw [zero] at amount
    exact claimable.positive (BitVec.eq_of_toNat_eq amount.symm)
  · rw [amount]
    exact claimable.fits

theorem Admissible.admitted (admissible : market.Admissible ledger caller price claim)
    (owned : (book.heaps.get side).owner = market.address)
    (checked : (book.heaps.get side).checkOrder = .ok ()) :
    market.Admitted book side ledger (orderOf side caller price claim)
      (market.withClaim book side (Ledger.address ledger) (orderOf side caller price claim)
        claim) := by
  obtain ⟨transfer, latest, seq, amount, positive, fits⟩ := admissible.transfer
  refine ⟨⟨transfer, latest, amount, ?_⟩, ?_, ?_, rfl⟩
  · intro other
    rw [seq]
    exact Claims.lastClaimed_use market.claims (Ledger.address ledger) other claim.seq
  · apply Order.ofLiveKey_eq_ok_iff_key.mpr
    exact ⟨rfl, ⟨admissible.fits, fits⟩,
      Order.emptyField?_eq_none_iff.mpr ⟨admissible.trader, admissible.priced, positive⟩, rfl⟩
  · have ordered := KeyHeap.checkOrder_eq_ok_iff.mp checked
    exact ⟨_, rfl, KeyHeap.push_perm owned _,
      KeyHeap.checkOrder_eq_ok_iff.mpr (KeyHeap.ordered_push ordered _ _),
      KeyHeap.id_push _ _ _, KeyHeap.owner_push _ _ _⟩

theorem call_of_admissible (bound : market.book = some book)
    (same : Ledger.address ledger = book.currencies.get side)
    (admissible : market.Admissible ledger caller price claim) :
    market.call (.place side ledger caller price) =
      (.placed (.accepted (orderOf side caller price claim) (orderOf side caller price claim).key),
        market.withClaim book side (Ledger.address ledger) (orderOf side caller price claim)
          claim) := by
  simp only [call, place_eq bound same, offer_eq_ok_iff.mpr admissible]

theorem call_of_inadmissible (bound : market.book = some book)
    (same : Ledger.address ledger = book.currencies.get side)
    (inadmissible : ∀ claim, ¬ market.Admissible ledger caller price claim) :
    ∃ reason, market.call (.place side ledger caller price) =
      (.placed (.rejected reason), market) := by
  cases refused : market.offer ledger caller price with
  | ok claim => exact absurd (offer_eq_ok_iff.mp refused) (inadmissible claim)
  | error reason => exact ⟨reason, by simp only [call, place_eq bound same, refused]⟩

end Offers

/-- Placing an order is all or nothing. A call before the market has a book, or with a ledger other
than that of the side, fails and changes nothing. Otherwise it does not fail: it is accepted, and
the order rests on its deposit and nothing else changes, exactly if the call is admissible; and if
not, it is rejected and nothing changes, so that the deposit still funds any admissible call. -/
theorem place_all_or_nothing (market : Market) (side : Side) (ledger : L) (caller : Address)
    (price : UInt64) :
    let outcome := market.call (.place side ledger caller price)
    (market.book = none → outcome = (.failed .notInitialized, market)) ∧
      ∀ book, market.book = some book →
        (Ledger.address ledger ≠ book.currencies.get side →
          outcome = (.failed (.ledgerMismatch (book.currencies.get side) (Ledger.address ledger)),
            market)) ∧
        (Ledger.address ledger = book.currencies.get side →
          (book.heaps.get side).owner = market.address →
          (book.heaps.get side).checkOrder = .ok () →
          (∀ claim, market.Admissible ledger caller price claim → ∃ next,
            outcome = (.placed (.accepted ⟨side, price, claim.quantity, caller⟩
              (Order.mk side price claim.quantity caller).key), next) ∧
            market.Admitted book side ledger ⟨side, price, claim.quantity, caller⟩ next) ∧
          ((∀ claim, ¬ market.Admissible ledger caller price claim) →
            (∃ reason, outcome = (.placed (.rejected reason), market)) ∧
            ∀ later laterPrice claim, market.Admissible ledger later laterPrice claim → ∃ next,
              outcome.2.call (.place side ledger later laterPrice) =
                (.placed (.accepted ⟨side, laterPrice, claim.quantity, later⟩
                  (Order.mk side laterPrice claim.quantity later).key), next))) := by
  refine ⟨fun bare => by simp only [call, place_of_bare bare], ?_⟩
  intro book bound
  refine ⟨fun elsewhere => by simp only [call, place_elsewhere bound elsewhere], ?_⟩
  intro same owned checked
  constructor
  · intro claim admissible
    exact ⟨_, call_of_admissible bound same admissible, admissible.admitted owned checked⟩
  · intro inadmissible
    obtain ⟨reason, rejected⟩ := call_of_inadmissible bound same inadmissible
    rw [rejected]
    refine ⟨⟨reason, rfl⟩, ?_⟩
    intro later laterPrice claim admissible
    exact ⟨_, call_of_admissible bound same admissible⟩

/-- A book with one resting bid. -/
def oneBidBook : Book :=
  ⟨⟨⟨⟨0xb1⟩, ⟨0x4d⟩, #[(Order.mk .buy 1200 1000 ⟨0xa0⟩).key]⟩, .create ⟨0x51⟩ ⟨0x4d⟩⟩,
    ⟨⟨0xc1⟩, ⟨0xc2⟩⟩⟩

def oneBidMarket : Market := ⟨⟨0x4d⟩, {}, 0, some oneBidBook, .empty, 0, ⟨0⟩⟩

/-- A token of which a trader has just paid the market 500. -/
def justPaid : Token :=
  (((Token.create ⟨0xc1⟩ ⟨0x15⟩).issue ⟨0x15⟩ ⟨0xa1⟩ 500).2.send ⟨0xa1⟩ ⟨0x4d⟩ 500).2

/-- A bid without a price is rejected, and its deposit then funds a bid with one. -/
theorem oneBidMarket_takes_deposit :
    ∃ next,
      (oneBidMarket.call (.place .buy justPaid ⟨0xa1⟩ 0)).2.call (.place .buy justPaid ⟨0xa1⟩ 900) =
        (.placed (.accepted ⟨.buy, 900, 500, ⟨0xa1⟩⟩ (Order.mk .buy 900 500 ⟨0xa1⟩).key), next) ∧
      oneBidMarket.Admitted oneBidBook .buy justPaid ⟨.buy, 900, 500, ⟨0xa1⟩⟩ next := by
  have checked : (oneBidBook.heaps.get .buy).checkOrder = .ok () := by rfl
  have unpriced (claim : Claim) : ¬ oneBidMarket.Admissible justPaid ⟨0xa1⟩ 0 claim :=
    fun admissible => admissible.priced rfl
  have priced : oneBidMarket.Admissible justPaid ⟨0xa1⟩ 900 ⟨1, 500⟩ :=
    ⟨by decide, by decide, by decide, by rfl⟩
  have first := ((place_all_or_nothing oneBidMarket .buy justPaid ⟨0xa1⟩ 0).2 _ rfl).2
  obtain ⟨⟨reason, rejected⟩, _⟩ := (first rfl rfl checked).2 unpriced
  have second := ((place_all_or_nothing oneBidMarket .buy justPaid ⟨0xa1⟩ 900).2 _ rfl).2
  rw [rejected]
  exact (second rfl rfl checked).1 _ priced

end Market

end DoubleAuction
