import DoubleAuction.Market.Claims
import DoubleAuction.Ledger.Token
import DoubleAuction.Stored

/-! # Stored tokens and claims -/

namespace DoubleAuction.Stored

open Json (ofMembers)

instance : Stored Transfer where
  toJson transfer := ofMembers [
    ("amount", toJson transfer.amount), ("from", toJson transfer.sender),
    ("seq", toJson transfer.seq), ("success", toJson transfer.success),
    ("to", toJson transfer.recipient)]
  ofJson? json := do
    let [seq, sender, recipient, amount, success] ←
        json.record? ["seq", "from", "to", "amount", "success"]
      | none
    return {
      seq := ← required? seq, sender := ← required? sender, recipient := ← required? recipient
      amount := ← required? amount, success := ← required? success }

instance : Stored Token where
  toJson token := ofMembers [
    ("address", toJson token.address), ("balances", toJson token.balances),
    ("issuer", toJson token.issuer), ("last_attempt", ofOption token.lastAttempt),
    ("last_success", ofOption token.lastSuccess), ("next_seq", toJson token.nextSeq)]
  ofJson? json := do
    let [address, issuer, balances, lastAttempt, lastSuccess, nextSeq] ←
        json.record? ["address", "issuer", "balances", "last_attempt", "last_success", "next_seq"]
      | none
    return {
      address := ← required? address, issuer := ← required? issuer
      balances := ← required? balances, lastAttempt := ← optional? lastAttempt
      lastSuccess := ← optional? lastSuccess, nextSeq := ← required? nextSeq }

instance : Stored Claim where
  toJson claim := ofMembers [("quantity", toJson claim.quantity), ("seq", toJson claim.seq)]
  ofJson? json := do
    let [seq, quantity] ← json.record? ["seq", "quantity"] | none
    return { seq := ← required? seq, quantity := ← required? quantity }

instance : Stored Claims where
  toJson claims := ofMembers [("claimed", toJson claims.claimed)]
  ofJson? json := do
    let [claimed] ← json.record? ["claimed"] | none
    return { claimed := ← required? claimed }

end DoubleAuction.Stored
