import DoubleAuction.Market.Tick
import DoubleAuction.Stored.Ledger
import DoubleAuction.Stored.Order

/-! # Stored markets, heaps and reports -/

namespace DoubleAuction.Stored

open Json (ofMembers)

instance : Stored Epoch where
  toJson epoch := toJson epoch.index
  ofJson? json := (ofJson? json).map Epoch.mk

instance : Stored Budget where
  toJson budget := ofMembers [("remaining", toJson budget.remaining)]
  ofJson? json := do
    let [remaining] ← json.record? ["remaining"] | none
    return { remaining := ← required? remaining }

instance : Stored Config where
  toJson config := ofMembers [
    ("epoch_length", toJson config.epochLength), ("max_matches_per_tick", toJson config.maxMatches),
    ("reference_price", toJson config.referencePrice)]
  ofJson? json := do
    let [epochLength, referencePrice, maxMatches] ←
        json.partialRecord? ["epoch_length", "reference_price", "max_matches_per_tick"]
      | none
    let default : Config := {}
    return {
      epochLength := ← withDefault? default.epochLength epochLength
      referencePrice := ← withDefault? default.referencePrice referencePrice
      maxMatches := ← withDefault? default.maxMatches maxMatches }

instance : Stored Hash.Digest where
  toJson digest := toJson digest.toList
  ofJson? json := do
    let bytes : List UInt8 ← ofJson? json
    if sized : bytes.length = 32 then some ⟨bytes.toArray, by simpa using sized⟩ else none

instance : Stored TickReport where
  toJson report := ofMembers [
    ("epoch", toJson report.epoch), ("fill_root", toJson report.fillRoot),
    ("fills", toJson report.fills), ("gate_open", toJson report.gateOpen),
    ("more_work", toJson report.moreWork), ("volume", toJson report.volume)]
  ofJson? json := do
    let [epoch, gateOpen, fills, volume, moreWork, fillRoot] ←
        json.record? ["epoch", "gate_open", "fills", "volume", "more_work", "fill_root"]
      | none
    return {
      epoch := ← required? epoch, gateOpen := ← required? gateOpen, fills := ← required? fills
      volume := ← required? volume, moreWork := ← required? moreWork
      fillRoot := ← required? fillRoot }

/-- Both amounts of a position are below `Amount.size`. -/
instance : Stored EscrowPosition where
  toJson position := ofMembers [
    ("committed", .number (some position.committed)), ("held", .number (some position.held)),
    ("ledger", toJson position.ledger)]
  ofJson? json := do
    let [ledger, committed, held] ← json.record? ["ledger", "committed", "held"] | none
    return {
      ledger := ← required? ledger
      committed := ← committed.bind (natural? Amount.size)
      held := ← held.bind (natural? Amount.size) }

instance : Stored KeyHeap where
  toJson heap := ofMembers [
    ("id", toJson heap.id), ("keys", toJson heap.keys.toList), ("owner", toJson heap.owner)]
  ofJson? json := do
    let [id, owner, keys] ← json.record? ["id", "owner", "keys"] | none
    let keys : List Key ← required? keys
    return { id := ← required? id, owner := ← required? owner, keys := keys.toArray }

instance : Stored Book where
  toJson book := ofMembers [
    ("buy", toJson book.heaps.buy), ("first_currency", toJson book.currencies.buy),
    ("second_currency", toJson book.currencies.sell), ("sell", toJson book.heaps.sell)]
  ofJson? json := do
    let [buy, sell, first, second] ←
        json.record? ["buy", "sell", "first_currency", "second_currency"]
      | none
    return {
      heaps := ⟨← required? buy, ← required? sell⟩
      currencies := ⟨← required? first, ← required? second⟩ }

instance : Stored Market where
  toJson market := ofMembers [
    ("address", toJson market.address), ("anchor_height", toJson market.anchor),
    ("book", ofOption market.book), ("claims", toJson market.claims),
    ("config", toJson market.config), ("volume", toJson market.volume),
    ("volume_epoch", toJson market.volumeEpoch)]
  ofJson? json := do
    let [address, config, anchor, book, claims, volume, volumeEpoch] ←
        json.record? ["address", "config", "anchor_height", "book", "claims", "volume",
          "volume_epoch"]
      | none
    return {
      address := ← required? address, config := ← required? config, anchor := ← required? anchor
      book := ← optional? book, claims := ← required? claims, volume := ← required? volume
      volumeEpoch := ← required? volumeEpoch }

end DoubleAuction.Stored

namespace DoubleAuction

/-- Reads a configuration and accepts it if it can run a market. -/
def Config.ofText (text : String) : Except Error Config := do
  let some config := Stored.ofText? Config text | throw .unreadableConfig
  config.check
  return config

end DoubleAuction
