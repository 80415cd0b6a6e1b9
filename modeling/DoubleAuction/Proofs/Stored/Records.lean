import DoubleAuction.Proofs.Stored.Values
import DoubleAuction.Stored.Market

/-! # Stored records read back

The names of the fields of a record differ, so each is found by its name, wherever it stands, and is
read by the law of its own type.
-/

namespace DoubleAuction.Stored

open Json (Rearranged)

instance : Lossless Side where
  reads {side _} rearranged := by
    cases side <;> cases rearranged <;> rfl

instance : Lossless Outcome where
  reads {outcome _} rearranged := by
    cases outcome <;> cases rearranged <;> rfl

instance : Lossless Rejection where
  reads {reason _} rearranged := by
    cases reason <;> cases rearranged <;> rfl

instance : Lossless Order where
  reads {order _} rearranged := by
    obtain ⟨find, fields, found⟩ := Json.record?_of_rearranged rearranged (by simp)
    simp only [List.forall_mem_cons] at found
    obtain ⟨price, quantity, side, trader, _⟩ := found
    simp only [ofJson?]
    rw [fields _ (by simp)]
    simp only [List.map_cons, List.map_nil, bind, Option.bind_some, pure,
      required?_of_rearranged price, required?_of_rearranged quantity, required?_of_rearranged side,
      required?_of_rearranged trader]

instance : Lossless Fill where
  reads {fill _} rearranged := by
    obtain ⟨find, fields, found⟩ := Json.record?_of_rearranged rearranged (by simp)
    simp only [List.forall_mem_cons] at found
    obtain ⟨askPrice, askResidual, bidPrice, bidResidual, buyer, outcome, retainedFirst,
      retainedSecond, seller, toBuyer, toSeller, _⟩ := found
    simp only [ofJson?]
    rw [fields _ (by simp)]
    simp only [List.map_cons, List.map_nil, bind, Option.bind_some, pure,
      required?_of_rearranged askPrice, required?_of_rearranged askResidual,
      required?_of_rearranged bidPrice, required?_of_rearranged bidResidual,
      required?_of_rearranged buyer, required?_of_rearranged outcome,
      required?_of_rearranged retainedFirst, required?_of_rearranged retainedSecond,
      required?_of_rearranged seller, required?_of_rearranged toBuyer,
      required?_of_rearranged toSeller]

instance : Lossless Admission where
  reads {admission _} rearranged := by
    cases admission with
    | accepted order key =>
      obtain ⟨payload, variant, carried⟩ := Json.variant?_of_rearranged rearranged
      obtain ⟨find, fields, found⟩ := Json.record?_of_rearranged carried (by simp)
      simp only [List.forall_mem_cons] at found
      obtain ⟨key, order, _⟩ := found
      simp only [ofJson?, variant, bind, Option.bind_some]
      rw [fields _ (by simp)]
      simp only [List.map_cons, List.map_nil, Option.bind_some, pure,
        required?_of_rearranged key, required?_of_rearranged order]
    | rejected reason =>
      obtain ⟨payload, variant, carried⟩ := Json.variant?_of_rearranged rearranged
      have read : ofJson? payload = some reason := Lossless.reads carried
      simp only [ofJson?, variant, bind, Option.bind_some, pure] at read ⊢
      rw [read, Option.bind_some]

instance : Lossless Transfer where
  reads {transfer _} rearranged := by
    obtain ⟨find, fields, found⟩ := Json.record?_of_rearranged rearranged (by simp)
    simp only [List.forall_mem_cons] at found
    obtain ⟨amount, sender, seq, success, recipient, _⟩ := found
    simp only [ofJson?]
    rw [fields _ (by simp)]
    simp only [List.map_cons, List.map_nil, bind, Option.bind_some, pure,
      required?_of_rearranged amount, required?_of_rearranged sender, required?_of_rearranged seq,
      required?_of_rearranged success, required?_of_rearranged recipient]

instance : Lossless Token where
  reads {token _} rearranged := by
    obtain ⟨find, fields, found⟩ := Json.record?_of_rearranged rearranged (by simp)
    simp only [List.forall_mem_cons] at found
    obtain ⟨address, balances, issuer, lastAttempt, lastSuccess, nextSeq, _⟩ := found
    simp only [ofJson?]
    rw [fields _ (by simp)]
    simp only [List.map_cons, List.map_nil, bind, Option.bind_some, pure,
      required?_of_rearranged address, required?_of_rearranged balances,
      required?_of_rearranged issuer, optional?_of_rearranged rfl lastAttempt,
      optional?_of_rearranged rfl lastSuccess, required?_of_rearranged nextSeq]

instance : Lossless Claim where
  reads {claim _} rearranged := by
    obtain ⟨find, fields, found⟩ := Json.record?_of_rearranged rearranged (by simp)
    simp only [List.forall_mem_cons] at found
    obtain ⟨quantity, seq, _⟩ := found
    simp only [ofJson?]
    rw [fields _ (by simp)]
    simp only [List.map_cons, List.map_nil, bind, Option.bind_some, pure,
      required?_of_rearranged quantity, required?_of_rearranged seq]

instance : Lossless Claims where
  reads {claims _} rearranged := by
    obtain ⟨find, fields, found⟩ := Json.record?_of_rearranged rearranged (by simp)
    simp only [List.forall_mem_cons] at found
    simp only [ofJson?]
    rw [fields _ (by simp)]
    simp only [List.map_cons, List.map_nil, bind, Option.bind_some, pure,
      required?_of_rearranged found.1]

instance : Lossless Epoch where
  reads {epoch _} rearranged := by
    have index : (toJson epoch.index).Rearranged _ := rearranged
    exact congrArg (Option.map Epoch.mk) (Lossless.reads index)

instance : Lossless Budget where
  reads {budget _} rearranged := by
    obtain ⟨find, fields, found⟩ := Json.record?_of_rearranged rearranged (by simp)
    simp only [List.forall_mem_cons] at found
    simp only [ofJson?]
    rw [fields _ (by simp)]
    simp only [List.map_cons, List.map_nil, bind, Option.bind_some, pure,
      required?_of_rearranged found.1]

instance : Lossless Config where
  reads {config json} rearranged := by
    obtain ⟨find, fields, found⟩ := Json.record?_of_rearranged rearranged (by simp)
    simp only [List.forall_mem_cons] at found
    obtain ⟨epochLength, maxMatches, referencePrice, _⟩ := found
    have whole (names : List String) : json.partialRecord? names = json.record? names := by
      cases rearranged
      rfl
    simp only [ofJson?]
    rw [whole, fields _ (by simp)]
    simp only [List.map_cons, List.map_nil, bind, Option.bind_some, pure,
      withDefault?_of_rearranged _ epochLength, withDefault?_of_rearranged _ maxMatches,
      withDefault?_of_rearranged _ referencePrice]

instance : Lossless Hash.Digest where
  reads {digest json} rearranged := by
    have bytes : (toJson digest.toList).Rearranged json := rearranged
    have read : (ofJson? json : Option (List UInt8)) = some digest.toList := Lossless.reads bytes
    simp only [ofJson?, bind] at read ⊢
    rw [read, Option.bind_some, dif_pos (by simp)]
    exact congrArg some (Vector.toArray_inj.mp Array.toArray_toList)

instance : Lossless TickReport where
  reads {report _} rearranged := by
    obtain ⟨find, fields, found⟩ := Json.record?_of_rearranged rearranged (by simp)
    simp only [List.forall_mem_cons] at found
    obtain ⟨epoch, fillRoot, fills, gateOpen, moreWork, volume, _⟩ := found
    simp only [ofJson?]
    rw [fields _ (by simp)]
    simp only [List.map_cons, List.map_nil, bind, Option.bind_some, pure,
      required?_of_rearranged epoch, required?_of_rearranged fillRoot,
      required?_of_rearranged fills, required?_of_rearranged gateOpen,
      required?_of_rearranged moreWork, required?_of_rearranged volume]

instance : Lossless KeyHeap where
  reads {heap _} rearranged := by
    obtain ⟨find, fields, found⟩ := Json.record?_of_rearranged rearranged (by simp)
    simp only [List.forall_mem_cons] at found
    obtain ⟨id, keys, owner, _⟩ := found
    simp only [ofJson?]
    rw [fields _ (by simp)]
    simp only [List.map_cons, List.map_nil, bind, Option.bind_some, pure,
      required?_of_rearranged id, required?_of_rearranged keys, required?_of_rearranged owner]

instance : Lossless Book where
  reads {book _} rearranged := by
    obtain ⟨find, fields, found⟩ := Json.record?_of_rearranged rearranged (by simp)
    simp only [List.forall_mem_cons] at found
    obtain ⟨buy, first, second, sell, _⟩ := found
    simp only [ofJson?]
    rw [fields _ (by simp)]
    simp only [List.map_cons, List.map_nil, bind, Option.bind_some, pure,
      required?_of_rearranged buy, required?_of_rearranged first,
      required?_of_rearranged second, required?_of_rearranged sell]

instance : Lossless Market where
  reads {market _} rearranged := by
    obtain ⟨find, fields, found⟩ := Json.record?_of_rearranged rearranged (by simp)
    simp only [List.forall_mem_cons] at found
    obtain ⟨address, anchor, book, claims, config, volume, volumeEpoch, _⟩ := found
    simp only [ofJson?]
    rw [fields _ (by simp)]
    simp only [List.map_cons, List.map_nil, bind, Option.bind_some, pure,
      required?_of_rearranged address, required?_of_rearranged anchor,
      optional?_of_rearranged rfl book, required?_of_rearranged claims,
      required?_of_rearranged config, required?_of_rearranged volume,
      required?_of_rearranged volumeEpoch]

/-- A position is read back if its amounts have the width of amounts. -/
theorem position_of_rearranged {position : EscrowPosition}
    (committed : position.committed < Amount.size) (held : position.held < Amount.size)
    {json : Json} (rearranged : (toJson position).Rearranged json) :
    ofJson? json = some position := by
  obtain ⟨find, fields, found⟩ := Json.record?_of_rearranged rearranged (by simp)
  simp only [List.forall_mem_cons] at found
  obtain ⟨committedFound, heldFound, ledger, _⟩ := found
  simp only [ofJson?]
  rw [fields _ (by simp)]
  simp only [List.map_cons, List.map_nil, bind, Option.bind_some, pure,
    required?_of_rearranged ledger, natural?_of_rearranged committed committedFound,
    natural?_of_rearranged held heldFound]

end DoubleAuction.Stored
