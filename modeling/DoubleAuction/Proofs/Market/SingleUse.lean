import DoubleAuction.Market.Deposits
import DoubleAuction.Proofs.Ledger.Books
import DoubleAuction.Proofs.Market.Admissions
import Mathlib.Data.List.Induction

/-! # A transfer funds at most one order

The log of a run tells which attempts to send were made on a ledger; the place of an attempt is its
number (`attemptsOn`). Every token agrees with its log (`Books`), so its latest transfer has the
highest number of all made. A used number stays used, and only unused numbers can be claimed:
whatever was used, or came before it, is out of reach of every later claim (`run_claims_unused`).
-/

namespace DoubleAuction

namespace Deposits

variable {ι : Type u} [DecidableEq ι]

/-- The attempt to send on a ledger that an event tells of, under a number. -/
def Event.attemptOn? (event : Event ι) (ledger : ι) (seq : UInt64) : Option Transfer :=
  match event.action, event.answer with
  | .send sender recipient amount, .done success =>
    if event.ledger = ledger then some ⟨seq, sender, recipient, amount, success⟩ else none
  | _, _ => none

/-- The attempts to send on a ledger, oldest first, each numbered by its place. -/
def attemptsOn (ledger : ι) (events : List (Event ι)) : List Transfer :=
  events.foldl (fun attempts event =>
    attempts ++ (event.attemptOn? ledger (.ofNat (attempts.length + 1))).toList) []

/-- The transfers made on a ledger, oldest first. -/
def transfersOn (ledger : ι) (events : List (Event ι)) : List Transfer :=
  (attemptsOn ledger events).filter (·.success)

/-- The claim made on a ledger that an event tells of. -/
def Event.claimOn? (event : Event ι) (ledger : ι) : Option Claim :=
  match event.action, event.answer with
  | .claim _ _, .offered claim => if event.ledger = ledger then some claim else none
  | _, _ => none

/-- The claims made on a ledger, oldest first. -/
def claimsOn (ledger : ι) (events : List (Event ι)) : List Claim :=
  events.filterMap (·.claimOn? ledger)

section Logs

theorem attemptsOn_concat (ledger : ι) (events : List (Event ι)) (event : Event ι) :
    attemptsOn ledger (events ++ [event]) = attemptsOn ledger events ++
      (event.attemptOn? ledger (.ofNat ((attemptsOn ledger events).length + 1))).toList := by
  simp only [attemptsOn, List.foldl_append, List.foldl_cons, List.foldl_nil]

theorem attemptOn?_seq {event : Event ι} {ledger : ι} {seq : UInt64} {attempt : Transfer}
    (attempted : event.attemptOn? ledger seq = some attempt) : attempt.seq = seq := by
  unfold Event.attemptOn? at attempted
  split at attempted
  case h_1 =>
    split at attempted
    case isTrue => exact (congrArg Transfer.seq (Option.some.inj attempted)).symm
    case isFalse => cases attempted
  case h_2 => cases attempted

theorem attemptsOn_seqs (ledger : ι) (events : List (Event ι)) :
    (attemptsOn ledger events).map (·.seq) =
      (List.range (attemptsOn ledger events).length).map fun place => .ofNat (place + 1) := by
  induction events using List.reverseRecOn with
  | nil => rfl
  | append_singleton events event ih =>
    rw [attemptsOn_concat]
    cases attempted : event.attemptOn? ledger (.ofNat ((attemptsOn ledger events).length + 1)) with
    | none => simpa using ih
    | some attempt => simp [List.range_succ, ih, attemptOn?_seq attempted]

/-- As long as the numbers do not run out, a later attempt has a higher number. -/
theorem attemptsOn_increasing {ledger : ι} {events : List (Event ι)}
    (inRange : (attemptsOn ledger events).length + 1 < UInt64.size) :
    (attemptsOn ledger events).Pairwise fun earlier later => earlier.seq < later.seq := by
  have seqs : ((attemptsOn ledger events).map (·.seq)).Pairwise (· < ·) := by
    rw [attemptsOn_seqs, List.pairwise_map]
    apply List.pairwise_lt_range.imp_of_mem
    intro first second _ inside less
    have bound := List.mem_range.mp inside
    have size : UInt64.size = 2 ^ 64 := rfl
    rw [UInt64.lt_iff_toNat_lt, UInt64.toNat_ofNat', UInt64.toNat_ofNat',
      Nat.mod_eq_of_lt (by omega), Nat.mod_eq_of_lt (by omega)]
    omega
  rwa [List.pairwise_map] at seqs

/-- The latest transfer has the highest number. -/
theorem seq_le_latest {ledger : ι} {events : List (Event ι)}
    (inRange : (attemptsOn ledger events).length + 1 < UInt64.size) {latest : Transfer}
    (last : (transfersOn ledger events).getLast? = some latest) :
    ∀ transfer ∈ transfersOn ledger events, transfer.seq ≤ latest.seq := by
  have increasing := (attemptsOn_increasing inRange).filter (·.success)
  change (transfersOn ledger events).Pairwise _ at increasing
  obtain ⟨earlier, split⟩ := List.getLast?_eq_some_iff.mp last
  rw [split] at increasing ⊢
  intro transfer member
  rcases List.mem_append.mp member with before | here
  · exact UInt64.le_of_lt ((List.pairwise_append.mp increasing).2.2 transfer before latest
      (List.mem_singleton_self latest))
  · rw [List.mem_singleton.mp here]
    exact UInt64.le_refl _

end Logs

section Steps

/-- What an action on a ledger answers and leaves. -/
inductive StepEnd (deposits : Deposits ι) (ledger : ι) : Action → Answer → Deposits ι → Prop
  | issued (caller recipient : Address) (amount : Amount) :
      StepEnd deposits ledger (.issue caller recipient amount)
        (.done ((deposits.tokens ledger).issue caller recipient amount).1)
        (deposits.setToken ledger ((deposits.tokens ledger).issue caller recipient amount).2)
  | sent (sender recipient : Address) (amount : Amount) :
      StepEnd deposits ledger (.send sender recipient amount)
        (.done ((deposits.tokens ledger).send sender recipient amount).1)
        (deposits.setToken ledger ((deposits.tokens ledger).send sender recipient amount).2)
  | inspected (depositor recipient : Address) :
      StepEnd deposits ledger (.inspect depositor recipient)
        (.ofVerdict (deposits.claims.inspect (deposits.tokens ledger) depositor recipient)) deposits
  | rejected {depositor recipient : Address} {reason : Rejection}
      (refused : deposits.claims.inspect (deposits.tokens ledger) depositor recipient =
        .error reason) :
      StepEnd deposits ledger (.claim depositor recipient) (.rejected reason) deposits
  | claimed {depositor recipient : Address} {transfer : Transfer}
      (latest : (deposits.tokens ledger).lastSuccess = some transfer)
      (claimable : deposits.claims.Claimable (deposits.tokens ledger).address depositor recipient
        transfer) :
      StepEnd deposits ledger (.claim depositor recipient)
        (.offered ⟨transfer.seq, .ofNat transfer.amount.toNat⟩)
        { deposits with
          claims := deposits.claims.use (deposits.tokens ledger).address transfer.seq }
  | retired :
      StepEnd deposits ledger .retireLatest .retired
        { deposits with claims := deposits.claims.retireLatest (deposits.tokens ledger) }

theorem step_end (deposits : Deposits ι) (step : Step ι) :
    StepEnd deposits step.ledger step.action (deposits.step step).1 (deposits.step step).2 := by
  obtain ⟨ledger, action⟩ := step
  cases action with
  | issue caller recipient amount => exact .issued caller recipient amount
  | send sender recipient amount => exact .sent sender recipient amount
  | inspect depositor recipient => exact .inspected depositor recipient
  | claim depositor recipient =>
    simp only [step]
    cases claimed : deposits.claims.claim (deposits.tokens ledger) depositor recipient with
    | ok made =>
      obtain ⟨claim, claims⟩ := made
      obtain ⟨inspected, rfl⟩ := Claims.claim_eq_ok_iff.mp claimed
      obtain ⟨transfer, latest, claimable, rfl⟩ := Claims.inspect_eq_ok_iff.mp inspected
      exact .claimed latest claimable
    | error reason => exact .rejected (Claims.claim_eq_error_iff.mp claimed)
  | retireLatest => exact .retired

variable {deposits next : Deposits ι} {ledger other : ι} {action : Action} {answer : Answer}

/-- A step leaves the tokens of the other ledgers as they are. -/
theorem StepEnd.token_of_ne (ended : StepEnd deposits ledger action answer next)
    (elsewhere : other ≠ ledger) : next.tokens other = deposits.tokens other := by
  cases ended with
  | issued => exact Function.update_of_ne elsewhere _ _
  | sent => exact Function.update_of_ne elsewhere _ _
  | inspected => rfl
  | rejected => rfl
  | claimed => rfl
  | retired => rfl

theorem StepEnd.address (ended : StepEnd deposits ledger action answer next) (other : ι) :
    (next.tokens other).address = (deposits.tokens other).address := by
  by_cases here : other = ledger
  · subst here
    cases ended with
    | issued => simp only [setToken, Function.update_self, Token.address_issue]
    | sent => simp only [setToken, Function.update_self, Token.address_send]
    | inspected => rfl
    | rejected => rfl
    | claimed => rfl
    | retired => rfl
  · rw [ended.token_of_ne here]

/-- The books of every token go on agreeing with the log. -/
theorem StepEnd.books (ended : StepEnd deposits ledger action answer next)
    {attempts : List Transfer} (books : (deposits.tokens other).Books attempts) :
    (next.tokens other).Books (attempts ++
      ((Event.mk ⟨ledger, action⟩ answer).attemptOn? other
        (.ofNat (attempts.length + 1))).toList) := by
  by_cases here : ledger = other
  · subst here
    cases ended with
    | issued caller recipient amount =>
      simpa [Event.attemptOn?, setToken] using books.issue caller recipient amount
    | sent sender recipient amount =>
      simpa [Event.attemptOn?, setToken] using books.send sender recipient amount
    | inspected => simpa [Event.attemptOn?] using books
    | rejected => simpa [Event.attemptOn?] using books
    | claimed => simpa [Event.attemptOn?] using books
    | retired => simpa [Event.attemptOn?] using books
  · have silent (seq : UInt64) :
        (Event.mk ⟨ledger, action⟩ answer).attemptOn? other seq = none := by
      unfold Event.attemptOn?
      split
      · exact if_neg here
      · rfl
    rw [ended.token_of_ne (Ne.symm here), silent, Option.toList_none, List.append_nil]
    exact books

/-- Every number used stays used. -/
theorem StepEnd.extends (ended : StepEnd deposits ledger action answer next) :
    deposits.claims.Extends next.claims := by
  cases ended with
  | issued => exact .refl _
  | sent => exact .refl _
  | inspected => exact .refl _
  | rejected => exact .refl _
  | claimed latest claimable => exact claimable.extends
  | retired => exact Claims.extends_retireLatest _ _

/-- Only the number of the step's own ledger changes. -/
theorem StepEnd.lastClaimed_of_ne (ended : StepEnd deposits ledger action answer next)
    {address : Address} (elsewhere : (deposits.tokens ledger).address ≠ address) :
    next.claims.lastClaimed address = deposits.claims.lastClaimed address := by
  cases ended with
  | issued => rfl
  | sent => rfl
  | inspected => rfl
  | rejected => rfl
  | claimed => exact (Claims.lastClaimed_use _ _ _ _).trans (if_neg elsewhere)
  | retired =>
    rw [Claims.lastClaimed_retireLatest]
    split
    case h_1 => rfl
    case h_2 => exact if_neg elsewhere

/-- A step on one ledger does not change what anyone can claim on another. -/
theorem StepEnd.inspect_of_ne (ended : StepEnd deposits ledger action answer next)
    (distinct : Function.Injective fun ledger => (deposits.tokens ledger).address)
    (elsewhere : other ≠ ledger) (depositor recipient : Address) :
    next.claims.inspect (next.tokens other) depositor recipient =
      deposits.claims.inspect (deposits.tokens other) depositor recipient := by
  rw [ended.token_of_ne elsewhere]
  apply Claims.inspect_congr
  apply ended.lastClaimed_of_ne
  intro same
  exact elsewhere (distinct same).symm

/-- An event that tells of a claim is a claim of the latest transfer, whose number is used from
then on and was not before. -/
theorem StepEnd.of_claimOn? (ended : StepEnd deposits ledger action answer next) {claim : Claim}
    (told : (Event.mk ⟨ledger, action⟩ answer).claimOn? other = some claim) :
    ledger = other ∧ ∃ transfer, (deposits.tokens ledger).lastSuccess = some transfer ∧
      claim.seq = transfer.seq ∧
      deposits.claims.isUsed (deposits.tokens ledger).address transfer.seq = false ∧
      next.claims.isUsed (deposits.tokens ledger).address transfer.seq = true := by
  cases ended with
  | claimed latest claimable =>
    simp only [Event.claimOn?, Option.ite_none_right_eq_some, Option.some.injEq] at told
    obtain ⟨here, rfl⟩ := told
    exact ⟨here, _, latest, rfl, claimable.unused, Claims.isUsed_use _ _ _⟩
  | issued => simp [Event.claimOn?] at told
  | sent => simp [Event.claimOn?] at told
  | inspected => simp [Event.claimOn?] at told
  | rejected => simp [Event.claimOn?] at told
  | retired => simp [Event.claimOn?] at told

/-- A claim and a retirement use the latest transfer of their ledger. -/
theorem StepEnd.spends (ended : StepEnd deposits ledger action answer next)
    (spending : (∃ claim, (Event.mk ⟨ledger, action⟩ answer).claimOn? ledger = some claim) ∨
      action = .retireLatest) {transfer : Transfer}
    (latest : (deposits.tokens ledger).lastSuccess = some transfer) :
    next.claims.isUsed (deposits.tokens ledger).address transfer.seq = true := by
  rcases spending with ⟨claim, told⟩ | rfl
  · obtain ⟨_, other, also, _, _, used⟩ := ended.of_claimOn? told
    obtain rfl : transfer = other := Option.some.inj (latest.symm.trans also)
    exact used
  · cases ended with
    | retired => exact Claims.isUsed_retireLatest _ latest

end Steps

section Runs

/-- What is claimed in a run was not used before it. -/
theorem run_claims_unused (deposits : Deposits ι) (steps : List (Step ι)) (ledger : ι) :
    ∀ claim ∈ claimsOn ledger (deposits.run steps).1,
      deposits.claims.isUsed (deposits.tokens ledger).address claim.seq = false := by
  induction steps generalizing deposits with
  | nil => simp [run, claimsOn]
  | cons first rest ih =>
    intro claim member
    have ended := step_end deposits first
    obtain ⟨event, logged, told⟩ := List.mem_filterMap.mp member
    rcases List.mem_cons.mp logged with rfl | later
    · obtain ⟨rfl, transfer, _, same, unused, _⟩ := ended.of_claimOn? told
      rw [same]
      exact unused
    · have unused := ih (deposits.step first).2 claim (List.mem_filterMap.mpr ⟨event, later, told⟩)
      rw [ended.address] at unused
      exact ended.extends.unused unused

/-- The numbers of the claims on a ledger grow. -/
theorem run_claims_increasing (deposits : Deposits ι) (steps : List (Step ι)) (ledger : ι) :
    (claimsOn ledger (deposits.run steps).1).Pairwise
      fun earlier later => earlier.seq < later.seq := by
  induction steps generalizing deposits with
  | nil => exact .nil
  | cons first rest ih =>
    have ended := step_end deposits first
    have increasing := ih (deposits.step first).2
    simp only [run, claimsOn, List.filterMap_cons] at increasing ⊢
    split
    case h_1 => exact increasing
    case h_2 claim told =>
      obtain ⟨rfl, transfer, _, same, _, used⟩ := ended.of_claimOn? told
      refine List.pairwise_cons.mpr ⟨?_, increasing⟩
      intro later member
      have unused := run_claims_unused (deposits.step first).2 rest first.ledger later member
      rw [ended.address] at unused
      rw [same]
      exact Claims.lt_of_unused used unused

theorem run_append (deposits : Deposits ι) (first rest : List (Step ι)) :
    deposits.run (first ++ rest) =
      ((deposits.run first).1 ++ ((deposits.run first).2.run rest).1,
        ((deposits.run first).2.run rest).2) := by
  induction first generalizing deposits with
  | nil => rfl
  | cons step first ih => simp only [List.cons_append, run, ih]

theorem run_address (deposits : Deposits ι) (steps : List (Step ι)) (ledger : ι) :
    ((deposits.run steps).2.tokens ledger).address = (deposits.tokens ledger).address := by
  induction steps generalizing deposits with
  | nil => rfl
  | cons first rest ih => exact (ih _).trans ((step_end deposits first).address ledger)

theorem opening_books (addresses issuers : ι → Address) (ledger : ι) :
    ((opening addresses issuers).tokens ledger).Books (attemptsOn ledger []) :=
  Token.books_create (addresses ledger) (issuers ledger)

/-- The books of a token agree with the log, if they did when the log was begun. -/
theorem run_books {deposits : Deposits ι} {ledger : ι} {history : List (Event ι)}
    (books : (deposits.tokens ledger).Books (attemptsOn ledger history)) (steps : List (Step ι)) :
    ((deposits.run steps).2.tokens ledger).Books
      (attemptsOn ledger (history ++ (deposits.run steps).1)) := by
  induction steps generalizing deposits history with
  | nil =>
    rw [run, List.append_nil]
    exact books
  | cons first rest ih =>
    have written := (step_end deposits first).books books
    rw [← attemptsOn_concat] at written
    have later := ih written
    rwa [List.append_assoc] at later

/-- There were no more attempts at the start of a log than in all of it. -/
theorem length_attemptsOn_le (ledger : ι) (events later : List (Event ι)) :
    (attemptsOn ledger events).length ≤ (attemptsOn ledger (events ++ later)).length := by
  induction later using List.reverseRecOn with
  | nil => exact Nat.le_of_eq (by rw [List.append_nil])
  | append_singleton later event ih =>
    rw [← List.append_assoc, attemptsOn_concat, List.length_append]
    exact Nat.le_add_right_of_le ih

/-- An event in a run keeps the rule that a transfer is used once: `history` is the log before it
and `later` the log after it. -/
structure UsedOnce (history : List (Event ι)) (before : Deposits ι) (event : Event ι)
    (after : Deposits ι) (later : List (Event ι)) : Prop where
  /-- The highest number used on a ledger never falls. -/
  monotone : ∀ ledger last, before.claims.lastClaimed ledger = some last →
    ∃ higher, after.claims.lastClaimed ledger = some higher ∧ last ≤ higher
  /-- What is claimed is the latest transfer of the ledger. -/
  claimed : ∀ depositor recipient claim, event.action = .claim depositor recipient →
    event.answer = .offered claim → ∃ transfer,
      (transfersOn event.ledger history).getLast? = some transfer ∧
        claim.seq = transfer.seq ∧ claim.quantity.toNat = transfer.amount.toNat ∧
        transfer.sender = depositor ∧ transfer.recipient = recipient ∧
        0 < transfer.amount.toNat ∧ transfer.amount.toNat < fieldLimit
  /-- Whoever paid the recipient with the latest transfer can claim it, if it fits and is new. -/
  claimable : ∀ depositor recipient, event.action = .claim depositor recipient →
    ((∃ claim, event.answer = .offered claim) ↔ ∃ transfer,
      (transfersOn event.ledger history).getLast? = some transfer ∧
        before.claims.Claimable (before.tokens event.ledger).address depositor recipient transfer)
  /-- After a claim, or when the latest transfer is retired, no transfer made so far is claimed. -/
  spent : (∃ claim, event.claimOn? event.ledger = some claim) ∨ event.action = .retireLatest →
    ∀ transfer ∈ transfersOn event.ledger history, ∀ claim ∈ claimsOn event.ledger later,
      transfer.seq < claim.seq
  /-- What anyone can claim on another ledger stays the same. -/
  elsewhere : ∀ other, other ≠ event.ledger → ∀ depositor recipient,
    after.claims.inspect (after.tokens other) depositor recipient =
      before.claims.inspect (before.tokens other) depositor recipient
  /-- An inspection and a rejected claim change nothing. -/
  unchanged : (∃ depositor recipient, event.action = .inspect depositor recipient) ∨
    (∃ reason, event.answer = .rejected reason) → after = before

theorem StepEnd.usedOnce {history : List (Event ι)} {deposits next : Deposits ι} {ledger : ι}
    {action : Action} {answer : Answer} (ended : StepEnd deposits ledger action answer next)
    (distinct : Function.Injective fun ledger => (deposits.tokens ledger).address)
    (books : (deposits.tokens ledger).Books (attemptsOn ledger history))
    (inRange : (attemptsOn ledger history).length + 1 < UInt64.size) (rest : List (Step ι)) :
    UsedOnce history deposits ⟨⟨ledger, action⟩, answer⟩ next (next.run rest).1 where
  monotone _ _ found := ended.extends.lastClaimed found
  claimed := by
    rintro depositor recipient claim ⟨⟩ ⟨⟩
    cases ended with
    | @claimed _ _ transfer latest claimable =>
      have small : transfer.amount.toNat < 2 ^ 48 := claimable.fits
      refine ⟨transfer, books.lastSuccess.symm.trans latest, rfl, ?_, claimable.sender,
        claimable.recipient, ?_, claimable.fits⟩
      · rw [UInt64.toNat_ofNat']
        exact Nat.mod_eq_of_lt (by omega)
      · apply Nat.pos_of_ne_zero
        intro zero
        exact claimable.positive (BitVec.eq_of_toNat_eq zero)
  claimable := by
    rintro depositor recipient ⟨⟩
    have latestMade : (transfersOn ledger history).getLast? =
        (deposits.tokens ledger).lastSuccess := books.lastSuccess.symm
    rw [latestMade]
    cases ended with
    | claimed latest claimable => exact ⟨fun _ => ⟨_, latest, claimable⟩, fun _ => ⟨_, rfl⟩⟩
    | rejected refused =>
      constructor
      · rintro ⟨claim, ⟨⟩⟩
      · rintro ⟨transfer, latest, claimable⟩
        rw [Claims.inspect_eq_ok_iff.mpr ⟨transfer, latest, claimable, rfl⟩] at refused
        cases refused
  spent := by
    intro spending transfer made claim member
    cases last : (transfersOn ledger history).getLast? with
    | none =>
      rw [List.getLast?_eq_none_iff.mp last] at made
      cases made
    | some latest =>
      have used := ended.spends spending (books.lastSuccess.trans last)
      have unused := run_claims_unused next rest ledger claim member
      rw [ended.address] at unused
      exact UInt64.lt_of_le_of_lt (seq_le_latest inRange last transfer made)
        (Claims.lt_of_unused used unused)
  elsewhere _ elsewhere depositor recipient :=
    ended.inspect_of_ne distinct elsewhere depositor recipient
  unchanged := by
    rintro (⟨depositor, recipient, ⟨⟩⟩ | ⟨reason, ⟨⟩⟩)
    · cases ended
      rfl
    · generalize answered : Answer.rejected reason = answer at ended
      cases ended with
      | inspected => rfl
      | rejected => rfl
      | issued => cases answered
      | sent => cases answered
      | claimed => cases answered
      | retired => cases answered

/-- In every run from new tokens with different addresses, as long as no ledger runs out of numbers,
each transfer funds at most one order: the numbers of the claims on a ledger grow, and every event
keeps to `UsedOnce`. -/
theorem transfer_used_once {addresses : ι → Address} (distinct : Function.Injective addresses)
    (issuers : ι → Address) (steps : List (Step ι))
    (inRange : ∀ ledger, (attemptsOn ledger ((opening addresses issuers).run steps).1).length + 1 <
      UInt64.size) :
    (∀ ledger, (claimsOn ledger ((opening addresses issuers).run steps).1).Pairwise
      fun earlier later => earlier.seq < later.seq) ∧
    ∀ first step rest, steps = first ++ step :: rest →
      let (history, before) := (opening addresses issuers).run first
      let (answer, after) := before.step step
      UsedOnce history before ⟨step, answer⟩ after (after.run rest).1 := by
  refine ⟨run_claims_increasing _ steps, ?_⟩
  rintro first ⟨ledger, action⟩ rest rfl
  refine (step_end ((opening addresses issuers).run first).2 ⟨ledger, action⟩).usedOnce
    ?_ ?_ ?_ rest
  · intro one other same
    dsimp only at same
    rw [run_address, run_address] at same
    exact distinct same
  · exact run_books (opening_books addresses issuers ledger) first
  · have bound := inRange ledger
    rw [run_append] at bound
    have fewer := length_attemptsOn_le ledger ((opening addresses issuers).run first).1
      (((opening addresses issuers).run first).2.run (⟨ledger, action⟩ :: rest)).1
    exact Nat.lt_of_le_of_lt (Nat.succ_le_succ fewer) bound

/-- The names of two ledgers. -/
def twoAddresses (second : Bool) : Address := if second then ⟨0xc2⟩ else ⟨0xc1⟩

/-- A trader pays a market on one ledger: a payment that is claimed, one that fails, one that is
claimed, and one that is retired. On the other ledger nothing is claimed. -/
def fourPayments : List (Step Bool) :=
  [⟨false, .issue ⟨0x15⟩ ⟨0xa1⟩ 100⟩, ⟨false, .send ⟨0xa1⟩ ⟨0x3a⟩ 5⟩,
    ⟨false, .claim ⟨0xa2⟩ ⟨0x3a⟩⟩, ⟨false, .claim ⟨0xa1⟩ ⟨0x3a⟩⟩, ⟨false, .send ⟨0xa1⟩ ⟨0x3a⟩ 900⟩,
    ⟨false, .claim ⟨0xa1⟩ ⟨0x3a⟩⟩, ⟨true, .inspect ⟨0xa1⟩ ⟨0x3a⟩⟩, ⟨false, .send ⟨0xa1⟩ ⟨0x3a⟩ 7⟩,
    ⟨false, .claim ⟨0xa1⟩ ⟨0x3a⟩⟩, ⟨false, .send ⟨0xa1⟩ ⟨0x3a⟩ 9⟩, ⟨false, .retireLatest⟩,
    ⟨false, .claim ⟨0xa1⟩ ⟨0x3a⟩⟩]

theorem fourPayments_used_once :
    Function.Injective twoAddresses ∧
      (∀ ledger, (attemptsOn ledger ((opening twoAddresses fun _ => ⟨0x15⟩).run
        fourPayments).1).length + 1 < UInt64.size) ∧
      claimsOn false ((opening twoAddresses fun _ => ⟨0x15⟩).run fourPayments).1 =
        [⟨1, 5⟩, ⟨3, 7⟩] ∧
      (claimsOn false ((opening twoAddresses fun _ => ⟨0x15⟩).run fourPayments).1).Pairwise
        fun earlier later => earlier.seq < later.seq := by
  have distinct : Function.Injective twoAddresses := by
    intro first second
    revert first second
    decide
  have inRange : ∀ ledger, (attemptsOn ledger ((opening twoAddresses fun _ => ⟨0x15⟩).run
      fourPayments).1).length + 1 < UInt64.size := by
    decide +kernel
  exact ⟨distinct, inRange, by decide +kernel,
    (transfer_used_once distinct (fun _ => ⟨0x15⟩) fourPayments inRange).1 false⟩

end Runs

end Deposits

end DoubleAuction
