import DoubleAuction.Ledger.Token
import DoubleAuction.Market.Claims
import Mathlib.Logic.Function.Basic

/-! # Deposits on many ledgers

Deposits are claimed on any number of tokens, each of which acts as the ledger of its address. They
move by steps, each on one ledger: units are issued and sent, and the latest transfer is inspected,
claimed or retired. A run writes down every step with the answer to it.
-/

namespace DoubleAuction

/-- Tokens, and what has been claimed of their transfers. -/
structure Deposits (ι : Type u) where
  claims : Claims
  tokens : ι → Token

namespace Deposits

/-- What may be done on a ledger. -/
inductive Action where
  | issue (caller recipient : Address) (amount : Amount)
  | send (sender recipient : Address) (amount : Amount)
  | inspect (depositor recipient : Address)
  | claim (depositor recipient : Address)
  | retireLatest
  deriving DecidableEq, Repr

/-- The answer to an action. -/
inductive Answer where
  | done (success : Bool)
  | offered (claim : Claim)
  | rejected (reason : Rejection)
  | retired
  deriving DecidableEq, Repr

/-- The answer that a verdict on a deposit gives. -/
def Answer.ofVerdict : Except Rejection Claim → Answer
  | .ok claim => .offered claim
  | .error reason => .rejected reason

/-- An action on one of the ledgers. -/
structure Step (ι : Type u) where
  ledger : ι
  action : Action
  deriving DecidableEq, Repr

/-- A step that was carried out, with its answer. -/
structure Event (ι : Type u) extends Step ι where
  answer : Answer
  deriving DecidableEq, Repr

variable {ι : Type u} [DecidableEq ι]

/-- New tokens, of whose transfers nothing has been claimed. -/
def opening (addresses issuers : ι → Address) : Deposits ι :=
  ⟨.empty, fun ledger => .create (addresses ledger) (issuers ledger)⟩

/-- Replaces one token. -/
def setToken (deposits : Deposits ι) (ledger : ι) (token : Token) : Deposits ι :=
  { deposits with tokens := Function.update deposits.tokens ledger token }

/-- Carries out a step. -/
def step (deposits : Deposits ι) (step : Step ι) : Answer × Deposits ι :=
  let token := deposits.tokens step.ledger
  match step.action with
  | .issue caller recipient amount =>
    let (success, token) := token.issue caller recipient amount
    (.done success, deposits.setToken step.ledger token)
  | .send sender recipient amount =>
    let (success, token) := token.send sender recipient amount
    (.done success, deposits.setToken step.ledger token)
  | .inspect depositor recipient =>
    (.ofVerdict (deposits.claims.inspect token depositor recipient), deposits)
  | .claim depositor recipient =>
    match deposits.claims.claim token depositor recipient with
    | .ok (claim, claims) => (.offered claim, { deposits with claims })
    | .error reason => (.rejected reason, deposits)
  | .retireLatest => (.retired, { deposits with claims := deposits.claims.retireLatest token })

/-- Carries out steps in order. -/
def run (deposits : Deposits ι) : List (Step ι) → List (Event ι) × Deposits ι
  | [] => ([], deposits)
  | first :: rest =>
    let (answer, next) := deposits.step first
    let (events, last) := next.run rest
    (⟨first, answer⟩ :: events, last)

end Deposits

end DoubleAuction
