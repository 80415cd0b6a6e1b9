import DoubleAuction.Proofs.Exchange.Progress
import DoubleAuction.Proofs.Stored.Records
import DoubleAuction.Stored.Exchange

/-! # Nothing is lost between two steps

Every stored text reads as the value that was stored, in whatever order the members of its objects
are written. So an exchange without refusals comes back as it was put down, and goes on as if it had
never been put down (`texts_lossless`).
-/

namespace DoubleAuction

namespace Stored

/-- A value is read back from its text, whatever the order of members. -/
def ReadBack {α : Type} [Stored α] (value : α) : Prop :=
  ∀ json, (toJson value).Rearranged json → ofText? α json.render = some value

theorem readBack_of_lossless {α : Type} [Stored α] [Lossless α] (value : α) : ReadBack value := by
  intro json rearranged
  rw [ofText?, Json.read?_render, Option.bind_some]
  exact Lossless.reads rearranged

theorem readBack_position {position : EscrowPosition}
    (committed : position.committed < Amount.size) (held : position.held < Amount.size) :
    ReadBack position := by
  intro json rearranged
  rw [ofText?, Json.read?_render, Option.bind_some]
  exact position_of_rearranged committed held rearranged

/-- The text of a value, with the members in the order of their names, is one of its texts. -/
theorem ReadBack.toText {α : Type} [Stored α] {value : α} (back : ReadBack value) :
    ofText? α (toText value) = some value :=
  back _ (.refl _)

end Stored

namespace Exchange

open Stored (ReadBack readBack_of_lossless)

/-- A turn that asks for no refusals, and writes texts that differ in the order of members only. -/
def Turn.Tame : Turn → Prop
  | .step taken => taken.refuses = false
  | .reload arrange => ∀ json : Json, json.Rearranged (arrange json)

section Turns

variable {exchange : Exchange}

/-- An exchange without refusals comes back as it was put down. -/
theorem reload?_eq_some (unrefused : ∀ side, (exchange.ledgers.get side).refusals = [])
    {arrange : Json → Json} (arranges : ∀ json : Json, json.Rearranged (arrange json)) :
    exchange.reload? arrange = some exchange := by
  have market := readBack_of_lossless exchange.market _ (arranges _)
  have token (side : Side) := readBack_of_lossless (exchange.ledgers.get side).token _ (arranges _)
  have ledgers : (⟨.ofToken (exchange.ledgers.get .buy).token,
      .ofToken (exchange.ledgers.get .sell).token⟩ : Sided RefusingToken) = exchange.ledgers := by
    ext1 side
    have none := unrefused side
    cases side with
    | buy => exact congrArg (RefusingToken.mk _) none.symm
    | sell => exact congrArg (RefusingToken.mk _) none.symm
  simp only [reload?, market, token, bind, Option.bind_some, pure, ledgers]

/-- Putting an exchange down between steps changes no answer and no later state. -/
theorem play?_eq_run (unrefused : ∀ side, (exchange.ledgers.get side).refusals = [])
    {turns : List Turn} (tame : ∀ turn ∈ turns, turn.Tame) :
    exchange.play? turns = some (exchange.run (turns.filterMap Turn.step?)) := by
  -- What comes back is the exchange itself only without refusals; every tame step leaves none.
  induction turns generalizing exchange with
  | nil => rfl
  | cons first rest ih =>
    have later : ∀ turn ∈ rest, turn.Tame :=
      fun turn member => tame turn (List.mem_cons_of_mem _ member)
    cases first with
    | step taken =>
      have next := ih (unrefused_step unrefused (tame _ List.mem_cons_self)) later
      simp only [play?, next, bind, Option.bind_some, pure]
      rfl
    | reload arrange =>
      have back := reload?_eq_some unrefused (tame _ List.mem_cons_self)
      simp only [play?, back, bind, Option.bind_some]
      exact ih unrefused later

end Turns

/-- Every stored value is read back from its text, in whatever order the members are written. So an
exchange without refusals that is put down between any steps and taken up again gives the answers,
and reaches the state, of the run without interruption. -/
theorem texts_lossless :
    ((∀ market : Market, ReadBack market) ∧ (∀ token : Token, ReadBack token) ∧
      (∀ heap : KeyHeap, ReadBack heap) ∧ (∀ claims : Claims, ReadBack claims) ∧
      (∀ config : Config, ReadBack config) ∧ (∀ report : TickReport, ReadBack report) ∧
      (∀ fill : Fill, ReadBack fill) ∧ (∀ order : Order, ReadBack order) ∧
      (∀ admission : Admission, ReadBack admission) ∧
      (∀ transfer : Transfer, ReadBack transfer) ∧ (∀ budget : Budget, ReadBack budget) ∧
      (∀ position : EscrowPosition, position.committed < Amount.size →
        position.held < Amount.size → ReadBack position) ∧
      (∀ claim : Claim, ReadBack claim) ∧ (∀ address : Address, ReadBack address) ∧
      (∀ key : Key, ReadBack key) ∧ (∀ epoch : Epoch, ReadBack epoch) ∧
      (∀ side : Side, ReadBack side) ∧ (∀ outcome : Outcome, ReadBack outcome) ∧
      ∀ reason : Rejection, ReadBack reason) ∧
    ∀ exchange : Exchange, (∀ side, (exchange.ledgers.get side).refusals = []) →
      ∀ turns : List Turn, (∀ turn ∈ turns, turn.Tame) →
        exchange.play? turns = some (exchange.run (turns.filterMap Turn.step?)) := by
  refine ⟨⟨readBack_of_lossless, readBack_of_lossless, readBack_of_lossless, readBack_of_lossless,
    readBack_of_lossless, readBack_of_lossless, readBack_of_lossless, readBack_of_lossless,
    readBack_of_lossless, readBack_of_lossless, readBack_of_lossless, ?_, readBack_of_lossless,
    readBack_of_lossless, readBack_of_lossless, readBack_of_lossless, readBack_of_lossless,
    readBack_of_lossless, readBack_of_lossless⟩, ?_⟩
  · intro position committed held
    exact Stored.readBack_position committed held
  · intro exchange unrefused turns tame
    exact play?_eq_run unrefused tame

/-- An object with its members in reverse; other values stay. -/
def backwards : Json → Json
  | .object members => .object members.reverse
  | json => json

theorem rearranged_backwards (json : Json) : json.Rearranged (backwards json) := by
  cases json with
  | object members =>
    exact .object rfl (List.forall₂_same.mpr fun _ _ => .refl _) (List.reverse_perm members).symm
  | _ => exact .refl _

/-- A bid and an ask are funded, placed and cleared. Before every step and behind it the exchange is
put down and taken up again. -/
def interrupted : List Turn :=
  (funded ++ [Step.tick 100 none]).flatMap fun step =>
    [.reload backwards, .step step, .reload id]

/-- The interruptions change nothing, and a position that holds the largest amount is read back. -/
theorem fresh_interrupted :
    fresh.play? interrupted = some (fresh.run (funded ++ [Step.tick 100 none])) ∧
      Stored.ofText? EscrowPosition
          (Stored.toText (EscrowPosition.mk ⟨0xc1⟩ 0 (Amount.size - 1))) =
        some ⟨⟨0xc1⟩, 0, Amount.size - 1⟩ := by
  obtain ⟨⟨_, _, _, _, _, _, _, _, _, _, _, position, _⟩, run⟩ := texts_lossless
  constructor
  · have steps : interrupted.filterMap Turn.step? = funded ++ [Step.tick 100 none] := rfl
    rw [← steps]
    refine run fresh (fun side => ?_) interrupted fun turn member => ?_
    · cases side <;> rfl
    · obtain ⟨step, inside, here⟩ := List.mem_flatMap.mp member
      simp only [List.mem_cons, List.not_mem_nil, or_false] at here
      rcases here with rfl | rfl | rfl
      · exact rearranged_backwards
      · have tame : ∀ step ∈ funded ++ [Step.tick 100 none], step.refuses = false := by decide
        exact tame step inside
      · exact .refl
  · exact (position ⟨⟨0xc1⟩, 0, Amount.size - 1⟩ (by decide) (by decide)).toText

end Exchange

end DoubleAuction
