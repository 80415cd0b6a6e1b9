import DoubleAuction.Proofs.Market.Rollback

/-! # The gate of a market

A market clears once a full epoch has passed since its anchor, and these are the heights of epoch 1
and later (`Market.one_le_epochAt_iff`). The sums are those of natural numbers. The height at which
the gate opens is a word, however: where the sum does not fit one, the gate opens at the last height
there is, which may lie in epoch 0 (`Market.gateOpen_iff`). At every other height of epoch 0 a tick
changes nothing (`Market.gate_follows_epoch`).
-/

namespace DoubleAuction

/-- A configuration that was accepted has epochs of some length. -/
theorem Config.epochLength_ne_zero {config : Config} (accepted : config.check = .ok ()) :
    config.epochLength ≠ 0 :=
  (guard_eq_ok.mp accepted).1

/-- The last height there is. -/
def lastHeight : UInt64 := .ofNat (UInt64.size - 1)

theorem eq_lastHeight_iff {height : UInt64} :
    height = lastHeight ↔ UInt64.size ≤ height.toNat + 1 := by
  have below := height.toNat_lt
  have last : lastHeight.toNat = UInt64.size - 1 := by decide
  rw [← UInt64.toNat_inj, last]
  dsimp only [UInt64.size]
  omega

namespace Market

variable {market : Market} {height : UInt64}

/-- A full epoch has passed at a height since the anchor. -/
def EpochPassed (market : Market) (height : UInt64) : Prop :=
  market.anchor.toNat + market.config.epochLength.toNat ≤ height.toNat

theorem one_le_epochAt_iff (length : market.config.epochLength ≠ 0) :
    1 ≤ (market.epochAt height).index ↔ market.EpochPassed height := by
  have positive : 0 < market.config.epochLength.toNat :=
    Nat.pos_of_ne_zero fun zero => length (UInt64.toNat_inj.mp zero)
  rw [UInt64.le_iff_toNat_le, epochAt, Epoch.toNat_index_atHeight, Nat.le_div_iff_mul_le positive,
    EpochPassed]
  change 1 * _ ≤ _ ↔ _
  omega

theorem toNat_opensAt (market : Market) :
    market.opensAt.toNat =
      min (market.anchor.toNat + market.config.epochLength.toNat) (UInt64.size - 1) := by
  have anchor := market.anchor.toNat_lt
  have length := market.config.epochLength.toNat_lt
  have sum := UInt64.toNat_add market.anchor market.config.epochLength
  simp only [opensAt, UInt64.lt_iff_toNat_lt]
  split
  case isTrue wraps =>
    change UInt64.size - 1 = _
    dsimp only [UInt64.size]
    omega
  case isFalse fits =>
    dsimp only [UInt64.size]
    omega

/-- The gate is open where a full epoch has passed, and always at the last height. -/
theorem gateOpen_iff :
    market.gateOpen height = true ↔ market.EpochPassed height ∨ height = lastHeight := by
  rw [gateOpen, decide_eq_true_eq, UInt64.le_iff_toNat_le, toNat_opensAt, eq_lastHeight_iff,
    EpochPassed]
  dsimp only [UInt64.size]
  omega

variable {L : Type u} [Ledger L]

/-- A tick before the gate opens changes nothing, and if it succeeds, it reports that. -/
theorem tick_of_early (early : market.gateOpen height = false) (ledgers : Sided L)
    (budget : Option Budget) :
    (market.tick ledgers height budget).market = market ∧
      (market.tick ledgers height budget).ledgers = ledgers ∧
      ∀ report, (market.tick ledgers height budget).result = .ok report →
        report = .idle (market.epochAt height) := by
  unfold tick
  cases found : market.plan? ledgers height budget with
  | error error => exact ⟨rfl, rfl, nofun⟩
  | ok planning =>
    cases planning with
    | none =>
      refine ⟨rfl, rfl, ?_⟩
      rintro report ⟨⟩
      rfl
    | some plan =>
      obtain ⟨_, planning⟩ := planning_of_found found
      rw [planning.gateOpen] at early
      cases early

/-- The epochs from 1 on begin when a full epoch has passed, and there the gate is open. In epoch 0
it is closed, and no tick changes anything, except at the last height there is. -/
theorem gate_follows_epoch (length : market.config.epochLength ≠ 0) (height : UInt64)
    (ledgers : Sided L) (budget : Option Budget) :
    (1 ≤ (market.epochAt height).index ↔ market.EpochPassed height) ∧
      (market.gateOpen height = true ↔ market.EpochPassed height ∨ height = lastHeight) ∧
      (height ≠ lastHeight → (market.epochAt height).index = 0 →
        (market.tick ledgers height budget).market = market ∧
          (market.tick ledgers height budget).ledgers = ledgers ∧
          ∀ report, (market.tick ledgers height budget).result = .ok report →
            report = .idle (market.epochAt height)) := by
  refine ⟨one_le_epochAt_iff length, gateOpen_iff, ?_⟩
  intro notLast collecting
  have notPassed : ¬ market.EpochPassed height := by
    rw [← one_le_epochAt_iff length, collecting]
    decide
  have closed : ¬ market.gateOpen height = true := by
    rw [gateOpen_iff, not_or]
    exact ⟨notPassed, notLast⟩
  exact tick_of_early (Bool.eq_false_iff.mpr closed) ledgers budget

/-- A market anchored fifty heights before the last, whose first epoch would end after it. -/
def lateMarket : Market := { crossedMarket with anchor := 0xffffffffffffffcd }

/-- Its ledgers, which hold the escrow of both orders. -/
def lateLedgers : Sided RefusingToken where
  buy := .ofToken ((Token.create ⟨0xc1⟩ ⟨0x15⟩).setBalance ⟨0x4d⟩ 1000)
  sell := .ofToken ((Token.create ⟨0xc2⟩ ⟨0x15⟩).setBalance ⟨0x4d⟩ 1000000)

/-- One height before the end nothing happens. -/
theorem lateMarket_waits :
    ¬ lateMarket.EpochPassed 0xfffffffffffffffe ∧
      lateMarket.gateOpen 0xfffffffffffffffe = false ∧
      (lateMarket.tick lateLedgers 0xfffffffffffffffe none).market = lateMarket ∧
      (lateMarket.tick lateLedgers 0xfffffffffffffffe none).ledgers = lateLedgers := by
  have length : lateMarket.config.epochLength ≠ 0 := Config.epochLength_ne_zero rfl
  obtain ⟨_, gate, unchanged⟩ :=
    gate_follows_epoch length 0xfffffffffffffffe lateLedgers none
  have notPassed : ¬ lateMarket.EpochPassed 0xfffffffffffffffe := by
    unfold EpochPassed
    decide
  have notLast : (0xfffffffffffffffe : UInt64) ≠ lastHeight := by decide
  have closed : lateMarket.gateOpen 0xfffffffffffffffe = false := by
    rw [Bool.eq_false_iff, ne_eq, gate, not_or]
    exact ⟨notPassed, notLast⟩
  obtain ⟨market, ledgers, _⟩ := unchanged notLast (by decide)
  exact ⟨notPassed, closed, market, ledgers⟩

/-- At the end the two orders are matched and paid in epoch 0, with fifty heights still to go. -/
theorem lateMarket_clears_early :
    lateMarket.config.check = .ok () ∧
      ¬ lateMarket.EpochPassed lastHeight ∧
      (lateMarket.epochAt lastHeight).index = 0 ∧
      lateMarket.gateOpen lastHeight = true ∧
      ((lateMarket.tick lateLedgers lastHeight none).result.toOption.map fun report =>
        (report.epoch.index, report.gateOpen, report.volume)) = some (0, true, 833) ∧
      ((lateMarket.tick lateLedgers lastHeight none).ledgers.get .buy).token.balance ⟨0xa2⟩ =
        833 := by
  refine ⟨rfl, ?_⟩
  unfold EpochPassed
  decide +kernel

end Market

end DoubleAuction
