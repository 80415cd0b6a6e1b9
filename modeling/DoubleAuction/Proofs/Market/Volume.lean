import Mathlib.Data.List.DropRight
import DoubleAuction.Proofs.Market.BookInvariant

/-! # The volume of a market

The volume of a market is what its sellers were paid in the latest epoch that it cleared. A call
keeps the volume and its epoch, or it is a tick that clears: then the fills of its report are added
to the volume, which begins at zero in another epoch (`VolumeStep`, `volume_step`). Over any run
from a new market the volume is therefore that of the last reports which share an epoch
(`Accumulates`, `Accumulates.run`). When the heights of the ticks never decrease, neither do the
epochs of the reports, and these last reports are all of their epoch (`latestEpoch_eq_filter`).
-/

namespace DoubleAuction

namespace Epoch

/-- A later height is in a later epoch or the same. -/
theorem index_atHeight_le (anchor length : UInt64) {height later : UInt64}
    (ordered : height ≤ later) :
    (atHeight anchor length height).index ≤ (atHeight anchor length later).index := by
  rw [UInt64.le_iff_toNat_le] at ordered ⊢
  rw [toNat_index_atHeight, toNat_index_atHeight]
  exact Nat.div_le_div_right (Nat.sub_le_sub_right ordered _)

end Epoch

/-- What the fills of reports pay to sellers. -/
def paidToSellers (reports : List TickReport) : Nat :=
  sumOver (fun report => owed report.fills .buy) reports

theorem paidToSellers_concat (reports : List TickReport) (report : TickReport) :
    paidToSellers (reports ++ [report]) = paidToSellers reports + owed report.fills .buy :=
  sumOver_append reports [report]

/-- The longest end of a list of reports that lies in an epoch. -/
def endIn (epoch : Epoch) (reports : List TickReport) : List TickReport :=
  reports.rtakeWhile fun report => report.epoch = epoch

/-- The longest end of a list of reports that lies in the epoch of the last one. -/
def latestEpoch (reports : List TickReport) : List TickReport :=
  match reports.getLast? with
  | none => []
  | some last => endIn last.epoch reports

/-- The end of a list whose members have a property is all that have it, if it is not lost along the
list. -/
theorem rtakeWhile_eq_filter {α : Type u} {property : α → Bool} {entries : List α}
    (kept : entries.Pairwise fun earlier later => property earlier = true → property later = true) :
    entries.rtakeWhile property = entries.filter property := by
  induction entries using List.reverseRecOn with
  | nil => rfl
  | append_singleton earlier last ih =>
    obtain ⟨before, _, cross⟩ := List.pairwise_append.mp kept
    rw [List.filter_append, List.rtakeWhile_concat, ih before]
    split
    case isTrue holds => rw [List.filter_cons_of_pos holds, List.filter_nil]
    case isFalse lost =>
      have none : earlier.filter property = [] := by
        rw [List.filter_eq_nil_iff]
        intro entry member holds
        exact lost (cross entry member last List.mem_cons_self holds)
      rw [none, List.filter_cons_of_neg lost, List.filter_nil, List.nil_append]

section Reports

variable {reports : List TickReport}

theorem endIn_concat (epoch : Epoch) (reports : List TickReport) (report : TickReport) :
    endIn epoch (reports ++ [report]) =
      if report.epoch = epoch then endIn epoch reports ++ [report] else [] := by
  simp only [endIn, List.rtakeWhile_concat, decide_eq_true_eq]

/-- A further report goes on with its epoch where the reports so far end in it. -/
theorem latestEpoch_concat (reports : List TickReport) (report : TickReport) :
    latestEpoch (reports ++ [report]) = endIn report.epoch reports ++ [report] := by
  simp only [latestEpoch, List.getLast?_concat, endIn_concat, ↓reduceIte]

/-- In the order of their epochs, the reports of the latest epoch stand at the end. -/
theorem latestEpoch_eq_filter
    (ordered : reports.Pairwise fun earlier later => earlier.epoch.index ≤ later.epoch.index)
    {last : TickReport} (latest : reports.getLast? = some last) :
    latestEpoch reports = reports.filter fun report => report.epoch = last.epoch := by
  simp only [latestEpoch, latest, endIn]
  apply rtakeWhile_eq_filter
  obtain ⟨before, rfl⟩ := List.getLast?_eq_some_iff.mp latest
  have reached : ∀ report ∈ before ++ [last], report.epoch.index ≤ last.epoch.index := by
    intro report member
    rcases List.mem_append.mp member with inside | atEnd
    · exact (List.pairwise_append.mp ordered).2.2 report inside last List.mem_cons_self
    · rw [List.mem_singleton.mp atEnd]
      exact UInt64.le_refl _
  refine ordered.imp_of_mem ?_
  intro earlier later _ member le same
  have same : earlier.epoch = last.epoch := of_decide_eq_true same
  rw [same] at le
  exact decide_eq_true (congrArg Epoch.mk (UInt64.le_antisymm (reached later member) le))

end Reports

namespace Market

variable {L : Type u} [Ledger L]

/-- The height of a tick. -/
def Call.height? : Call L → Option UInt64
  | .tick _ height _ => some height
  | _ => none

/-- The report of a tick that cleared. -/
def Answer.clearing? : Answer → Option TickReport
  | .ticked report => if report.gateOpen then some report else none
  | _ => none

theorem Answer.clearing?_of_gateOpen {report : TickReport} (gateOpen : report.gateOpen = true) :
    (Answer.ticked report).clearing? = some report :=
  if_pos gateOpen

/-- The reports of the ticks that cleared. -/
def clearings (answers : List Answer) : List TickReport := answers.filterMap Answer.clearing?

/-- What a call does to the volume: nothing, unless it is a tick that clears. -/
inductive VolumeStep (market : Market) : Call L → Answer × Market → Prop
  | kept {call : Call L} {answer : Answer} {next : Market} (idle : answer.clearing? = none)
      (terms : SameTerms market next) (volume : next.volume = market.volume)
      (epoch : next.volumeEpoch = market.volumeEpoch) : VolumeStep market call (answer, next)
  | cleared {ledgers : Sided L} {height : UInt64} {budget : Option Budget} {report : TickReport}
      {next : Market} (gateOpen : report.gateOpen = true) (terms : SameTerms market next)
      (epoch : report.epoch = market.epochAt height) (current : next.volumeEpoch = report.epoch)
      (volume : next.volume.toNat =
        (market.carriedVolume report.epoch).toNat + owed report.fills .buy) :
      VolumeStep market (.tick ledgers height budget) (.ticked report, next)

/-- A plan adds what its fills pay to sellers to the volume of its epoch. -/
theorem volume_of_plan {market : Market} {ledgers : Sided L} {height : UInt64}
    {budget : Option Budget} {plan : Plan}
    (found : market.plan? ledgers height budget = .ok (some plan)) :
    plan.epoch = market.epochAt height ∧
      plan.volume.toNat = (market.carriedVolume plan.epoch).toNat + owed plan.fills .buy := by
  obtain ⟨_, planning⟩ := planning_of_found found
  exact ⟨planning.epoch, (addVolume_eq_ok planning.volume).2⟩

theorem volume_tick (market : Market) (ledgers : Sided L) (height : UInt64)
    (budget : Option Budget) :
    VolumeStep market (.tick ledgers height budget)
      (market.call (.tick ledgers height budget)) := by
  simp only [call, tick]
  cases found : market.plan? ledgers height budget with
  | error error => exact .kept rfl (.refl market) rfl rfl
  | ok planning =>
    cases planning with
    | none => exact .kept rfl (.refl market) rfl rfl
    | some plan =>
      obtain ⟨epoch, volume⟩ := volume_of_plan found
      dsimp only
      cases Payout.payAll market.address ledgers (plan.fills.flatMap Fill.payouts) with
      | paid => exact .cleared rfl ⟨rfl, rfl, rfl⟩ epoch rfl volume
      | undone => exact .kept rfl ⟨rfl, rfl, rfl⟩ rfl rfl
      | stuck => exact .kept rfl (.refl market) rfl rfl

theorem volume_step (market : Market) (call : Call L) :
    VolumeStep market call (market.call call) := by
  cases call with
  | init caller heaps currencies =>
    simp only [Market.call]
    cases initialised : market.init caller heaps currencies with
    | error error => exact .kept rfl (.refl market) rfl rfl
    | ok next =>
      obtain ⟨_, _, rfl⟩ := init_eq_ok initialised
      exact .kept rfl ⟨rfl, rfl, rfl⟩ rfl rfl
  | place side ledger caller price =>
    have ended := place_end market side ledger caller price
    simp only [Market.call]
    cases placed : market.place side ledger caller price with
    | error error => exact .kept rfl (.refl market) rfl rfl
    | ok outcome =>
      rw [placed] at ended
      cases ended with
      | rejected => exact .kept rfl (.refl market) rfl rfl
      | accepted => exact .kept rfl ⟨rfl, rfl, rfl⟩ rfl rfl
  | tick ledgers height budget => exact volume_tick market ledgers height budget

/-- The volume of a market and its epoch, as the reports of its clearings give them. -/
structure Accumulates (market : Market) (reports : List TickReport) : Prop where
  epoch : market.volumeEpoch = (reports.getLast?.map TickReport.epoch).getD ⟨0⟩
  volume : market.volume.toNat = paidToSellers (latestEpoch reports)

namespace Accumulates

variable {market next : Market} {reports : List TickReport}

/-- The volume that an epoch begins with is what the last reports have paid in it. -/
theorem carried (accumulates : Accumulates market reports) (epoch : Epoch) :
    (market.carriedVolume epoch).toNat = paidToSellers (endIn epoch reports) := by
  have current := accumulates.epoch
  have volume := accumulates.volume
  rcases List.eq_nil_or_concat' reports with rfl | ⟨earlier, last, rfl⟩
  · unfold carriedVolume
    split
    case isTrue => exact volume
    case isFalse => rfl
  · simp only [List.getLast?_concat, Option.map_some, Option.getD_some] at current
    rw [carriedVolume, current, endIn_concat]
    by_cases same : epoch = last.epoch
    · subst same
      rw [if_pos rfl, if_pos rfl, volume, latestEpoch_concat]
    · rw [if_neg same, if_neg (Ne.symm same)]
      rfl

/-- A call adds its report, if it is a tick that cleared. -/
theorem step {L : Type u} [Ledger L] {call : Call L} {answer : Answer}
    (accumulates : Accumulates market reports) (step : VolumeStep market call (answer, next)) :
    Accumulates next (reports ++ clearings [answer]) := by
  cases step with
  | kept idle _ volume epoch =>
    simp only [clearings, List.filterMap_cons_none idle, List.filterMap_nil, List.append_nil]
    exact ⟨epoch.trans accumulates.epoch, (congrArg _ volume).trans accumulates.volume⟩
  | @cleared _ _ _ report _ gateOpen _ _ current volume =>
    have added : clearings [.ticked report] = [report] :=
      List.filterMap_cons_some (Answer.clearing?_of_gateOpen gateOpen)
    rw [added]
    constructor
    · simp only [List.getLast?_concat, Option.map_some, Option.getD_some]
      exact current
    · rw [latestEpoch_concat, paidToSellers_concat, ← accumulates.carried]
      exact volume

theorem run {L : Type u} [Ledger L] (accumulates : Accumulates market reports)
    (calls : List (Call L)) :
    Accumulates (market.run calls).2 (reports ++ clearings (market.run calls).1) := by
  induction calls generalizing market reports with
  | nil =>
    have none : clearings (market.run ([] : List (Call L))).1 = [] := rfl
    rw [none, List.append_nil]
    exact accumulates
  | cons first rest ih =>
    have later := ih (accumulates.step (volume_step market first))
    rw [List.append_assoc, clearings, clearings, ← List.filterMap_append] at later
    exact later

end Accumulates

theorem SameTerms.epochAt {old new : Market} (terms : SameTerms old new) (height : UInt64) :
    new.epochAt height = old.epochAt height := by
  simp only [Market.epochAt, terms.anchor, terms.config]

section Runs

variable {L : Type u} [Ledger L]

/-- The epochs of the reports are, in order, epochs of the heights at which ticks were called. -/
theorem epochs_run (market : Market) (calls : List (Call L)) :
    ((clearings (market.run calls).1).map TickReport.epoch).Sublist
      ((calls.filterMap Call.height?).map market.epochAt) := by
  induction calls generalizing market with
  | nil => exact .slnil
  | cons first rest ih =>
    have step := volume_step market first
    have later := ih (market.call first).2
    have answers : (market.run (first :: rest)).1 =
        (market.call first).1 :: ((market.call first).2.run rest).1 := rfl
    rw [answers]
    generalize market.call first = outcome at step later ⊢
    obtain ⟨answer, next⟩ := outcome
    cases step with
    | kept idle terms =>
      rw [clearings, List.filterMap_cons_none idle]
      rw [funext terms.epochAt] at later
      exact later.trans (((List.sublist_cons_self first rest).filterMap _).map _)
    | cleared gateOpen terms epoch _ _ =>
      rw [funext terms.epochAt] at later
      have reported := Answer.clearing?_of_gateOpen gateOpen
      rw [clearings, List.filterMap_cons_some reported, List.map_cons, epoch]
      exact later.cons_cons _

/-- If the heights of ticks never decrease, neither do the epochs of the reports. -/
theorem epochs_ordered {market : Market} {calls : List (Call L)}
    (rising : (calls.filterMap Call.height?).Pairwise (· ≤ ·)) :
    (clearings (market.run calls).1).Pairwise fun earlier later =>
      earlier.epoch.index ≤ later.epoch.index := by
  have epochs : ((calls.filterMap Call.height?).map market.epochAt).Pairwise
      fun earlier later => earlier.index ≤ later.index :=
    List.pairwise_map.mpr (rising.imp fun ordered => Epoch.index_atHeight_le _ _ ordered)
  have reported := epochs.sublist (epochs_run market calls)
  rw [List.pairwise_map] at reported
  exact reported

end Runs

/-- From a new market on, whatever is called, the volume is what the last reports of clearings that
share an epoch have paid to sellers, and nothing but a tick that clears changes it. If the heights
of ticks never decrease, it is what all clearings of that epoch have paid. -/
theorem volume_exact {L : Type u} [Ledger L] {address : Address} {config : Config} {anchor : UInt64}
    {created : Market} (new : create address config anchor = .ok created) (calls : List (Call L)) :
    let reports := clearings (created.run calls).1
    let last := (created.run calls).2
    last.volume.toNat = paidToSellers (latestEpoch reports) ∧
      (∀ (market : Market) (call : Call L), (market.call call).1.clearing? = none →
        (market.call call).2.volume = market.volume) ∧
      (∀ (market : Market) ledgers height budget report,
        (market.call (.tick ledgers height budget : Call L)).1.clearing? = some report →
          report.epoch = market.epochAt height) ∧
      ((calls.filterMap Call.height?).Pairwise (· ≤ ·) →
        ∀ latest, reports.getLast? = some latest →
          last.volume.toNat =
            paidToSellers (reports.filter fun report => report.epoch = latest.epoch)) := by
  obtain rfl := create_eq_ok new
  have opening : Accumulates ⟨address, config, anchor, none, .empty, 0, ⟨0⟩⟩ [] := ⟨rfl, rfl⟩
  have volume := (opening.run calls).volume
  rw [List.nil_append] at volume
  refine ⟨volume, ?_, ?_, ?_⟩
  · intro market call idle
    have step := volume_step market call
    generalize market.call call = outcome at step idle ⊢
    cases step with
    | kept _ _ same => exact same
    | cleared gateOpen =>
      rw [Answer.clearing?_of_gateOpen gateOpen] at idle
      cases idle
  · intro market ledgers height budget report cleared
    have step := volume_step market (.tick ledgers height budget)
    generalize market.call (.tick ledgers height budget) = outcome at step cleared
    cases step with
    | kept idle =>
      rw [idle] at cleared
      cases cleared
    | cleared gateOpen _ epoch =>
      rw [Answer.clearing?_of_gateOpen gateOpen] at cleared
      obtain rfl := Option.some.inj cleared
      exact epoch
  · intro rising latest found
    rw [volume, latestEpoch_eq_filter (epochs_ordered rising) found]

/-- Three bids and three asks of a caller; each pair of them closes. -/
def evenHeaps : Sided KeyHeap where
  buy := ⟨⟨0xb1⟩, ⟨0x0a⟩, .replicate 3 (Order.mk .buy 1200 1000 ⟨0xa0⟩).key⟩
  sell := ⟨⟨0x51⟩, ⟨0x0a⟩, .replicate 3 (Order.mk .sell 800 800000 ⟨0xa2⟩).key⟩

/-- Ledgers that hold the escrow of all six. -/
def evenLedgers : Sided RefusingToken where
  buy := ⟨((Token.create ⟨0xc1⟩ ⟨0x15⟩).issue ⟨0x15⟩ ⟨0x4d⟩ 3000).2, []⟩
  sell := ⟨((Token.create ⟨0xc2⟩ ⟨0x15⟩).issue ⟨0x15⟩ ⟨0x4d⟩ 2400000).2, []⟩

/-- Ticks before the first clearing, twice in epoch 1, and twice in epoch 2, where the first one is
refused by a ledger. Each may make one match. -/
def fiveTicks : List (Call RefusingToken) :=
  [.init ⟨0x0a⟩ evenHeaps ⟨⟨0xc1⟩, ⟨0xc2⟩⟩, .tick evenLedgers 50 (some ⟨1⟩),
    .tick evenLedgers 100 (some ⟨1⟩), .tick evenLedgers 150 (some ⟨1⟩),
    .tick { evenLedgers with sell := evenLedgers.sell.refuse ⟨0xa0⟩ 1 } 200 (some ⟨1⟩),
    .tick evenLedgers 250 (some ⟨1⟩)]

def unopenedMarket : Market := ⟨⟨0x4d⟩, {}, 0, none, .empty, 0, ⟨0⟩⟩

/-- Every match pays the seller 666. The refused tick leaves the volume of epoch 1, and the last
tick begins that of epoch 2. -/
theorem fiveTicks_volume :
    let reports := clearings (unopenedMarket.run fiveTicks).1
    reports.map (fun report => (report.epoch.index, report.volume)) =
        [(1, 666), (1, 666), (2, 666)] ∧
      (unopenedMarket.run (fiveTicks.take 5)).2.volume = 1332 ∧
      (unopenedMarket.run fiveTicks).2.volume.toNat =
        paidToSellers (reports.filter fun report => report.epoch = ⟨2⟩) := by
  intro reports
  have shown : reports.map (fun report => (report.epoch.index, report.volume)) =
      [(1, 666), (1, 666), (2, 666)] := by decide +kernel
  have rising : (fiveTicks.filterMap Call.height?).Pairwise (· ≤ ·) := by decide
  have last : reports.getLast?.map TickReport.epoch = some ⟨2⟩ := by decide +kernel
  obtain ⟨latest, found, epoch⟩ := Option.map_eq_some_iff.mp last
  have new : create ⟨0x4d⟩ {} 0 = .ok unopenedMarket := rfl
  obtain ⟨_, _, _, volume⟩ := volume_exact new fiveTicks
  refine ⟨shown, by decide +kernel, ?_⟩
  rw [← epoch]
  exact volume rising latest found

end Market

end DoubleAuction
