import RollingBudget.Database.MoneyCodec
import RollingBudget.Services.Calls

namespace RollingBudget.DashboardService

open ConfigService RefreshService

/-! The figures of a dashboard category against exact arithmetic on the numbers its rows
denote. Every amount counts units of `10 ^ -4`, so sums and differences of at most 28
digits are exact, and the one quotient stays on its side of the threshold. -/

/-- A live row as the upload schema admits it. -/
structure Posting.Sound (posting : Posting) : Prop where
  amount : posting.amount.Admitted
  refundAmount : posting.refundAmount.Admitted
  refundBound : posting.refundAmount.value ≤ posting.amount.value

/-- What the postings amount to, without rounding. -/
def netTotal (postings : List Posting) : ℚ :=
  (postings.map fun posting => posting.amount.value).sum -
    (postings.map fun posting => posting.refundAmount.value).sum

/-- Four fractional digits. -/
def unitExponent : Int := -(Money.scale : Int)

theorem unit_eq : (10 : ℚ) ^ unitExponent = 1 / 10000 := by
  unfold unitExponent Money.scale
  norm_num

theorem value_eq_units {decimal : Decimal} (admitted : decimal.Admitted) :
    decimal.value = Money.units decimal * 10 ^ unitExponent :=
  Money.value_eq_units admitted

theorem units_lt {decimal : Decimal} (admitted : decimal.Admitted) :
    Money.units decimal < 10 ^ 18 :=
  admitted.2.2

/-! ## Sums -/

namespace Posting.Sound

variable {posting : Posting}

theorem value_net (sound : posting.Sound) :
    posting.net.value = posting.amount.value - posting.refundAmount.value := by
  apply Decimal.value_sub
  apply Decimal.short_of_units
    ((Money.units posting.amount : Int) - Money.units posting.refundAmount) unitExponent
  · have amountBound := units_lt sound.amount
    have refundBound := units_lt sound.refundAmount
    unfold Decimal.precision
    omega
  · rw [value_eq_units sound.amount, value_eq_units sound.refundAmount]
    push_cast
    ring

theorem net_nonneg (sound : posting.Sound) : 0 ≤ posting.net.value := by
  rw [sound.value_net]
  exact sub_nonneg.mpr sound.refundBound

/-- What is left after the refund is a number of units. -/
theorem counts_net (sound : posting.Sound) : Decimal.Counts unitExponent posting.net := by
  have positive : (0 : ℚ) < 10 ^ unitExponent := zpow_pos (by norm_num) _
  have bound := sound.refundBound
  rw [value_eq_units sound.amount, value_eq_units sound.refundAmount,
    mul_le_mul_iff_of_pos_right positive, Nat.cast_le] at bound
  refine ⟨Money.units posting.amount - Money.units posting.refundAmount, ?_⟩
  rw [sound.value_net, value_eq_units sound.amount, value_eq_units sound.refundAmount,
    Nat.cast_sub bound, sub_mul]

end Posting.Sound

section Sums

variable {postings : List Posting}

theorem sum_net (sound : ∀ posting ∈ postings, posting.Sound) :
    ((postings.map Posting.net).map Decimal.value).sum = netTotal postings := by
  induction postings with
  | nil => simp [netTotal]
  | cons head tail induction =>
      have headNet := (sound head (by simp)).value_net
      have tailNet := induction fun posting member => sound posting (List.mem_cons_of_mem _ member)
      unfold netTotal at tailNet ⊢
      simp only [List.map_cons, List.sum_cons]
      rw [headNet, tailNet]
      ring

/-- A running total of the postings is exact while it fits. -/
theorem value_sum_net (sound : ∀ posting ∈ postings, posting.Sound)
    (fits : netTotal postings < 10 ^ 24) :
    (Decimal.sum (postings.map Posting.net)).value = netTotal postings := by
  rw [← sum_net sound]
  apply Decimal.value_sum unitExponent
  · intro decimal member
    rcases List.mem_map.mp member with ⟨posting, inside, rfl⟩
    exact (sound posting inside).counts_net
  · rw [sum_net sound, unit_eq]
    unfold Decimal.precision
    norm_num
    linarith

theorem netTotal_nonneg (sound : ∀ posting ∈ postings, posting.Sound) :
    0 ≤ netTotal postings := by
  rw [← sum_net sound]
  apply List.sum_nonneg
  intro number member
  rcases List.mem_map.mp member with ⟨decimal, inNets, rfl⟩
  rcases List.mem_map.mp inNets with ⟨posting, inside, rfl⟩
  exact (sound posting inside).net_nonneg

/-- Leaving postings out never makes the total larger. -/
theorem netTotal_filter_le (keep : Posting → Bool)
    (sound : ∀ posting ∈ postings, posting.Sound) :
    netTotal (postings.filter keep) ≤ netTotal postings := by
  induction postings with
  | nil => simp
  | cons head tail induction =>
      have headNonneg := sub_nonneg.mpr (sound head (by simp)).refundBound
      have tailBound := induction fun posting member =>
        sound posting (List.mem_cons_of_mem _ member)
      unfold netTotal at tailBound ⊢
      rw [List.filter_cons]
      split <;> simp only [List.map_cons, List.sum_cons] <;> linarith

theorem counts_netTotal (sound : ∀ posting ∈ postings, posting.Sound) :
    ∃ units : Nat, netTotal postings = units * 10 ^ unitExponent := by
  induction postings with
  | nil => exact ⟨0, by simp [netTotal]⟩
  | cons head tail induction =>
      rcases (sound head (by simp)).counts_net with ⟨headUnits, headNet⟩
      rcases induction (fun posting member => sound posting (List.mem_cons_of_mem _ member)) with
        ⟨tailUnits, tailNet⟩
      rw [(sound head (by simp)).value_net] at headNet
      refine ⟨headUnits + tailUnits, ?_⟩
      unfold netTotal at tailNet ⊢
      simp only [List.map_cons, List.sum_cons]
      push_cast
      linarith

/-- Ten thousand million rows always fit. -/
theorem netTotal_lt_of_length (sound : ∀ posting ∈ postings, posting.Sound)
    (short : postings.length ≤ 10 ^ 10) : netTotal postings < 10 ^ 24 := by
  have bounded : netTotal postings ≤ postings.length * (10 ^ 14 - 1 / 10000) := by
    rw [← sum_net sound, List.map_map]
    apply (List.sum_le_card_nsmul _ (10 ^ 14 - 1 / 10000 : ℚ) _).trans
    · simp
    · intro number member
      rcases List.mem_map.mp member with ⟨posting, inside, rfl⟩
      have admitted := (sound posting inside).amount
      have refundNonneg := Money.value_nonneg (sound posting inside).refundAmount
      have units : (Money.units posting.amount : ℚ) ≤ 10 ^ 18 - 1 := by
        have below : Money.units posting.amount + 1 ≤ 10 ^ 18 := units_lt admitted
        have cast : (Money.units posting.amount + 1 : ℚ) ≤ 10 ^ 18 := by exact_mod_cast below
        linarith
      rw [Function.comp_apply, (sound posting inside).value_net, value_eq_units admitted, unit_eq]
      linarith
  have length : (postings.length : ℚ) ≤ 10 ^ 10 := by exact_mod_cast short
  linarith

/-- So do their refunds, which are no larger than the amounts. -/
theorem value_sum_refunds (sound : ∀ posting ∈ postings, posting.Sound)
    (short : postings.length ≤ 10 ^ 10) :
    (Decimal.sum (postings.map Posting.refundAmount)).value =
      (postings.map fun posting => posting.refundAmount.value).sum := by
  have bounded : (postings.map fun posting => posting.refundAmount.value).sum ≤
      postings.length * (10 ^ 14 - 1 / 10000) := by
    apply (List.sum_le_card_nsmul _ (10 ^ 14 - 1 / 10000 : ℚ) _).trans
    · simp
    · intro number member
      rcases List.mem_map.mp member with ⟨posting, inside, rfl⟩
      have below : Money.units posting.refundAmount + 1 ≤ 10 ^ 18 :=
        units_lt (sound posting inside).refundAmount
      have cast : (Money.units posting.refundAmount + 1 : ℚ) ≤ 10 ^ 18 := by exact_mod_cast below
      rw [value_eq_units (sound posting inside).refundAmount, unit_eq]
      linarith
  have length : (postings.length : ℚ) ≤ 10 ^ 10 := by exact_mod_cast short
  have values : ((postings.map Posting.refundAmount).map Decimal.value).sum =
      (postings.map fun posting => posting.refundAmount.value).sum := by
    rw [List.map_map]
    rfl
  rw [← values]
  apply Decimal.value_sum unitExponent
  · intro decimal member
    rcases List.mem_map.mp member with ⟨posting, inside, rfl⟩
    exact ⟨_, value_eq_units (sound posting inside).refundAmount⟩
  · rw [values, unit_eq]
    unfold Decimal.precision
    norm_num
    linarith

end Sums

/-! ## The budget -/

section Budget

variable {spent budget : Decimal} {units : Nat}

@[simp] theorem value_zero : zero.value = 0 := by
  unfold zero
  simp

private theorem short_difference (spentUnits : spent.value = units * 10 ^ unitExponent)
    (bound : units < 10 ^ 28) (admitted : budget.Admitted) :
    Decimal.Short (spent.value - budget.value) := by
  apply Decimal.short_of_units ((units : Int) - Money.units budget) unitExponent
  · have budgetBound := units_lt admitted
    unfold Decimal.precision
    omega
  · rw [spentUnits, value_eq_units admitted]
    push_cast
    ring

/-- `over` before it is cut off at zero. -/
theorem value_spent_sub (spentUnits : spent.value = units * 10 ^ unitExponent)
    (bound : units < 10 ^ 28) (admitted : budget.Admitted) :
    (spent.sub budget).value = spent.value - budget.value :=
  Decimal.value_sub (short_difference spentUnits bound admitted)

/-- `remaining` before it is cut off at zero. -/
theorem value_budget_sub (spentUnits : spent.value = units * 10 ^ unitExponent)
    (bound : units < 10 ^ 28) (admitted : budget.Admitted) :
    (budget.sub spent).value = budget.value - spent.value := by
  apply Decimal.value_sub
  rcases short_difference spentUnits bound admitted with ⟨digits, exponent, small, equal⟩
  refine ⟨-digits, exponent, by rwa [Int.natAbs_neg], ?_⟩
  push_cast
  linarith

/-- Unless it is exactly four fifths, a quotient of two amounts stays further from four
fifths than the division can err. -/
theorem div_less_iff (spentUnits : spent.value = units * 10 ^ unitExponent)
    (admitted : budget.Admitted) (positive : 0 < budget.value)
    (within : spent.value ≤ budget.value) :
    (spent.div budget).less ⟨false, 8, -1⟩ = true ↔ 5 * spent.value < 4 * budget.value := by
  have divisible : budget.coefficient ≠ 0 := by
    intro zero
    rw [Decimal.value, zero] at positive
    simp at positive
  have threshold : Decimal.value ⟨false, 8, -1⟩ = 4 / 5 := by
    norm_num [Decimal.value]
  have unit : (0 : ℚ) < 10 ^ unitExponent := zpow_pos (by norm_num) _
  have budgetUnits := value_eq_units admitted
  have budgetBound := units_lt admitted
  generalize Money.units budget = limit at budgetUnits budgetBound
  rw [Decimal.less_iff, threshold]
  rw [budgetUnits, spentUnits, mul_le_mul_iff_of_pos_right unit, Nat.cast_le] at within
  have limitPositive : 0 < limit := by
    by_contra none
    have zero : limit = 0 := by omega
    rw [budgetUnits, zero] at positive
    simp at positive
  have quotient : spent.value / budget.value = units / limit := by
    rw [spentUnits, budgetUnits, mul_div_mul_right _ _ unit.ne']
  have scaled : 5 * spent.value < 4 * budget.value ↔ 5 * units < 4 * limit := by
    rw [spentUnits, budgetUnits, ← mul_assoc, ← mul_assoc, mul_lt_mul_iff_of_pos_right unit]
    exact_mod_cast Iff.rfl
  rw [scaled]
  have castPositive : (0 : ℚ) < limit := by exact_mod_cast limitPositive
  rcases Nat.lt_trichotomy (5 * units) (4 * limit) with below | equal | above
  · have gap : (units : ℚ) / limit + 1 / (5 * 10 ^ 18) ≤ 4 / 5 := by
      have integers : (5 * units + 1 : ℚ) ≤ 4 * limit := by exact_mod_cast below
      have limitBound : (limit : ℚ) ≤ 10 ^ 18 := by exact_mod_cast budgetBound.le
      rw [div_add_div _ _ castPositive.ne' (by norm_num), div_le_div_iff₀ (by positivity)
        (by norm_num)]
      nlinarith
    have error := (abs_le.mp (Decimal.abs_value_div_sub_le spent divisible)).2
    have nonneg : 0 ≤ (units : ℚ) / limit := by positivity
    rw [quotient, abs_of_nonneg nonneg] at error
    unfold Decimal.precision at error
    norm_num at error gap
    constructor
    · intro _
      exact below
    · intro _
      linarith
  · have exact : spent.value / budget.value = 4 / 5 := by
      rw [quotient, div_eq_div_iff castPositive.ne' (by norm_num)]
      have integers : (5 * units : ℚ) = 4 * limit := by exact_mod_cast equal
      linarith
    have short : Decimal.Short (spent.value / budget.value) := by
      apply Decimal.short_of_units 8 (-1) (by decide)
      rw [exact]
      norm_num
    rw [Decimal.value_div divisible short, exact, equal]
    simp
  · have gap : 4 / 5 + 1 / (5 * 10 ^ 18) ≤ (units : ℚ) / limit := by
      have integers : (4 * limit + 1 : ℚ) ≤ 5 * units := by exact_mod_cast above
      have limitBound : (limit : ℚ) ≤ 10 ^ 18 := by exact_mod_cast budgetBound.le
      rw [le_div_iff₀ castPositive]
      norm_num
      nlinarith
    have error := (abs_le.mp (Decimal.abs_value_div_sub_le spent divisible)).1
    have nonneg : 0 ≤ (units : ℚ) / limit := by positivity
    have atMostOne : (units : ℚ) / limit ≤ 1 := by
      rw [div_le_one castPositive]
      exact_mod_cast within
    rw [quotient, abs_of_nonneg nonneg] at error
    unfold Decimal.precision at error
    norm_num at error gap
    constructor
    · intro less
      linarith
    · intro less
      omega

/-! ## Status -/

theorem over_iff (spentUnits : spent.value = units * 10 ^ unitExponent)
    (bound : units < 10 ^ 28) (admitted : budget.Admitted) :
    zero.less ((spent.sub budget).max zero) = true ↔ budget.value < spent.value := by
  rw [Decimal.less_iff, Decimal.value_max, value_spent_sub spentUnits bound admitted, value_zero,
    lt_max_iff, sub_pos]
  simp

/-- Without a budget nothing is divided. -/
theorem progress_of_noBudget (noBudget : budget.value = 0) :
    progress spent budget = if 0 < spent.value then Decimal.ofNat 1 else zero := by
  simp only [progress, Decimal.less_iff, value_zero, noBudget, lt_irrefl, if_false]

/-- Outside the first branch `progress` decides between the other two. -/
theorem progress_less_iff (spentUnits : spent.value = units * 10 ^ unitExponent)
    (admitted : budget.Admitted) (within : spent.value ≤ budget.value) :
    (progress spent budget).less ⟨false, 8, -1⟩ = false ↔
      0 < budget.value ∧ 4 * budget.value ≤ 5 * spent.value := by
  have spentNonneg : 0 ≤ spent.value := by
    rw [spentUnits]
    positivity
  unfold progress
  split
  · next less =>
    have positive := (Decimal.less_iff zero budget).mp less
    rw [value_zero] at positive
    rw [Bool.eq_false_iff, ne_eq, div_less_iff spentUnits admitted positive within, not_lt]
    simp [positive]
  · next notLess =>
    have noBudget : ¬0 < budget.value := by
      rwa [Decimal.less_iff, value_zero] at notLess
    have nothing : ¬zero.less spent = true := by
      rw [Decimal.less_iff, value_zero]
      linarith
    have below : zero.less ⟨false, 8, -1⟩ = true := by decide
    rw [if_neg nothing, below]
    simp [noBudget]

theorem status_eq_overBudget_iff (spentUnits : spent.value = units * 10 ^ unitExponent)
    (bound : units < 10 ^ 28) (admitted : budget.Admitted) :
    status spent budget = .overBudget ↔ budget.value < spent.value := by
  rw [← over_iff spentUnits bound admitted]
  unfold status
  split
  · next exceeds => simp [exceeds]
  · next notOver =>
    split <;> simp [notOver]

theorem status_eq_nearLimit_iff (spentUnits : spent.value = units * 10 ^ unitExponent)
    (bound : units < 10 ^ 28) (admitted : budget.Admitted) :
    status spent budget = .nearLimit ↔
      0 < budget.value ∧ spent.value ≤ budget.value ∧ 4 * budget.value ≤ 5 * spent.value := by
  have exceeds := over_iff spentUnits bound admitted
  unfold status
  split
  · next isOver =>
    have above := exceeds.mp isOver
    simp [not_le.mpr above]
  · next notOver =>
    have within : spent.value ≤ budget.value := by
      rw [exceeds, not_lt] at notOver
      exact notOver
    have near := progress_less_iff spentUnits admitted within
    split
    · next less =>
      rw [less] at near
      simpa [within] using near
    · next notLess =>
      rw [Bool.not_eq_true] at notLess
      simpa [within] using near.mp notLess

end Budget

/-! ## A category -/

/-- The figures of a category are those of exact arithmetic on its postings. -/
structure Accurate (postings : List Posting) (shown : DashboardCategory) : Prop where
  spent : shown.spent.value = netTotal postings
  pendingAmount : shown.pendingAmount.value = netTotal (postings.filter Posting.pending)
  pendingNonneg : 0 ≤ shown.pendingAmount.value
  pendingBound : shown.pendingAmount.value ≤ shown.spent.value
  balance : shown.remaining.value - shown.overAmount.value =
    shown.budget.value - shown.spent.value
  remainingNonneg : 0 ≤ shown.remaining.value
  overNonneg : 0 ≤ shown.overAmount.value
  exclusive : shown.remaining.value = 0 ∨ shown.overAmount.value = 0
  overBudget : shown.status = .overBudget ↔ shown.budget.value < shown.spent.value
  nearLimit : shown.status = .nearLimit ↔ 0 < shown.budget.value ∧
    shown.spent.value ≤ shown.budget.value ∧ 4 * shown.budget.value ≤ 5 * shown.spent.value
  withoutBudget : shown.budget.value = 0 →
    shown.progress = if 0 < shown.spent.value then Decimal.ofNat 1 else zero

/-- What `get_dashboard` reports of a category is a function of its postings and budget. -/
theorem accurate_of_figures {postings : List Posting} {shown : DashboardCategory}
    (spent : shown.spent = (figures postings).spent)
    (pending : shown.pendingAmount = (figures postings).pendingAmount)
    (remaining : shown.remaining = (shown.budget.sub shown.spent).max zero)
    (overAmount : shown.overAmount = (shown.spent.sub shown.budget).max zero)
    (progressEq : shown.progress = progress shown.spent shown.budget)
    (statusEq : shown.status = status shown.spent shown.budget)
    (admitted : shown.budget.Admitted) (sound : ∀ posting ∈ postings, posting.Sound)
    (fits : netTotal postings < 10 ^ 24) : Accurate postings shown := by
  have pendingSound : ∀ posting ∈ postings.filter Posting.pending, posting.Sound := by
    intro posting member
    exact sound posting (List.mem_of_mem_filter member)
  have pendingBound := netTotal_filter_le Posting.pending sound
  have spentValue : shown.spent.value = netTotal postings := by
    rw [spent]
    exact value_sum_net sound fits
  have pendingValue : shown.pendingAmount.value =
      netTotal (postings.filter Posting.pending) := by
    rw [pending]
    exact value_sum_net pendingSound (pendingBound.trans_lt fits)
  rcases counts_netTotal sound with ⟨units, counted⟩
  have spentUnits : shown.spent.value = units * 10 ^ unitExponent := spentValue.trans counted
  have bound : units < 10 ^ 28 := by
    rw [counted, unit_eq] at fits
    have scaled : (units : ℚ) < 10 ^ 28 := by linarith
    exact_mod_cast scaled
  have remainingValue : shown.remaining.value =
      max (shown.budget.value - shown.spent.value) 0 := by
    rw [remaining, Decimal.value_max, value_budget_sub spentUnits bound admitted, value_zero]
  have overValue : shown.overAmount.value = max (shown.spent.value - shown.budget.value) 0 := by
    rw [overAmount, Decimal.value_max, value_spent_sub spentUnits bound admitted, value_zero]
  constructor
  · exact spentValue
  · exact pendingValue
  · rw [pendingValue]
    exact netTotal_nonneg pendingSound
  · rw [pendingValue, spentValue]
    exact pendingBound
  · rw [remainingValue, overValue]
    rcases le_total shown.spent.value shown.budget.value with within | above
    · rw [max_eq_left (by linarith), max_eq_right (by linarith), sub_zero]
    · rw [max_eq_right (by linarith), max_eq_left (by linarith)]
      ring
  · rw [remainingValue]
    exact le_max_right _ _
  · rw [overValue]
    exact le_max_right _ _
  · rw [remainingValue, overValue]
    rcases le_total shown.spent.value shown.budget.value with within | above
    · exact Or.inr (max_eq_right (by linarith))
    · exact Or.inl (max_eq_right (by linarith))
  · rw [statusEq]
    exact status_eq_overBudget_iff spentUnits bound admitted
  · rw [statusEq]
    exact status_eq_nearLimit_iff spentUnits bound admitted
  · intro noBudget
    rw [progressEq]
    exact progress_of_noBudget noBudget

/-- The postings of a shown category: its linked live rows between its two window dates. -/
def shownPostings (ledger : LedgerTables) (configId : Nat) (row : LinkedRule)
    (shown : DashboardCategory) : List Posting :=
  (windowRows ledger configId row.category.id shown.windowStart shown.windowEnd).map posting

/-- Every category of a dashboard reports the exact figures of its window, whatever the live
rows, as long as their total can be written with 28 digits. -/
theorem getDashboard_accurate {environment : Environment} {clock : Clock} {database : Database}
    {asOf : Option Date} {staleAfterHours : Nat} {response : DashboardResponse}
    (answered : getDashboard environment clock database asOf staleAfterHours = .ok response) :
    ∃ active, database.config.active = some active ∧
      List.Forall₂ (fun row shown =>
          shown.budget = row.category.budgetLimit ∧
          (row.category.budgetLimit.Admitted →
            (∀ posting ∈ shownPostings database.ledger active.id row shown, posting.Sound) →
            netTotal (shownPostings database.ledger active.id row shown) < 10 ^ 24 →
            Accurate (shownPostings database.ledger active.id row shown) shown))
        (enabledRules database.config active.id) response.categories := by
  rcases Outcome.bind_eq_ok.mp answered with ⟨active, found, afterActive⟩
  rcases Outcome.bind_eq_ok.mp afterActive with ⟨_, zone, afterZone⟩
  rcases Outcome.bind_eq_ok.mp afterZone with ⟨categories, read, afterCategories⟩
  rcases Outcome.bind_eq_ok.mp afterCategories with ⟨configHash, hashed, finished⟩
  rw [Outcome.pure_eq_ok] at finished
  rw [Outcome.orRaise_eq_ok] at found
  refine ⟨active, found, ?_⟩
  rw [← finished]
  apply (Outcome.forall₂_of_mapM_eq_ok read).imp
  intro row shown category
  rcases Outcome.bind_eq_ok.mp category with ⟨windowStart, subtracted, built⟩
  rw [Outcome.pure_eq_ok] at built
  rw [← built]
  refine ⟨rfl, fun admitted sound fits => ?_⟩
  exact accurate_of_figures rfl rfl rfl rfl rfl rfl admitted sound fits

theorem getDashboard_accurate_synced : ∃ response active,
    getDashboard .transparent Sample.clock ((service .transparent).run Sample.synced) none 24 =
        .ok response ∧
      List.Forall₂ (fun row shown =>
          Accurate (shownPostings ((service .transparent).run Sample.synced).ledger active row shown)
            shown)
        (enabledRules ((service .transparent).run Sample.synced).config active)
        response.categories := by
  have answers : (getDashboard .transparent Sample.clock
      ((service .transparent).run Sample.synced) none 24).isOk = true := by decide +kernel
  have budgets : (((service .transparent).run Sample.synced).config.active.all fun active =>
      (enabledRules ((service .transparent).run Sample.synced).config active.id).all fun row =>
        decide row.category.budgetLimit.Admitted) = true := by decide +kernel
  have single : ((service .transparent).run Sample.synced).ledger.transactions.map posting =
      [⟨Decimal.ofNat 12, Decimal.ofNat 0, false, false⟩] := by decide +kernel
  rcases Outcome.exists_of_isOk answers with ⟨response, answered⟩
  rcases getDashboard_accurate answered with ⟨active, found, figures⟩
  rw [found] at budgets
  have admitted := List.all_eq_true.mp budgets
  refine ⟨response, active.id, answered, ?_⟩
  apply ((List.forall₂_and_left _ _).mpr ⟨admitted, figures⟩).imp
  intro row shown known
  have inside : ∀ item ∈ shownPostings ((service .transparent).run Sample.synced).ledger active.id
      row shown, item ∈ [(⟨Decimal.ofNat 12, Decimal.ofNat 0, false, false⟩ : Posting)] := by
    intro item member
    rcases List.mem_map.mp member with ⟨transaction, kept, rfl⟩
    rw [← single]
    exact List.mem_map_of_mem (List.mem_of_mem_filter kept)
  have sound : ∀ item ∈ shownPostings ((service .transparent).run Sample.synced).ledger active.id
      row shown, item.Sound := by
    intro item member
    rw [List.mem_singleton.mp (inside item member)]
    exact ⟨by decide +kernel, by decide +kernel, by norm_num⟩
  have length : (shownPostings ((service .transparent).run Sample.synced).ledger active.id
      row shown).length ≤ 1 := by
    have kept := List.length_filter_le (p := fun transaction : Transaction =>
      decide (transaction.configVersionId = active.id ∧
        (∃ link ∈ ((service .transparent).run Sample.synced).ledger.transactionCategories,
          link.identity = transaction.identity ∧ link.categoryId = row.category.id) ∧
        shown.windowStart ≤ transaction.transactionDate ∧
          transaction.transactionDate ≤ shown.windowEnd))
      (l := ((service .transparent).run Sample.synced).ledger.transactions)
    have total := congrArg List.length single
    rw [List.length_map] at total
    unfold shownPostings windowRows
    rw [List.length_map]
    exact kept.trans total.le
  exact known.2.2 (of_decide_eq_true known.1) sound
    (netTotal_lt_of_length sound (length.trans (by decide)))

end RollingBudget.DashboardService
