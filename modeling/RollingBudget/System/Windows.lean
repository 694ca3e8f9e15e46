import RollingBudget.Dashboard.Arithmetic
import RollingBudget.Dashboard.Reads
import RollingBudget.System.Reference

namespace RollingBudget

open ConfigService RefreshService DashboardService

/-! What a dashboard shows of the store. A window that ends no earlier than any run since the
last full one misses nothing: the links that these runs pruned are older than the window. -/

variable {environment : Environment} {database : Database} {active : ConfigVersion}
  {store : List Entry} {since : List Publication} {row : LinkedRule}

/-! ## Windows -/

/-- The entries of a category between two days. -/
def windowEntries (reference : List Entry) (categoryId : Nat) (windowStart windowEnd : Date) :
    List Entry :=
  reference.filter fun entry =>
    categoryId ∈ entry.categories ∧ windowStart ≤ entry.date ∧ entry.date ≤ windowEnd

/-- What is left of an entry after its refund. -/
def Entry.net (entry : Entry) : Decimal := entry.staged.amount.sub entry.staged.refundAmount

/-- What entries amount to after refunds, without rounding. -/
def Entry.total (entries : List Entry) : ℚ :=
  (entries.map fun entry => entry.staged.amount.value - entry.staged.refundAmount.value).sum

/-- A dashboard category counts the entries and adds up their amounts, in the order in which the
database returns them. The sums are exact for amounts as the upload schema admits them. -/
structure Reports (entries : List Entry) (shown : DashboardCategory) : Prop where
  transactionCount : shown.transactionCount = entries.length
  pendingCount : shown.pendingCount = (entries.filter fun entry => entry.staged.pending).length
  refundCount : shown.refundCount = (entries.filter fun entry => entry.staged.refunded).length
  amounts : ∃ returned : List Entry, returned.Perm entries ∧
    shown.spent = Decimal.sum (returned.map Entry.net) ∧
    shown.pendingAmount =
      Decimal.sum ((returned.filter fun entry => entry.staged.pending).map Entry.net) ∧
    shown.refundAmount = Decimal.sum ((returned.filter fun entry => entry.staged.refunded).map
      fun entry => entry.staged.refundAmount)
  exact : (∀ entry ∈ entries, entry.posting.Sound) → entries.length ≤ 10 ^ 10 →
    shown.spent.value = Entry.total entries ∧
    shown.pendingAmount.value = Entry.total (entries.filter fun entry => entry.staged.pending) ∧
    shown.refundAmount.value = ((entries.filter fun entry => entry.staged.refunded).map
      fun entry => entry.staged.refundAmount.value).sum

/-- A dashboard category shows the figures of the store over the window of its rule. -/
structure Shows (reference : List Entry) (lastDay : Date) (row : LinkedRule)
    (shown : DashboardCategory) : Prop where
  key : shown.key = row.category.key
  windowEnd : shown.windowEnd = lastDay
  windowStart : shown.windowStart.ordinal + (row.rule.lookbackDays - 1) = lastDay.ordinal
  figures : Reports (windowEntries reference row.category.id shown.windowStart lastDay) shown

/-- No run since the last full one reached past the day. -/
def NotBefore (since : List Publication) (day : Date) : Prop :=
  ∀ publication ∈ since, publication.run.sourceToDate ≤ day

/-- A version links each category once. -/
theorem WellFormed.linkedRule_unique {tables : ConfigTables} {config : ConfigVersion}
    (wellFormed : WellFormed environment tables) (member : config ∈ tables.configVersions)
    {other : LinkedRule} (rowMember : row ∈ rulesForConfig tables config.id)
    (otherMember : other ∈ rulesForConfig tables config.id)
    (same : row.category.id = other.category.id) : row = other := by
  have nodup := (wellFormed.assembled_valid member).uniqueKeys
  have keys : (assembled tables config).keys =
      (rulesForConfig tables config.id).map fun row => row.category.key := by
    rw [ConfigPutRequest.keys, assembled, List.map_map]
    rfl
  rw [keys] at nodup
  have sameCategory : row.category = other.category :=
    List.inj_on_of_nodup_map wellFormed.categoryIds (category_mem rowMember)
      (category_mem otherMember) same
  exact List.inj_on_of_nodup_map nodup rowMember otherMember (congrArg Category.key sameCategory)

/-- A date in the window of a rule has not left it. -/
theorem Tracks.not_leftWindow (tracks : Tracks database store since)
    (invariant : SystemInvariant environment database)
    (found : database.config.active = some active)
    (member : row ∈ rulesForConfig database.config active.id) {windowEnd date : Date}
    (notBefore : NotBefore since windowEnd)
    (inWindow : windowEnd.ordinal ≤ date.ordinal + (row.rule.lookbackDays - 1))
    {publication : Publication} (inSince : publication ∈ since)
    (left : LeftWindow database.config publication row.category.id date) : False := by
  rcases left with ⟨other, otherMember, category, old⟩
  have owner := tracks.owner publication inSince
  rw [found, Option.map_some, Option.some.injEq] at owner
  rw [← owner] at otherMember
  have same := invariant.config.wellFormed.linkedRule_unique (ConfigTables.active_mem found).1
    otherMember member category
  have reached := Date.le_iff.mp (notBefore publication inSince)
  rw [same] at old
  omega

/-- The live rows of a window are the entries of the store in it. -/
theorem Tracks.perm_windowEntries (tracks : Tracks database store since)
    (invariant : SystemInvariant environment database)
    (found : database.config.active = some active)
    (member : row ∈ rulesForConfig database.config active.id) {windowStart windowEnd : Date}
    (notBefore : NotBefore since windowEnd)
    (length : windowStart.ordinal + (row.rule.lookbackDays - 1) = windowEnd.ordinal) :
    ((windowRows database.ledger active.id row.category.id windowStart windowEnd).map
        fun transaction => (transaction.identity, posting transaction)).Perm
      ((windowEntries store row.category.id windowStart windowEnd).map
        fun entry => (entry.identity, entry.posting)) := by
  have unique : ∀ entry ∈ store, ∀ other ∈ store, entry.identity = other.identity →
      entry = other := fun entry member other otherMember =>
    List.inj_on_of_nodup_map tracks.identities member otherMember
  refine (List.perm_ext_iff_of_nodup ?_ ?_).mpr fun pair => ?_
  · refine List.Nodup.of_map Prod.fst ?_
    rw [List.map_map]
    exact invariant.ledger.identities.sublist (List.filter_sublist.map _)
  · refine List.Nodup.of_map Prod.fst ?_
    rw [List.map_map]
    exact tracks.identities.sublist (List.filter_sublist.map _)
  · simp only [List.mem_map, windowRows, windowEntries, List.mem_filter, decide_eq_true_eq]
    constructor
    · rintro ⟨transaction, ⟨live, _, ⟨link, linkLive, same, category⟩, after, before⟩, rfl⟩
      rcases tracks.transactions transaction live with ⟨entry, inStore, agrees⟩
      rcases tracks.links link linkLive with ⟨other, otherInStore, otherSame, listed⟩
      have sameEntry := unique other otherInStore entry inStore
        (otherSame.trans (same.trans agrees.identity.symm))
      rw [sameEntry, category] at listed
      refine ⟨entry, ⟨inStore, listed, ?_, ?_⟩, Prod.ext agrees.identity agrees.posting⟩
      · rw [agrees.date]
        exact after
      · rw [agrees.date]
        exact before
    · rintro ⟨entry, ⟨inStore, listed, after, before⟩, rfl⟩
      rcases tracks.kept entry inStore _ listed with ⟨link, linkLive, same, category⟩ |
        ⟨publication, inSince, left⟩
      · rcases invariant.ledger.linked link linkLive with ⟨transaction, live, owner⟩
        rcases tracks.transactions transaction live with ⟨other, otherInStore, agrees⟩
        have sameEntry := unique other otherInStore entry inStore
          (agrees.identity.trans (owner.trans same))
        rw [sameEntry] at agrees
        have ownedBy := invariant.live.transactions transaction live
        rw [found, Option.map_some, Option.some.injEq] at ownedBy
        refine ⟨transaction, ⟨live, ownedBy.symm, ⟨link, linkLive, owner.symm, category⟩, ?_, ?_⟩,
          (Prod.ext agrees.identity agrees.posting).symm⟩
        · rw [← agrees.date]
          exact after
        · rw [← agrees.date]
          exact before
      · have inWindow := Date.le_iff.mp after
        exact (tracks.not_leftWindow invariant found member notBefore (by omega) inSince left).elim

/-! ## Figures -/

/-- Tables with the same values, up to order, have the same columns up to order. -/
theorem exists_perm_of_pairs {α β κ γ : Type} {left : List α} {right : List β} {key : α → κ}
    {key' : β → κ} {value : α → γ} {value' : β → γ}
    (same : (left.map fun row => (key row, value row)).Perm
      (right.map fun row => (key' row, value' row))) :
    ∃ rows : List β, rows.Perm right ∧ left.map value = rows.map value' := by
  have values : (left.map value).Perm (right.map value') := by
    have projected := same.map Prod.snd
    rwa [List.map_map, List.map_map] at projected
  have composed : Relation.Comp (fun found rows => found = rows.map value') List.Perm
      (left.map value) right := by
    rw [List.eq_map_comp_perm]
    exact values
  rcases composed with ⟨rows, equal, perm⟩
  exact ⟨rows, perm, equal⟩

theorem Entry.netTotal_eq_total (entries : List Entry) :
    netTotal (entries.map Entry.posting) = Entry.total entries := by
  unfold netTotal Entry.total
  rw [List.map_map, List.map_map]
  induction entries with
  | nil => simp
  | cons head tail induction =>
      simp only [List.map_cons, List.sum_cons, ← induction]
      unfold Entry.posting
      simp only [Function.comp_apply]
      ring

/-- What `figures` computes from the entries in the order in which they are returned. -/
theorem reports_of_figures {entries returned : List Entry} {shown : DashboardCategory}
    {figures : Figures} (perm : returned.Perm entries)
    (computed : figures = DashboardService.figures (returned.map Entry.posting))
    (spent : shown.spent = figures.spent)
    (transactionCount : shown.transactionCount = figures.transactionCount)
    (pendingCount : shown.pendingCount = figures.pendingCount)
    (pendingAmount : shown.pendingAmount = figures.pendingAmount)
    (refundCount : shown.refundCount = figures.refundCount)
    (refundAmount : shown.refundAmount = figures.refundAmount) : Reports entries shown := by
  have kept : ∀ keep : Posting → Bool, (returned.map Entry.posting).filter keep =
      (returned.filter fun entry => keep entry.posting).map Entry.posting :=
    fun keep => List.filter_map
  have pendingRows := kept Posting.pending
  have refunds := kept Posting.refunded
  rw [computed] at spent transactionCount pendingCount pendingAmount refundCount refundAmount
  constructor
  · rw [transactionCount]
    exact (List.length_map _).trans perm.length_eq
  · rw [pendingCount]
    exact (congrArg List.length pendingRows).trans
      ((List.length_map _).trans (perm.filter _).length_eq)
  · rw [refundCount]
    exact (congrArg List.length refunds).trans
      ((List.length_map _).trans (perm.filter _).length_eq)
  · refine ⟨returned, perm, ?_, ?_, ?_⟩
    · rw [spent]
      exact congrArg Decimal.sum List.map_map
    · rw [pendingAmount]
      exact congrArg Decimal.sum ((congrArg (List.map Posting.net) pendingRows).trans List.map_map)
    · rw [refundAmount]
      exact congrArg Decimal.sum
        ((congrArg (List.map Posting.refundAmount) refunds).trans List.map_map)
  · intro sound short
    have postings : ∀ keep : Entry → Bool,
        ∀ posting ∈ (returned.filter keep).map Entry.posting, posting.Sound := by
      intro keep posting member
      rcases List.mem_map.mp member with ⟨entry, inside, rfl⟩
      exact sound entry (perm.subset (List.mem_of_mem_filter inside))
    have length : ∀ keep : Entry → Bool,
        ((returned.filter keep).map Entry.posting).length ≤ 10 ^ 10 := by
      intro keep
      rw [List.length_map]
      exact (List.length_filter_le _ _).trans (perm.length_eq.le.trans short)
    have whole : returned.filter (fun _ => true) = returned := List.filter_true returned
    refine ⟨?_, ?_, ?_⟩
    · have sum := value_sum_net (postings fun _ => true)
        (netTotal_lt_of_length (postings fun _ => true) (length fun _ => true))
      rw [whole, Entry.netTotal_eq_total] at sum
      rw [spent]
      exact sum.trans (perm.map _).sum_eq
    · have sum := value_sum_net (postings fun entry => entry.staged.pending)
        (netTotal_lt_of_length (postings _) (length _))
      rw [Entry.netTotal_eq_total] at sum
      rw [pendingAmount]
      refine (congrArg (fun rows => (Decimal.sum (List.map Posting.net rows)).value)
        pendingRows).trans (sum.trans ?_)
      exact ((perm.filter _).map _).sum_eq
    · have sum := value_sum_refunds (postings fun entry => entry.staged.refunded) (length _)
      rw [refundAmount]
      refine (congrArg (fun rows => (Decimal.sum (List.map Posting.refundAmount rows)).value)
        refunds).trans (sum.trans ?_)
      rw [List.map_map]
      exact ((perm.filter _).map _).sum_eq

theorem Tracks.shows (tracks : Tracks database store since)
    (invariant : SystemInvariant environment database)
    (found : database.config.active = some active)
    (member : row ∈ rulesForConfig database.config active.id) {lastDay : Date}
    (notBefore : NotBefore since lastDay) {shown : DashboardCategory}
    (read : dashboardCategory database.ledger active.id lastDay row = .ok shown) :
    Shows store lastDay row shown := by
  rcases Outcome.bind_eq_ok.mp read with ⟨windowStart, subtracted, finished⟩
  rw [Outcome.orRaise_eq_ok, Date.minusDays_eq_some_iff] at subtracted
  rw [Outcome.pure_eq_ok] at finished
  rcases exists_perm_of_pairs (tracks.perm_windowEntries invariant found member notBefore
    subtracted) with ⟨entries, perm, postings⟩
  rw [← finished]
  exact ⟨rfl, rfl, subtracted, reports_of_figures perm
    (congrArg DashboardService.figures postings) rfl rfl rfl rfl rfl rfl⟩

/-- The dashboard fails only where a window would start before the first date. -/
theorem SystemInvariant.getDashboard_ok (invariant : SystemInvariant environment database)
    (found : database.config.active = some active) {clock : Clock} {asOf : Option Date}
    (fits : ∀ row ∈ enabledRules database.config active.id,
      row.rule.lookbackDays - 1 < (windowEnd environment clock asOf active).ordinal)
    (staleAfterHours : Nat) :
    ∃ response, getDashboard environment clock database asOf staleAfterHours = .ok response := by
  have categories := invariant.config.getDashboard_categories found clock asOf staleAfterHours
  have succeeds : ∃ shown, (enabledRules database.config active.id).mapM
      (dashboardCategory database.ledger active.id (windowEnd environment clock asOf active)) =
        .ok shown := by
    refine Outcome.mapM_eq_ok_of fun row member => ?_
    have inRange := fits row member
    unfold dashboardCategory Date.minusDays
    rw [dif_pos inRange]
    exact ⟨_, rfl⟩
  rcases succeeds with ⟨shown, read⟩
  rw [read] at categories
  cases outcome : getDashboard environment clock database asOf staleAfterHours with
  | error error =>
      rw [outcome] at categories
      cases categories
  | ok response => exact ⟨response, rfl⟩

/-- The first publication since the last full one covered every window of its end. -/
theorem Tracks.window_fits (tracks : Tracks database store since)
    (invariant : SystemInvariant environment database)
    (found : database.config.active = some active) (some : since ≠ []) :
    ∃ first rest, since = first :: rest ∧ ∀ row ∈ enabledRules database.config active.id,
      first.run.sourceFromDate.ordinal + (row.rule.lookbackDays - 1) ≤
        first.run.sourceToDate.ordinal := by
  rcases tracks.full with none | ⟨publication, rest, rfl, isFull⟩
  · exact absurd none some
  · have member : publication ∈ publication :: rest := List.mem_cons_self
    refine ⟨publication, rest, rfl, fun row rowMember => ?_⟩
    have runMember := Table.mem_of_get (tracks.runs publication member).1
    rcases (invariant.refresh.runs publication.run runMember).bound with ⟨target, bound, _⟩
    have owner := tracks.owner publication member
    rw [found, Option.map_some, Option.some.injEq] at owner
    have targetId : target.id = active.id := by
      have key : target.id = publication.run.configVersionId := Table.key_of_get bound.found
      rw [key, owner]
    rw [← targetId] at rowMember
    exact bound.window isFull row rowMember

/-- A dashboard whose windows end no earlier than any run since the last full one shows the
figures of the store that never prunes; and once a run has committed, it always answers. -/
theorem dashboard_shows_reference (environment : Environment) (history : List Event)
    (clock : Clock) (asOf : Option Date) (staleAfterHours : Nat) (active : ConfigVersion)
    (found : ((service environment).run history).config.active = some active)
    (notBefore : NotBefore (Reference.sinceFull (published environment history))
      (windowEnd environment clock asOf active)) :
    (∀ response, getDashboard environment clock ((service environment).run history) asOf
          staleAfterHours = .ok response →
        List.Forall₂ (Shows (reference environment history) (windowEnd environment clock asOf active))
          (enabledRules ((service environment).run history).config active.id)
          response.categories) ∧
      (((service environment).run history).syncState.isSome →
        ∃ response, getDashboard environment clock ((service environment).run history) asOf
          staleAfterHours = .ok response) := by
  have invariant := invariant_run environment history
  have tracks := tracks_run environment history
  refine ⟨fun response read => ?_, fun synced => ?_⟩
  · have categories := invariant.config.getDashboard_categories found clock asOf staleAfterHours
    rw [read] at categories
    have each := Outcome.forall₂_of_mapM_eq_ok categories.symm
    have rules : ∀ row ∈ enabledRules ((service environment).run history).config active.id,
        row ∈ rulesForConfig ((service environment).run history).config active.id :=
      fun row member => List.mem_of_mem_filter member
    refine ((List.forall₂_and_left _ _).mpr ⟨rules, each⟩).imp fun row shown known => ?_
    exact tracks.shows invariant found known.1 notBefore known.2
  · rcases Option.isSome_iff_exists.mp synced with ⟨syncState, sync⟩
    have some : Reference.sinceFull (published environment history) ≠ [] := by
      intro none
      have last := tracks.last
      rw [none, sync] at last
      cases last
    rcases tracks.window_fits invariant found some with ⟨publication, rest, split, fits⟩
    have member : publication ∈ Reference.sinceFull (published environment history) := by
      rw [split]
      exact List.mem_cons_self
    refine invariant.getDashboard_ok found (fun row rowMember => ?_) staleAfterHours
    have reached := Date.le_iff.mp (notBefore publication member)
    have inside := fits row rowMember
    have valid := publication.run.sourceFromDate.valid
    omega

theorem dashboard_shows_reference_synced : ∃ active response,
    getDashboard .transparent Sample.clock ((service .transparent).run Sample.synced) none 24 =
        .ok response ∧
      List.Forall₂ (Shows (reference .transparent Sample.synced) Sample.today)
        (enabledRules ((service .transparent).run Sample.synced).config active)
        response.categories := by
  have isActive : ((service .transparent).run Sample.synced).config.active.isSome = true := by
    decide +kernel
  have synced : ((service .transparent).run Sample.synced).syncState.isSome = true := by
    decide +kernel
  have notBefore : ∀ publication ∈ Reference.sinceFull (published .transparent Sample.synced),
      publication.run.sourceToDate ≤ Sample.today := by decide +kernel
  rcases Option.isSome_iff_exists.mp isActive with ⟨active, found⟩
  have shows := dashboard_shows_reference .transparent Sample.synced Sample.clock none 24 active
    found notBefore
  rcases shows.2 synced with ⟨response, read⟩
  exact ⟨active.id, response, read, shows.1 response read⟩

/-! ## Coverage -/

/-- Every day of the window lies within the source dates of a run since the last full one, and
no link of the category dated in the window was pruned by them. -/
structure WindowCovered (since : List Publication) (lastDay : Date) (row : LinkedRule) : Prop where
  days : ∀ day : Date, lastDay.ordinal ≤ day.ordinal + (row.rule.lookbackDays - 1) →
    day ≤ lastDay → ∃ publication ∈ since,
      publication.run.sourceFromDate ≤ day ∧ day ≤ publication.run.sourceToDate
  links : ∀ publication ∈ since, ∀ gone ∈ publication.pruned,
    gone.1.categoryId = row.category.id → gone.2 ≤ lastDay →
      gone.2.ordinal + (row.rule.lookbackDays - 1) < lastDay.ordinal

/-- The windows of all enabled categories are covered. -/
def DashboardCovered (environment : Environment) (history : List Event) (lastDay : Date) : Prop :=
  ∀ active, ((service environment).run history).config.active = some active →
    ∀ row ∈ enabledRules ((service environment).run history).config active.id,
      WindowCovered (Reference.sinceFull (published environment history)) lastDay row

/-- Each later run begins at most a day after what the runs before it reached. -/
def Contiguous (since : List Publication) : Prop :=
  ∀ earlier publication later, since = earlier ++ publication :: later → earlier ≠ [] →
    ∃ previous ∈ earlier, publication.run.sourceFromDate.ordinal ≤
      previous.run.sourceToDate.ordinal + 1

/-- Runs that all reach back to the first one leave no gap. -/
theorem contiguous_of_head (reaches : since.all (fun publication => since.head?.all fun first =>
    decide (publication.run.sourceFromDate.ordinal ≤ first.run.sourceToDate.ordinal + 1)) =
      true) : Contiguous since := by
  intro earlier publication later split nonempty
  rcases List.exists_cons_of_ne_nil nonempty with ⟨first, rest, rfl⟩
  have reached := List.all_eq_true.mp reaches publication (by simp [split])
  rw [split, List.cons_append, List.head?_cons, Option.all_some, decide_eq_true_eq] at reached
  exact ⟨first, List.mem_cons_self, reached⟩

theorem Contiguous.covers {first : Publication} {rest : List Publication}
    (contiguous : Contiguous (first :: rest)) {day : Date}
    (after : first.run.sourceFromDate ≤ day)
    (reached : ∃ publication ∈ first :: rest, day ≤ publication.run.sourceToDate) :
    ∃ publication ∈ first :: rest,
      publication.run.sourceFromDate ≤ day ∧ day ≤ publication.run.sourceToDate := by
  induction rest using List.reverseRecOn with
  | nil =>
      rcases reached with ⟨publication, member, before⟩
      rw [List.mem_singleton.mp member] at before
      exact ⟨first, List.mem_singleton_self first, after, before⟩
  | append_singleton rest last induction =>
      have shorter : Contiguous (first :: rest) := by
        intro earlier publication later split nonempty
        refine contiguous earlier publication (later ++ [last]) ?_ nonempty
        rw [← List.cons_append, split]
        simp
      by_cases before : ∃ publication ∈ first :: rest, day ≤ publication.run.sourceToDate
      · rcases induction shorter before with ⟨publication, member, covers⟩
        exact ⟨publication, List.mem_append_left [last] member, covers⟩
      · rcases contiguous (first :: rest) last [] rfl (List.cons_ne_nil _ _) with
          ⟨previous, member, next⟩
        have past : ¬day ≤ previous.run.sourceToDate := fun atMost => before ⟨previous, member, atMost⟩
        have isLast : last ∈ first :: (rest ++ [last]) := by simp
        refine ⟨last, isLast, ?_, ?_⟩
        · rw [Date.le_iff] at past ⊢
          omega
        · rcases reached with ⟨publication, inAll, atMost⟩
          rcases List.mem_append.mp (show publication ∈ (first :: rest) ++ [last] from inAll) with
            early | isEnd
          · exact absurd ⟨publication, early, atMost⟩ before
          · rw [List.mem_singleton.mp isEnd] at atMost
            exact atMost

/-- The run that committed last reaches the day of a fresh dashboard. -/
theorem fresh_reached {clock : Clock} {asOf : Option Date} {staleAfterHours : Nat}
    {response : DashboardResponse}
    (read : getDashboard environment clock database asOf staleAfterHours = .ok response)
    (fresh : response.freshness.status = .fresh) :
    ∃ syncState run, database.syncState = some syncState ∧
      database.refresh.run syncState.lastRefreshRunId = some run ∧
        response.asOf ≤ run.sourceToDate := by
  rcases Outcome.bind_eq_ok.mp read with ⟨active, _, read⟩
  rcases Outcome.bind_eq_ok.mp read with ⟨_, _, read⟩
  rcases Outcome.bind_eq_ok.mp read with ⟨_, _, read⟩
  rcases Outcome.bind_eq_ok.mp read with ⟨_, _, finished⟩
  rw [Outcome.pure_eq_ok] at finished
  rw [← finished] at fresh ⊢
  unfold freshness at fresh
  cases sync : database.syncState with
  | none =>
      rw [sync] at fresh
      cases fresh
  | some syncState =>
      rw [sync] at fresh
      dsimp only at fresh
      split at fresh
      · cases fresh
      · next notStale =>
        rw [not_or] at notStale
        cases last : database.refresh.run syncState.lastRefreshRunId with
        | none =>
            rw [last] at notStale
            exact absurd rfl notStale.2
        | some run =>
            rw [last] at notStale
            refine ⟨syncState, run, rfl, last, not_lt.mp fun behind => notStale.2 ?_⟩
            exact decide_eq_true behind

/-- A fresh dashboard is covered when its windows end no earlier than any run since the last
full one, and these runs leave no gap. -/
theorem fresh_dashboard_covered (environment : Environment) (history : List Event) (clock : Clock)
    (asOf : Option Date) (staleAfterHours : Nat) (response : DashboardResponse)
    (read : getDashboard environment clock ((service environment).run history) asOf
      staleAfterHours = .ok response)
    (fresh : response.freshness.status = .fresh)
    (notBefore : NotBefore (Reference.sinceFull (published environment history)) response.asOf)
    (contiguous : Contiguous (Reference.sinceFull (published environment history))) :
    DashboardCovered environment history response.asOf := by
  have invariant := invariant_run environment history
  have tracks := tracks_run environment history
  rcases fresh_reached read fresh with ⟨syncState, run, sync, runFound, reached⟩
  intro active found row rowMember
  have last := tracks.last
  rw [sync, Option.map_some, eq_comm, Option.map_eq_some_iff] at last
  rcases last with ⟨newest, isLast, newestId⟩
  have newestMember := List.mem_of_getLast? isLast
  have newestRun := (tracks.runs newest newestMember).1
  rw [newestId, runFound, Option.some.injEq] at newestRun
  rw [newestRun] at reached
  refine ⟨fun day after before => ?_, fun publication member gone goneMember category old => ?_⟩
  · rcases tracks.window_fits invariant found (List.ne_nil_of_mem newestMember) with
      ⟨first, rest, split, fits⟩
    have inside := fits row rowMember
    rw [split] at contiguous notBefore newestMember ⊢
    have firstReached := Date.le_iff.mp (notBefore first List.mem_cons_self)
    refine contiguous.covers (Date.le_iff.mpr ?_) ⟨newest, newestMember, before.trans reached⟩
    omega
  · by_contra inWindow
    have left := tracks.pruned publication member gone goneMember
    rw [category] at left
    exact tracks.not_leftWindow invariant found (List.mem_of_mem_filter rowMember) notBefore
      (by omega) member left

/-- An incremental run that goes on where the full run ended. -/
def Sample.extended : List Event := Sample.synced ++
  [⟨.beginRefresh
      { Sample.continued with sourceFromDate := Sample.today, sourceToDate := Sample.laterDay }
      "later".toList 10 1000, Sample.laterClock⟩,
    ⟨.commitRefresh 2 ⟨0, ["checking".toList]⟩, Sample.laterClock⟩]

theorem fresh_dashboard_covered_extended :
    (Reference.sinceFull (published .transparent Sample.extended)).length = 2 ∧
      DashboardCovered .transparent Sample.extended Sample.laterDay := by
  have shown : (match getDashboard .transparent Sample.laterClock
        ((service .transparent).run Sample.extended) none 24 with
      | .ok response =>
          decide (response.freshness.status = .fresh ∧ response.asOf = Sample.laterDay)
      | .error _ => false) = true := by decide +kernel
  have notBefore : ∀ publication ∈ Reference.sinceFull (published .transparent Sample.extended),
      publication.run.sourceToDate ≤ Sample.laterDay := by decide +kernel
  refine ⟨by decide +kernel, ?_⟩
  split at shown
  · next response read =>
    rcases of_decide_eq_true shown with ⟨fresh, asOf⟩
    have covered := fresh_dashboard_covered .transparent Sample.extended Sample.laterClock none 24
      response read fresh (asOf ▸ notBefore) (contiguous_of_head (by decide +kernel))
    rw [asOf] at covered
    exact covered
  · cases shown

/-- A fresh dashboard after a gap between two runs, and one of a day before the windows of the
last full run. -/
theorem fresh_dashboard_uncovered :
    (∃ response, getDashboard .transparent Sample.laterClock
          ((service .transparent).run Sample.gap) none 24 = .ok response ∧
        response.freshness.status = .fresh ∧ response.fullRebuildRequired = false ∧
        NotBefore (Reference.sinceFull (published .transparent Sample.gap)) response.asOf ∧
        ¬DashboardCovered .transparent Sample.gap response.asOf) ∧
      ∃ response, getDashboard .transparent Sample.clock ((service .transparent).run Sample.old)
          (some Sample.earlierDay) 24 = .ok response ∧
        response.freshness.status = .fresh ∧ response.fullRebuildRequired = false ∧
        Contiguous (Reference.sinceFull (published .transparent Sample.old)) ∧
        ¬DashboardCovered .transparent Sample.old response.asOf := by
  refine ⟨?_, ?_⟩
  · have shown : (match getDashboard .transparent Sample.laterClock
          ((service .transparent).run Sample.gap) none 24 with
        | .ok response => decide (response.freshness.status = .fresh ∧
            response.fullRebuildRequired = false ∧ response.asOf = Sample.laterDay)
        | .error _ => false) = true := by decide +kernel
    have notBefore : ∀ publication ∈ Reference.sinceFull (published .transparent Sample.gap),
        publication.run.sourceToDate ≤ Sample.laterDay := by decide +kernel
    have uncovered : (((service .transparent).run Sample.gap).config.active.any fun active =>
          (enabledRules ((service .transparent).run Sample.gap).config active.id).any fun row =>
            decide (Sample.laterDay.ordinal ≤ 739805 + (row.rule.lookbackDays - 1))) = true ∧
        ∀ publication ∈ Reference.sinceFull (published .transparent Sample.gap),
          ¬(publication.run.sourceFromDate.ordinal ≤ 739805 ∧
            739805 ≤ publication.run.sourceToDate.ordinal) := by decide +kernel
    split at shown
    · next response read =>
      rcases of_decide_eq_true shown with ⟨fresh, current, asOf⟩
      refine ⟨response, read, fresh, current, asOf ▸ notBefore, fun covered => ?_⟩
      rcases (Option.any_eq_true _ _).mp uncovered.1 with ⟨active, found, some⟩
      rcases List.any_eq_true.mp some with ⟨row, member, inWindow⟩
      rw [asOf] at covered
      rcases (covered active found row member).days (Sample.day 739805 (by decide))
        (of_decide_eq_true inWindow) (by decide) with ⟨publication, inSince, after, before⟩
      exact uncovered.2 publication inSince ⟨after, before⟩
    · cases shown
  · have shown : (match getDashboard .transparent Sample.clock
          ((service .transparent).run Sample.old) (some Sample.earlierDay) 24 with
        | .ok response => decide (response.freshness.status = .fresh ∧
            response.fullRebuildRequired = false ∧ response.asOf = Sample.earlierDay)
        | .error _ => false) = true := by decide +kernel
    have pruned : (((service .transparent).run Sample.old).config.active.any fun active =>
          (enabledRules ((service .transparent).run Sample.old).config active.id).any fun row =>
            (Reference.sinceFull (published .transparent Sample.old)).any fun publication =>
              publication.pruned.any fun gone =>
                decide (gone.1.categoryId = row.category.id ∧ gone.2 = Sample.earlierDay)) =
        true := by decide +kernel
    split at shown
    · next response read =>
      rcases of_decide_eq_true shown with ⟨fresh, current, asOf⟩
      refine ⟨response, read, fresh, current, contiguous_of_head (by decide +kernel),
        fun covered => ?_⟩
      rcases (Option.any_eq_true _ _).mp pruned with ⟨active, found, some⟩
      rcases List.any_eq_true.mp some with ⟨row, member, some⟩
      rcases List.any_eq_true.mp some with ⟨publication, inSince, some⟩
      rcases List.any_eq_true.mp some with ⟨gone, goneMember, matching⟩
      rcases of_decide_eq_true matching with ⟨category, date⟩
      rw [asOf] at covered
      have old := (covered active found row member).links publication inSince gone goneMember
        category (le_of_eq date)
      rw [date] at old
      omega
    · cases shown

end RollingBudget
