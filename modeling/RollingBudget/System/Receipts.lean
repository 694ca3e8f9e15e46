import RollingBudget.Schemas.CanonicalContent
import RollingBudget.System.Protocol

namespace RollingBudget

open Sorting RefreshService

/-! Receipts are unambiguous. What is hashed for a list of batch checksums determines the
list, and what is hashed for a receipt determines the run, its checksum and the time of its
commit. -/

/-! ## Separators -/

/-- The first separator ends the first part. -/
theorem eq_of_separated {separator : Char} {left right leftRest rightRest : Text}
    (leftPlain : separator ∉ left) (rightPlain : separator ∉ right)
    (equal : left ++ separator :: leftRest = right ++ separator :: rightRest) :
    left = right ∧ leftRest = rightRest := by
  have others : ∀ {text : Text}, separator ∉ text →
      ∀ character ∈ text, (character != separator) = true := by
    intro text plain character member
    rw [bne_iff_ne]
    rintro rfl
    exact plain member
  rcases Text.append_eq_append_of_stopsAt (others leftPlain) (others rightPlain)
    (Text.stopsAt_cons leftRest (by simp)) (Text.stopsAt_cons rightRest (by simp)) equal with
    ⟨parts, rests⟩
  exact ⟨parts, (List.cons.inj rests).2⟩

/-! ## The stream of `checksum_chain` -/

/-- What `checksum_chain` feeds to its digest. -/
def chainStream (checksums : List Text) : Text := checksums.flatMap fun checksum => checksum ++ ['\n']

theorem chainStream_injective {left right : List Text}
    (leftPlain : ∀ checksum ∈ left, '\n' ∉ checksum)
    (rightPlain : ∀ checksum ∈ right, '\n' ∉ checksum)
    (equal : chainStream left = chainStream right) : left = right := by
  unfold chainStream at equal
  induction left generalizing right with
  | nil =>
      cases right with
      | nil => rfl
      | cons other right => simp at equal
  | cons checksum left induction =>
      cases right with
      | nil => simp at equal
      | cons other right =>
          rw [List.forall_mem_cons] at leftPlain rightPlain
          rw [List.flatMap_cons, List.flatMap_cons, List.append_assoc, List.append_assoc] at equal
          rcases eq_of_separated leftPlain.1 rightPlain.1 equal with ⟨heads, tails⟩
          rw [heads, induction leftPlain.2 rightPlain.2 tails]

/-! ## UUID texts -/

/-- A digit of `hexdigest` and of `str(uuid)`. -/
def isHexDigit (character : Char) : Bool :=
  character.isDigit || ('a' ≤ character && character ≤ 'f')

def hexDigitValue (character : Char) : Nat :=
  if character.isDigit then character.toNat - 48 else character.toNat - 87

/-- The number that hexadecimal digits write. -/
def ofHex (text : Text) : Nat :=
  text.foldl (fun value character => value * 16 + hexDigitValue character) 0

theorem digitChar_spec : ∀ digit < 16, hexDigitValue (Nat.digitChar digit) = digit ∧
    isHexDigit (Nat.digitChar digit) = true := by
  decide

theorem ofHex_toDigits (number : Nat) : ofHex (Nat.toDigits 16 number) = number := by
  induction number using Nat.strong_induction_on with
  | _ number induction =>
    rw [Nat.toDigits_eq_if (by decide)]
    split
    · next small =>
      simpa [ofHex] using (digitChar_spec number small).1
    · next large =>
      have smaller := induction (number / 16) (by omega)
      have last := (digitChar_spec (number % 16) (by omega)).1
      unfold ofHex at smaller ⊢
      rw [List.foldl_append, smaller, List.foldl_cons, List.foldl_nil, last]
      omega

theorem ofHex_zeroPad (width : Nat) (text : Text) : ofHex (Text.zeroPad width text) = ofHex text := by
  unfold Text.zeroPad
  induction width - text.length with
  | zero => rfl
  | succ count induction =>
      rw [List.replicate_succ, List.cons_append]
      exact induction

theorem isHexDigit_of_mem_toDigits {number : Nat} {character : Char}
    (member : character ∈ Nat.toDigits 16 number) : isHexDigit character = true := by
  induction number using Nat.strong_induction_on with
  | _ number induction =>
    rw [Nat.toDigits_eq_if (by decide)] at member
    split at member
    · next small =>
      rw [List.mem_singleton.mp member]
      exact (digitChar_spec number small).2
    · next large =>
      rcases List.mem_append.mp member with earlier | last
      · exact induction (number / 16) (by omega) earlier
      · rw [List.mem_singleton.mp last]
        exact (digitChar_spec (number % 16) (by omega)).2

/-- The 32 digits of a UUID. -/
def uuidDigits (id : Nat) : Text := Text.zeroPad 32 (Nat.toDigits 16 id)

theorem isHexDigit_of_mem_uuidDigits {id : Nat} {character : Char}
    (member : character ∈ uuidDigits id) : isHexDigit character = true := by
  rcases List.mem_append.mp member with zero | digit
  · rw [List.eq_of_mem_replicate zero]
    rfl
  · exact isHexDigit_of_mem_toDigits digit

theorem uuidText_injective : Function.Injective uuidText := by
  intro left right equal
  have long : ∀ id, 32 ≤ (uuidDigits id).length := by
    intro id
    unfold uuidDigits Text.zeroPad
    rw [List.length_append, List.length_replicate]
    omega
  have leftLong := long left
  have rightLong := long right
  have sameDigits : uuidDigits left = uuidDigits right := by
    unfold uuidText at equal
    change (uuidDigits left).take 8 ++ '-' :: (((uuidDigits left).drop 8).take 4 ++ '-' ::
      (((uuidDigits left).drop 12).take 4 ++ '-' :: (((uuidDigits left).drop 16).take 4 ++ '-' ::
        (uuidDigits left).drop 20))) =
      (uuidDigits right).take 8 ++ '-' :: (((uuidDigits right).drop 8).take 4 ++ '-' ::
        (((uuidDigits right).drop 12).take 4 ++ '-' :: (((uuidDigits right).drop 16).take 4 ++
          '-' :: (uuidDigits right).drop 20))) at equal
    generalize uuidDigits left = leftDigits at leftLong equal
    generalize uuidDigits right = rightDigits at rightLong equal
    rcases List.append_inj equal (by simp; omega) with ⟨first, equal⟩
    rcases List.append_inj (List.cons.inj equal).2 (by simp; omega) with ⟨second, equal⟩
    rcases List.append_inj (List.cons.inj equal).2 (by simp; omega) with ⟨third, equal⟩
    rcases List.append_inj (List.cons.inj equal).2 (by simp; omega) with ⟨fourth, equal⟩
    have last := (List.cons.inj equal).2
    have joined : ∀ digits : Text, digits = digits.take 8 ++ ((digits.drop 8).take 4 ++
        ((digits.drop 12).take 4 ++ ((digits.drop 16).take 4 ++ digits.drop 20))) := by
      intro digits
      have fromSixteen : (digits.drop 16).take 4 ++ digits.drop 20 = digits.drop 16 := by
        have rest := List.take_append_drop 4 (digits.drop 16)
        rwa [List.drop_drop] at rest
      have fromTwelve : (digits.drop 12).take 4 ++ digits.drop 16 = digits.drop 12 := by
        have rest := List.take_append_drop 4 (digits.drop 12)
        rwa [List.drop_drop] at rest
      have fromEight : (digits.drop 8).take 4 ++ digits.drop 12 = digits.drop 8 := by
        have rest := List.take_append_drop 4 (digits.drop 8)
        rwa [List.drop_drop] at rest
      rw [fromSixteen, fromTwelve, fromEight, List.take_append_drop]
    rw [joined leftDigits, joined rightDigits, first, second, third, fourth, last]
  have read := congrArg ofHex sameDigits
  unfold uuidDigits at read
  rwa [ofHex_zeroPad, ofHex_zeroPad, ofHex_toDigits, ofHex_toDigits] at read

theorem colon_not_mem_uuidText (id : Nat) : ':' ∉ uuidText id := by
  have notDigit : ∀ {text : Text}, (∀ character ∈ text, character ∈ uuidDigits id) →
      ':' ∉ text := by
    intro text within member
    exact absurd (isHexDigit_of_mem_uuidDigits (within ':' member)) (by decide)
  have taken : ∀ start count, ':' ∉ ((uuidDigits id).drop start).take count :=
    fun start count => notDigit fun _ member =>
      List.mem_of_mem_drop (List.mem_of_mem_take member)
  have first := taken 0 8
  have last : ':' ∉ (uuidDigits id).drop 20 := notDigit fun _ => List.mem_of_mem_drop
  rw [List.drop_zero] at first
  unfold uuidText
  change ':' ∉ (uuidDigits id).take 8 ++ '-' :: (((uuidDigits id).drop 8).take 4 ++ '-' ::
    (((uuidDigits id).drop 12).take 4 ++ '-' :: (((uuidDigits id).drop 16).take 4 ++ '-' ::
      (uuidDigits id).drop 20)))
  simp only [List.mem_append, List.mem_cons, not_or]
  exact ⟨first, by decide, taken 8 4, by decide, taken 12 4, by decide, taken 16 4, by decide, last⟩

/-! ## Receipts -/

/-- The parts of a receipt: the text of the run's UUID, its hexadecimal checksum and the text
of the time of its commit. -/
structure ReceiptParts where
  runId : Text
  checksum : Text
  committedAt : Text
  isUuid : ∃ id, runId = uuidText id
  isHex : ∀ character ∈ checksum, isHexDigit character = true

namespace ReceiptParts

/-- What `stable_receipt` hashes. -/
def payload (parts : ReceiptParts) : Text :=
  parts.runId ++ ':' :: (parts.checksum ++ ':' :: parts.committedAt)

theorem payload_injective {first second : ReceiptParts} (equal : first.payload = second.payload) :
    first.runId = second.runId ∧ first.checksum = second.checksum ∧
      first.committedAt = second.committedAt := by
  have plainId : ∀ parts : ReceiptParts, ':' ∉ parts.runId := by
    intro parts
    rcases parts.isUuid with ⟨id, written⟩
    rw [written]
    exact colon_not_mem_uuidText id
  have plainChecksum : ∀ parts : ReceiptParts, ':' ∉ parts.checksum :=
    fun parts member => absurd (parts.isHex ':' member) (by decide)
  rcases eq_of_separated (plainId first) (plainId second) equal with ⟨ids, afterId⟩
  rcases eq_of_separated (plainChecksum first) (plainChecksum second) afterId with
    ⟨checksums, times⟩
  exact ⟨ids, checksums, times⟩

end ReceiptParts

/-! ## Committed runs -/

variable {environment : Environment}

/-- The checksum of every batch is a digest. -/
theorem digest_of_batch (environment : Environment) (history : List Event) :
    ∀ batch ∈ ((service environment).run history).refresh.refreshBatches,
      ∃ message, batch.checksum = environment.sha256 message := by
  induction history using List.reverseRecOn with
  | nil =>
      intro batch member
      cases member
  | append_singleton history event induction =>
      have invariant := invariant_run environment history
      rw [Machine.run_concat]
      change ∀ batch ∈ (event.next environment
        ((service environment).run history)).refresh.refreshBatches, _
      rcases event.next_cases invariant.config with unchanged | ⟨response, succeeds⟩
      · rw [unchanged]
        exact induction
      · generalize event.next environment ((service environment).run history) = committed at succeeds ⊢
        intro batch member
        cases succeeds with
        | putConfig validated result =>
            rw [result.committed] at member
            exact induction batch member
        | putConfigChecked validated result =>
            rw [result.committed] at member
            exact induction batch member
        | beginRefresh validated result =>
            cases result with
            | replay existing config found hash configFound result answer =>
                rw [result] at member
                exact induction batch member
            | new target missing begun result answer =>
                rw [result] at member
                exact induction batch member
        | uploadBatch validated limits result =>
            cases result with
            | replay run existing runFound found hash checksum result answer =>
                rw [result] at member
                exact induction batch member
            | new run config runId_eq uploaded result answer =>
                rw [result] at member
                rcases List.mem_append.mp member with earlier | new
                · exact induction batch earlier
                · rw [List.mem_singleton.mp new]
                  exact ⟨_, rfl⟩
        | commitRefresh validated result =>
            cases result with
            | replay run found state count accounts result answer =>
                rw [result] at member
                exact induction batch member
            | new run config tables ledger runId_eq published answer =>
                rw [published.refreshEq] at member
                exact induction batch member

/-- The checksums of a run's batches, in index order. -/
def batchChecksums (tables : RefreshTables) (runId : Nat) : List Text :=
  (orderedBatches tables runId).map RefreshBatch.checksum

/-- The receipt of a committed run, from what it is a receipt for. -/
theorem receipt_of_committed {history : List Event} {run : RefreshRun}
    (member : run ∈ ((service environment).run history).refresh.refreshRuns)
    (isCommitted : run.state = .committed) :
    ∃ committedAt, run.committedAt = some committedAt ∧
      (runView environment run).receipt = some (environment.stableReceipt run.id
        (environment.checksumChain
          (batchChecksums ((service environment).run history).refresh run.id))
        (committedAt.isoformat environment.offset)) := by
  have intact := ((invariant_run environment history).refresh.runs run member).committed isCommitted
  rcases Option.isSome_iff_exists.mp intact.committedAt with ⟨committedAt, found⟩
  refine ⟨committedAt, found, ?_⟩
  unfold runView
  dsimp only
  rw [found, Option.bind_some, intact.checksum]
  rfl

/-- Receipts are unambiguous. Lists of checksums without newlines feed equal bytes to the
digest only when they are equal, and so do the parts of receipts. Two committed runs, of one
database or of two, have the same receipt only when they are the same run with the same
batches, committed at the same time. -/
theorem receipts_unambiguous :
    (∀ left right : List Text, (∀ checksum ∈ left, '\n' ∉ checksum) →
      (∀ checksum ∈ right, '\n' ∉ checksum) →
      ((chainStream left).encode = (chainStream right).encode ↔ left = right)) ∧
    (∀ first second : ReceiptParts,
      first.payload.encode = second.payload.encode ↔ first = second) ∧
    ∀ environment : Environment, Function.Injective environment.sha256 →
      (∀ message, ∀ character ∈ environment.sha256 message, isHexDigit character = true) →
      ∀ history history' run run',
        run ∈ ((service environment).run history).refresh.refreshRuns →
        run' ∈ ((service environment).run history').refresh.refreshRuns →
        run.state = .committed → run'.state = .committed →
        (runView environment run).receipt = (runView environment run').receipt →
        run.id = run'.id ∧
          batchChecksums ((service environment).run history).refresh run.id =
            batchChecksums ((service environment).run history').refresh run'.id ∧
          run.committedAt = run'.committedAt := by
  refine ⟨?_, ?_, ?_⟩
  · intro left right leftPlain rightPlain
    rw [Text.encode_injective.eq_iff]
    exact ⟨chainStream_injective leftPlain rightPlain, congrArg chainStream⟩
  · intro first second
    rw [Text.encode_injective.eq_iff]
    constructor
    · intro equal
      have parts := ReceiptParts.payload_injective equal
      cases first
      cases second
      rw [ReceiptParts.mk.injEq]
      exact parts
    · exact congrArg ReceiptParts.payload
  · intro environment injective hex history history' run run' member member' state state' equal
    rcases receipt_of_committed member state with ⟨committedAt, found, receipt⟩
    rcases receipt_of_committed member' state' with ⟨committedAt', found', receipt'⟩
    rw [receipt, receipt', Option.some.injEq] at equal
    have plain : ∀ history runId, ∀ checksum ∈ batchChecksums
        ((service environment).run history).refresh runId, '\n' ∉ checksum := by
      intro history runId checksum among newline
      rcases List.mem_map.mp among with ⟨batch, ordered, rfl⟩
      have stored := (List.mem_filter.mp (mem_sortedOn.mp ordered)).1
      rcases digest_of_batch environment history batch stored with ⟨message, written⟩
      rw [written] at newline
      exact absurd (hex message _ newline) (by decide)
    rcases @ReceiptParts.payload_injective
      ⟨uuidText run.id, _, committedAt.isoformat environment.offset, ⟨_, rfl⟩, hex _⟩
      ⟨uuidText run'.id, _, committedAt'.isoformat environment.offset, ⟨_, rfl⟩, hex _⟩
      (injective equal) with ⟨ids, checksums, times⟩
    refine ⟨uuidText_injective ids, ?_, ?_⟩
    · exact chainStream_injective (plain _ _) (plain _ _) (injective checksums)
    · rw [found, found', Datetime.isoformat_injective _ times]

namespace Sample

/-- A number for each text, and its hexadecimal digits as the digest. -/
def number : Text → Nat
  | [] => 0
  | character :: text => character.toNat + 1 + 2 ^ 21 * number text

def hexadecimal : Environment :=
  { Environment.transparent with sha256 := fun text => Nat.toDigits 16 (number text) }

theorem number_injective : Function.Injective number := by
  intro left right equal
  induction left generalizing right with
  | nil =>
      cases right with
      | nil => rfl
      | cons character right =>
          rw [number, number] at equal
          omega
  | cons character left induction =>
      cases right with
      | nil =>
          rw [number, number] at equal
          omega
      | cons other right =>
          have bound : character.toNat < 0x110000 := by
            rcases character.valid with low | ⟨_, high⟩
            · exact lt_trans low (by decide)
            · exact high
          have otherBound : other.toNat < 0x110000 := by
            rcases other.valid with low | ⟨_, high⟩
            · exact lt_trans low (by decide)
            · exact high
          rw [number, number] at equal
          have heads : character.toNat = other.toNat := by omega
          rw [← Char.ofNat_toNat character, heads, Char.ofNat_toNat,
            induction (show number left = number right by omega)]

end Sample

/-- A run of one batch and a run of none have different receipts. -/
theorem receipts_unambiguous_hexadecimal :
    ∃ first second,
      ((service Sample.hexadecimal).run Sample.synced).refresh.run 1 = some first ∧
        ((service Sample.hexadecimal).run (Sample.configured ++
          [Sample.monthBegin, Sample.emptyCommit 1])).refresh.run 1 = some second ∧
        first.state = .committed ∧ second.state = .committed ∧
        (runView Sample.hexadecimal first).receipt ≠
          (runView Sample.hexadecimal second).receipt := by
  have synced : (((service Sample.hexadecimal).run Sample.synced).refresh.run 1).map
      RefreshRun.state = some .committed := by decide +kernel
  have emptied : (((service Sample.hexadecimal).run (Sample.configured ++
      [Sample.monthBegin, Sample.emptyCommit 1])).refresh.run 1).map RefreshRun.state =
        some .committed := by decide +kernel
  have counts : (batchChecksums ((service Sample.hexadecimal).run Sample.synced).refresh 1).length ≠
      (batchChecksums ((service Sample.hexadecimal).run (Sample.configured ++
        [Sample.monthBegin, Sample.emptyCommit 1])).refresh 1).length := by decide +kernel
  have injective : Function.Injective Sample.hexadecimal.sha256 := by
    intro left right equal
    have digits : Nat.toDigits 16 (Sample.number left) = Nat.toDigits 16 (Sample.number right) :=
      equal
    apply Sample.number_injective
    rw [← ofHex_toDigits (Sample.number left), digits, ofHex_toDigits]
  rcases Option.map_eq_some_iff.mp synced with ⟨first, firstFound, firstCommitted⟩
  rcases Option.map_eq_some_iff.mp emptied with ⟨second, secondFound, secondCommitted⟩
  refine ⟨first, second, firstFound, secondFound, firstCommitted, secondCommitted, ?_⟩
  intro equal
  have same := (receipts_unambiguous.2.2 Sample.hexadecimal injective
    (fun _ _ member => isHexDigit_of_mem_toDigits member) _ _ first second
    (Table.mem_of_get firstFound) (Table.mem_of_get secondFound) firstCommitted secondCommitted
    equal).2.1
  rw [show first.id = 1 from Table.key_of_get firstFound,
    show second.id = 1 from Table.key_of_get secondFound] at same
  exact counts (congrArg List.length same)

end RollingBudget
