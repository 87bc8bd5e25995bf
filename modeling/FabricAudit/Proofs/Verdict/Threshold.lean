import FabricAudit.Proofs.Verdict.Sessions

set_option autoImplicit false

/-! # Session counts against a threshold

Telemetry may report any counts below `2 ^ 64`, and a check of BGP sessions compares them with the
least number that it demands, which is a signed word of 64 bits. The counts are turned into such
words first. Below `2 ^ 63` that changes nothing, so the check says what is meant (`Meets`); from
there on a count becomes negative, and the check passes only if even this negative number is not
below the threshold (`sessions_weighed`). A node never passes without reason, but it may fail with
all of its sessions established (`fails_manySessions`).
-/

namespace FabricAudit

/-! ## Counts as signed words -/

namespace Verdict

/-- The upper half of the counts becomes negative. -/
theorem wrapped_of_le {n : Nat} (h : 2 ^ 63 ≤ n) (h' : n < 2 ^ 64) :
    wrapped n = (n : Int) - 2 ^ 64 := by
  have hlimit : ((Nat.pow 2 64 : Nat) : Int) = 2 ^ 64 := Int.natCast_pow 2 64
  -- a whole turn does not change the word, and after it the number is within the limits
  have hturn : wrapped n = Int.bmod ((n : Int) - (Nat.pow 2 64 : Nat)) (Nat.pow 2 64) :=
    (Int.sub_bmod_right _ _).symm
  rw [hturn, ← hlimit]
  refine Int.bmod_eq_of_le_mul_two ?_ ?_
  · rw [hlimit]
    omega
  · rw [hlimit]
    omega

/-- No two counts become the same word. -/
theorem wrapped_inj {m n : Nat} (hm : m < 2 ^ 64) (hn : n < 2 ^ 64) :
    wrapped m = wrapped n ↔ m = n := by
  rcases lt_or_ge m (2 ^ 63) with hm' | hm' <;> rcases lt_or_ge n (2 ^ 63) with hn' | hn'
  · rw [wrapped_of_lt hm', wrapped_of_lt hn', Int.natCast_inj]
  · rw [wrapped_of_lt hm', wrapped_of_le hn' hn]
    omega
  · rw [wrapped_of_le hm' hm, wrapped_of_lt hn']
    omega
  · rw [wrapped_of_le hm' hm, wrapped_of_le hn' hn]
    omega

end Verdict

/-! ## Thresholds -/

/-- The word nearest to an integer is a word. -/
theorem Word.nearest_holds (w : Word) (n : Int) (h : w.least < w.limit) :
    w.holds (w.nearest n) = true := by
  rw [Word.holds, Bool.and_eq_true, decide_eq_true_iff, decide_eq_true_iff, Word.nearest]
  omega

/-- What is read leniently is a signed word, too. -/
theorem Reader.lenientWord_bounds {x : Draft} {n : Int} (h : Reader.lenientWord x = .ok n) :
    -2 ^ 63 ≤ n ∧ n < 2 ^ 63 := by
  obtain ⟨value, -, h⟩ := Except.bind_eq_ok_iff.mp h
  simp only [] at h
  split at h
  · rename_i m hfound
    cases h
    have hholds : (Word.signed 64).holds n = true := by
      split at hfound
      · cases hfound
        exact Word.nearest_holds _ _ (by decide)
      · cases hfound
        exact Word.nearest_holds _ _ (by decide)
      · exact (Option.filter_eq_some_iff.mp hfound).2
      · cases hfound
    exact Word.holds_signed_iff.mp hholds
  · cases h

namespace BgpEstablished

/-! ## What is meant, and what is said -/

/-- There are enough sessions, and all or enough of them are established, as it is demanded. -/
def Meets (p : BgpEstablished) (found : Sessions) : Prop :=
  p.minTotal ≤ found.total ∧
    if p.requireAll then found.established = found.total else p.minTotal ≤ found.established

/-- A count is taken for a negative number that is below the threshold. -/
def Mistakes (p : BgpEstablished) (n : Nat) : Prop := 2 ^ 63 ≤ n ∧ (n : Int) - 2 ^ 64 < p.minTotal

/-- What a check of BGP sessions says of two counts. -/
structure Weighs (p : BgpEstablished) (found : Sessions) (r : Result) : Prop where
  passes_iff : r.status = .pass ↔ p.Meets found ∧ ¬ p.Mistakes found.total ∧
    (p.requireAll = false → ¬ p.Mistakes found.established)
  passes_iff_of_lt : found.total < 2 ^ 63 → found.established < 2 ^ 63 →
    (r.status = .pass ↔ p.Meets found)
  message_eq : r.message = "established " ++ Decimal.ofNat found.established ++ "/"
    ++ Decimal.ofNat found.total

/-- A word reaches the threshold exactly if the count does and is not mistaken. -/
theorem le_wrapped_iff (p : BgpEstablished) {n : Nat} (h : n < 2 ^ 64) :
    p.minTotal ≤ Verdict.wrapped n ↔ p.minTotal ≤ n ∧ ¬ p.Mistakes n := by
  rw [Mistakes]
  rcases lt_or_ge n (2 ^ 63) with hn | hn
  · rw [Verdict.wrapped_of_lt hn]
    omega
  · rw [Verdict.wrapped_of_le hn h]
    omega

/-- **When two counts are enough**, as the check compares them. -/
theorem isSatisfied_wrapped_iff (p : BgpEstablished) {found : Sessions}
    (htotal : found.total < 2 ^ 64) (hestablished : found.established < 2 ^ 64) :
    p.isSatisfied (Verdict.wrapped found.total) (Verdict.wrapped found.established) = true ↔
      p.Meets found ∧ ¬ p.Mistakes found.total ∧
        (p.requireAll = false → ¬ p.Mistakes found.established) := by
  rw [isSatisfied, Bool.and_eq_true, decide_eq_true_iff, p.le_wrapped_iff htotal, Meets]
  cases p.requireAll with
  | true =>
      rw [if_pos rfl, if_pos rfl, beq_iff_eq, Verdict.wrapped_inj hestablished htotal]
      simp only [Bool.true_eq_false, false_imp_iff, and_true]
      exact and_right_comm
  | false =>
      rw [if_neg Bool.false_ne_true, if_neg Bool.false_ne_true, decide_eq_true_iff,
        p.le_wrapped_iff hestablished]
      simp only [true_imp_iff]
      exact and_and_and_comm

/-- The threshold of a check is a signed word, whatever its parameters say. -/
theorem minTotal_bounds {c : Check} {p : BgpEstablished} (h : c.readParams reader = .ok p) :
    -2 ^ 63 ≤ p.minTotal ∧ p.minTotal < 2 ^ 63 := by
  rw [Check.readParams, Reader.document] at h
  obtain ⟨g, h⟩ := Reader.record_eq_ok h
  obtain ⟨selector, -, h⟩ := Except.bind_eq_ok_iff.mp h
  obtain ⟨minTotal, hminTotal, h⟩ := Except.bind_eq_ok_iff.mp h
  obtain ⟨requireAll, -, h⟩ := Except.bind_eq_ok_iff.mp h
  cases h
  rcases Given.take_eq_ok hminTotal with ⟨y, hy⟩ | habsent
  · exact Reader.lenientWord_bounds hy
  · obtain rfl : 1 = minTotal := Option.some.inj habsent
    show (-2 ^ 63 : Int) ≤ 1 ∧ (1 : Int) < 2 ^ 63
    omega

end BgpEstablished

/-- Counts that are read are below `2 ^ 64`. -/
theorem Sessions.lt_of_reader {x : Draft} {found : Sessions} (h : reader x = .ok found) :
    found.total < 2 ^ 64 ∧ found.established < 2 ^ 64 := by
  obtain ⟨g, h⟩ := Reader.record_eq_ok h
  obtain ⟨established, hestablished, h⟩ := Except.bind_eq_ok_iff.mp h
  obtain ⟨total, htotal, h⟩ := Except.bind_eq_ok_iff.mp h
  cases h
  obtain ⟨_, hestablished⟩ := Given.take_required hestablished
  obtain ⟨_, htotal⟩ := Given.take_required htotal
  exact ⟨Reader.count_lt htotal, Reader.count_lt hestablished⟩

/-- So are those of a record, which are zero if it has none. -/
theorem Record.sessions_lt {record : Record} {found : Sessions}
    (h : record.readAt "parsed" Sessions.none Sessions.reader = .ok found) :
    found.total < 2 ^ 64 ∧ found.established < 2 ^ 64 := by
  rw [readAt] at h
  split at h
  · cases h
    decide
  · cases h
    decide
  · exact Sessions.lt_of_reader h

namespace Verdict

/-! ## Runs -/

/-- The verdict on two counts. -/
theorem weighs_sessionsResult (c : Check) (p : BgpEstablished) (node : String) (source : Source)
    {found : Sessions} (htotal : found.total < 2 ^ 64) (hestablished : found.established < 2 ^ 64) :
    p.Weighs found (sessionsResult c p node source found) := by
  have hpasses : (sessionsResult c p node source found).status = .pass ↔
      p.Meets found ∧ ¬ p.Mistakes found.total ∧
        (p.requireAll = false → ¬ p.Mistakes found.established) :=
    (Check.outcome_status_eq_pass ..).trans (p.isSatisfied_wrapped_iff htotal hestablished)
  refine ⟨hpasses, fun htotal' hestablished' => hpasses.trans ?_, outcome_message _ _ _ _ _⟩
  exact and_iff_left ⟨fun h => htotal'.not_ge h.1, fun _ h => hestablished'.not_ge h.1⟩

/-- **Counts against a threshold.**

Take a check of BGP sessions whose parameters read, and let it run in any state. Its threshold is a
signed word of 64 bits. If it leaves evidence that reads on every node that it selects, whether by
telemetry or by command, it has one result for each of them, in order, under the node's name. A node
passes exactly if its counts, as integers, are what the check demands and neither of the counts that
are compared with the threshold is mistaken for a negative number below it. Below `2 ^ 63` no count
is mistaken. The message has both counts as they are. -/
theorem sessions_weighed {σ : Type} (s : Subject σ) (c : Check) (st : Audit.State σ)
    {p : BgpEstablished} (hkind : c.kind = .bgpEstablished)
    (hp : c.readParams BgpEstablished.reader = .ok p)
    (hall : Informs (runCheck s c st).2.store c s.intent.inventory) :
    (-2 ^ 63 ≤ p.minTotal ∧ p.minTotal < 2 ^ 63) ∧
    List.Forall₂
      (fun node r => r.name = c.name ++ "::" ++ node ∧ ∃ record found,
        Keyed.get? (runCheck s c st).2.store.records (EvidenceKind.sessions.key node)
          = some record ∧
        record.readAt "parsed" Sessions.none Sessions.reader = .ok found ∧ p.Weighs found r)
      (c.nodes s.intent.inventory) (runCheck s c st).1 := by
  refine ⟨BgpEstablished.minTotal_bounds hp, ?_⟩
  have hjudges := bgpEstablished_judgesBy s hkind hp
  refine (hjudges.forall₂ hall).imp fun node r hr => ⟨hr.name_eq hjudges.named, ?_⟩
  obtain ⟨record, found, hkept, hread, rfl⟩ := hr
  obtain ⟨htotal, hestablished⟩ := Record.sessions_lt hread
  exact ⟨record, found, hkept, hread, weighs_sessionsResult c p node _ htotal hestablished⟩

def sessionsPayload (found : Sessions) : Document := .ofPairs [("parsed", found.toDocument)]

theorem readAt_sessionsPayload {source : Source} {found : Sessions}
    (htotal : found.total < 2 ^ 64) (hestablished : found.established < 2 ^ 64) :
    (Record.mk source (sessionsPayload found)).readAt "parsed" Sessions.none Sessions.reader
      = .ok found :=
  (Record.readAt_of_get? rfl).trans (Sessions.document_reader hestablished htotal)

/-- A switch whose telemetry reports these counts. -/
def countingLeaf (found : Sessions) : Subject Unit :=
  { scriptedLeaf [] with transport := .static [(sessionsPath, sessionsPayload found)] }

/-- A check that demands that at least minus one session is established. -/
def lenientUnderlay : Check :=
  ⟨"underlay", .underlay, .bgpEstablished, .error,
    [("min_total", .int (-1)), ("require_all", .bool false),
      ("selector", .object [("node", .text "leaf1")])]⟩

/-- The greatest counts before and after the turn to negative numbers. -/
def greatestSessions : Sessions := ⟨2 ^ 63 - 1, 2 ^ 64 - 1⟩

/-- The greatest count of all becomes minus one, which is not below this threshold. -/
theorem sessions_weighed_greatestSessions :
    ∃ p r, lenientUnderlay.readParams BgpEstablished.reader = .ok p ∧ p.minTotal = -1 ∧
      (runCheck (countingLeaf greatestSessions) lenientUnderlay (Audit.fresh ⟨(), []⟩)).1 = [r] ∧
      r.status = .pass ∧ p.Weighs greatestSessions r := by
  have hnodes : lenientUnderlay.nodes (countingLeaf greatestSessions).intent.inventory
      = ["leaf1"] := by decide +kernel
  have hkept : Keyed.get? (runCheck (countingLeaf greatestSessions) lenientUnderlay
      (Audit.fresh ⟨(), []⟩)).2.store.records (EvidenceKind.sessions.key "leaf1")
        = some ⟨.telemetry, sessionsPayload greatestSessions⟩ := rfl
  have hreads : Readable .sessions "leaf1" (runCheck (countingLeaf greatestSessions)
      lenientUnderlay (Audit.fresh ⟨(), []⟩)).2.store := readable_iff.mpr (by decide +kernel)
  have hpass : (runCheck (countingLeaf greatestSessions) lenientUnderlay
      (Audit.fresh ⟨(), []⟩)).1.map (·.status) = [.pass] := by decide +kernel
  have hp : lenientUnderlay.readParams BgpEstablished.reader
      = .ok ⟨⟨some "leaf1", none, none, none⟩, -1, false⟩ := rfl
  obtain ⟨-, hresults⟩ := sessions_weighed (countingLeaf greatestSessions) lenientUnderlay
    (Audit.fresh ⟨(), []⟩) rfl hp (informs_of_nodes rfl hnodes (by simpa using hreads))
  rw [hnodes] at hresults
  obtain ⟨r, hr, -, record, found, hrecord, hfound, hweighs⟩ := hresults.exists_of_singleton
  rw [hr] at hpass
  -- the record is the one that the telemetry gave, and it reads as what was reported
  obtain rfl := Option.some.inj (hkept.symm.trans hrecord)
  rw [readAt_sessionsPayload (by decide) (by decide)] at hfound
  obtain rfl := Except.ok.inj hfound
  exact ⟨_, r, hp, rfl, hr, List.head_eq_of_cons_eq hpass, hweighs⟩

/-- A check that demands that there is a session, and that all of them are established. -/
def strictUnderlay : Check :=
  ⟨"underlay", .underlay, .bgpEstablished, .error,
    [("selector", .object [("node", .text "leaf1")])]⟩

/-- The least count that becomes negative, for all sessions and for the established ones. -/
def manySessions : Sessions := ⟨2 ^ 63, 2 ^ 63⟩

/-- **A node may fail with all of its sessions established.** Telemetry reports `2 ^ 63` sessions,
all of them established, where at least one is demanded. -/
theorem fails_manySessions :
    (∃ p, strictUnderlay.readParams BgpEstablished.reader = .ok p ∧ p.Meets manySessions) ∧
      (∃ record, Keyed.get? (runCheck (countingLeaf manySessions) strictUnderlay
          (Audit.fresh ⟨(), []⟩)).2.store.records (EvidenceKind.sessions.key "leaf1")
          = some record ∧
        record.readAt "parsed" Sessions.none Sessions.reader = .ok manySessions) ∧
      (runCheck (countingLeaf manySessions) strictUnderlay (Audit.fresh ⟨(), []⟩)).1.map
        (fun r => (r.name, r.status)) = [("underlay::leaf1", .fail)] := by
  refine ⟨⟨⟨⟨some "leaf1", none, none, none⟩, 1, true⟩, rfl, ?_⟩, ⟨_, rfl, ?_⟩, ?_⟩
  · exact ⟨by decide, rfl⟩
  · exact readAt_sessionsPayload (by decide) (by decide)
  · decide +kernel

end Verdict

end FabricAudit
