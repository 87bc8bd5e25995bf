import FabricAudit.Proofs.Evidence.Sessions
import FabricAudit.Proofs.Verdict.Switches
import FabricAudit.Proofs.Verdict.Wording

set_option autoImplicit false

/-! # Verdicts on sessions

Checks of sessions compare two counts, which were taken from a table, kept in a record as a
document and read from it again. Of a record of the command line they speak of the lines of that
table all the same: a node passes exactly if enough of its lines about neighbours are there and say
that their session is established (`BgpEstablished.Judges`, `EvpnSessions.Judges`), and the message
has both counts. `sessions_judges` says so of whole runs. Only tables of `2 ^ 63` lines and more are
left out, whose counts would wrap around.
-/

namespace FabricAudit

/-! ## What is to be said of a table -/

/-- What is to be said of the BGP sessions of a table. -/
structure BgpEstablished.Judges (p : BgpEstablished) (text : String) (r : Result) : Prop where
  passes_iff : r.status = .pass ↔
    p.minTotal ≤ (neighborLines text).length ∧
      if p.requireAll then ∀ line ∈ neighborLines text, SaysEstablished line
      else p.minTotal ≤ (establishedLines text).length
  message_eq : r.message = "established " ++ Decimal.ofNat (establishedLines text).length ++ "/"
    ++ Decimal.ofNat (neighborLines text).length
  established :
    Keyed.get? r.evidence "established" = some (.nat (establishedLines text).length)
  total : Keyed.get? r.evidence "total" = some (.nat (neighborLines text).length)

/-- What is to be said of the EVPN sessions of a node with this table of BGP sessions. -/
structure EvpnSessions.Judges (text : String) (r : Result) : Prop where
  passes_iff : r.status = .pass ↔ ∃ line ∈ neighborLines text, SaysEstablished line
  message_eq : r.message = "EVPN sessions established "
    ++ Decimal.ofNat (establishedLines text).length ++ "/"
    ++ Decimal.ofNat (neighborLines text).length
  summary : Keyed.get? r.evidence "summary" = some (.ofPairs
    [("neighbors", .nat (neighborLines text).length),
      ("established", .nat (establishedLines text).length)])

namespace Verdict

/-! ## Results -/

/-- A count below `2 ^ 63` does not wrap around. -/
theorem wrapped_of_lt {n : Nat} (h : n < 2 ^ 63) : wrapped n = n := by
  have hlimit : ((Nat.pow 2 64 : Nat) : Int) = 2 ^ 64 := Int.natCast_pow 2 64
  refine Int.bmod_eq_of_le_mul_two ?_ ?_
  · rw [hlimit]
    omega
  · rw [hlimit]
    omega

/-- The verdict on BGP sessions, line by line. -/
theorem judges_sessionsResult (c : Check) (p : BgpEstablished) (node : String) (source : Source)
    {text : String} (h : (Text.linesChars text.toList).length < 2 ^ 63) :
    p.Judges text (sessionsResult c p node source (Sessions.ofTable text)) := by
  have htotal : wrapped (neighborLines text).length = (neighborLines text).length :=
    wrapped_of_lt ((length_neighborLines_le text).trans_lt h)
  have hestablished : wrapped (establishedLines text).length = (establishedLines text).length :=
    wrapped_of_lt ((length_establishedLines_le_lines text).trans_lt h)
  rw [sessionsResult, Sessions.ofTable_eq]
  refine ⟨?_, outcome_message _ _ _ _ _, ?_, ?_⟩
  · rw [Check.outcome_status_eq_pass, BgpEstablished.isSatisfied, Bool.and_eq_true,
      decide_eq_true_iff, htotal, hestablished]
    refine and_congr_right fun _ => ?_
    split
    · rw [beq_iff_eq, Int.natCast_inj, length_establishedLines_eq_iff]
    · rw [decide_eq_true_iff]
  · exact Check.get?_outcome_evidence _ _ _ _ (by simp) (by simp)
  · exact Check.get?_outcome_evidence _ _ _ _ (by simp) (by simp)

/-- The verdict on EVPN sessions, line by line. A session that is established is one of the
sessions, so that there are any need not be asked. -/
theorem judges_evpnResult (c : Check) (node : String) (record : Record) (text : String) :
    EvpnSessions.Judges text (evpnResult c node record (EvpnSummary.ofTable text)) := by
  rw [evpnResult, EvpnSummary.ofTable_eq]
  refine ⟨?_, outcome_message _ _ _ _ _, ?_⟩
  · rw [Check.outcome_status_eq_pass, Bool.and_eq_true, decide_eq_true_iff, decide_eq_true_iff,
      ← length_establishedLines_pos_iff]
    exact ⟨fun h => h.2, fun h => ⟨h.trans_le (length_establishedLines_le text), h⟩⟩
  · rw [EvpnSummary.toDocument]
    exact Check.get?_outcome_evidence _ _ _ _ (by simp) (by simp)

/-! ## Runs -/

/-- The record of a table that is not too long reads. -/
theorem readable_of_sessionsData {store : Store} {node : String} {reply : Reply}
    (hkept : store.Told .sessions node (Evidence.sessionsData reply))
    (h : (Text.linesChars reply.stdout.toList).length < 2 ^ 63) :
    Readable .sessions node store := by
  refine ⟨_, hkept, fun f hf => ?_⟩
  rw [EvidenceKind.readPart, Record.readAt_sessionsData (by omega)] at hf
  cases hf

theorem readable_of_evpnData {store : Store} {node : String} {bgp evpn : Reply}
    (hkept : store.Told .evpnSummary node (Evidence.evpnData bgp evpn))
    (h : (Text.linesChars bgp.stdout.toList).length < 2 ^ 63) :
    Readable .evpnSummary node store := by
  refine ⟨_, hkept, fun f hf => ?_⟩
  rw [EvidenceKind.readPart, Record.readAt_evpnData (by omega)] at hf
  cases hf

/-- A verdict on a record of BGP sessions is one on the lines of the table that it was made of. -/
theorem judges_of_isVerdict {c : Check} {p : BgpEstablished} {store : Store} {node : String}
    {r : Result} {reply : Reply}
    (h : IsVerdict .sessions (fun r => r.readAt "parsed" Sessions.none Sessions.reader)
      (fun node record found => sessionsResult c p node record.source found) store node r)
    (htold : store.Told .sessions node (Evidence.sessionsData reply))
    (hshort : (Text.linesChars reply.stdout.toList).length < 2 ^ 63) : p.Judges reply.stdout r := by
  obtain ⟨record, found, hkept, hread, rfl⟩ := h
  obtain rfl : record = ⟨.cli, _⟩ := Option.some.inj (hkept.symm.trans htold)
  obtain rfl : Sessions.ofTable reply.stdout = found :=
    Except.ok.inj ((Record.readAt_sessionsData (by omega)).symm.trans hread)
  exact judges_sessionsResult c p node _ hshort

theorem evpn_judges_of_isVerdict {c : Check} {store : Store} {node : String} {r : Result}
    {bgp evpn : Reply}
    (h : IsVerdict .evpnSummary
      (fun r => r.readAt "summary" EvpnSummary.none EvpnSummary.reader) (evpnResult c) store node
      r)
    (htold : store.Told .evpnSummary node (Evidence.evpnData bgp evpn))
    (hshort : (Text.linesChars bgp.stdout.toList).length < 2 ^ 63) :
    EvpnSessions.Judges bgp.stdout r := by
  obtain ⟨record, found, hkept, hread, rfl⟩ := h
  obtain rfl : record = ⟨.cli, _⟩ := Option.some.inj (hkept.symm.trans htold)
  obtain rfl : EvpnSummary.ofTable bgp.stdout = found :=
    Except.ok.inj ((Record.readAt_evpnData (by omega)).symm.trans hread)
  exact judges_evpnResult c node _ bgp.stdout

/-- **What checks of sessions say of raw tables.**

A line is about a neighbour if, apart from blanks around it, it begins with digits and a dot. Of a
table with fewer than `2 ^ 63` lines the record always reads. Take a check of BGP or of EVPN
sessions whose parameters read, and let it run in any state. If it leaves evidence that reads on
every node that it selects, it has one result for each of them, in order, under the node's name.
Where the evidence is a table that the command line gave, a node passes a check of BGP sessions
exactly if it has enough lines about neighbours and, as the check demands it, all of them or enough
of them say that their session is established; it passes a check of EVPN sessions exactly if one of
them says so. The message has both numbers of lines. -/
theorem sessions_judges {σ : Type} (s : Subject σ) (c : Check) (st : Audit.State σ)
    (hall : Informs (runCheck s c st).2.store c s.intent.inventory) :
    (∀ line, isNeighborLine line = true ↔
      ∃ digits rest, Text.trimChars line = digits ++ '.' :: rest ∧ digits ≠ [] ∧
        ∀ d ∈ digits, '0' ≤ d ∧ d ≤ '9') ∧
    (∀ text, (establishedLines text).length ≤ (neighborLines text).length) ∧
    (∀ (store : Store) (node : String) (bgp evpn : Reply),
      (Text.linesChars bgp.stdout.toList).length < 2 ^ 63 →
      (store.Told .sessions node (Evidence.sessionsData bgp) → Readable .sessions node store) ∧
      (store.Told .evpnSummary node (Evidence.evpnData bgp evpn) →
        Readable .evpnSummary node store)) ∧
    (c.kind = .bgpEstablished → ∀ p, c.readParams BgpEstablished.reader = .ok p →
      List.Forall₂
        (fun node r => r.name = c.name ++ "::" ++ node ∧ ∀ reply,
          (runCheck s c st).2.store.Told .sessions node (Evidence.sessionsData reply) →
          (Text.linesChars reply.stdout.toList).length < 2 ^ 63 → p.Judges reply.stdout r)
        (c.nodes s.intent.inventory) (runCheck s c st).1) ∧
    (c.kind = .evpnSessionsUp → ∀ p, c.readParams EvpnSessions.reader = .ok p →
      List.Forall₂
        (fun node r => r.name = c.name ++ "::" ++ node ∧ ∀ bgp evpn,
          (runCheck s c st).2.store.Told .evpnSummary node (Evidence.evpnData bgp evpn) →
          (Text.linesChars bgp.stdout.toList).length < 2 ^ 63 → EvpnSessions.Judges bgp.stdout r)
        (c.nodes s.intent.inventory) (runCheck s c st).1) := by
  refine ⟨fun line => isNeighborLine_iff, length_establishedLines_le,
    fun store node bgp evpn h => ?_, fun hkind p hp => ?_, fun hkind p hp => ?_⟩
  · exact ⟨fun htold => readable_of_sessionsData htold h, fun htold => readable_of_evpnData htold h⟩
  · have hjudges := bgpEstablished_judgesBy s hkind hp
    refine (hjudges.forall₂ hall).imp fun node r hr => ⟨hr.name_eq hjudges.named, ?_⟩
    exact fun reply htold hshort => judges_of_isVerdict hr htold hshort
  · have hjudges := evpnSessionsUp_judgesBy s hkind hp
    refine (hjudges.forall₂ hall).imp fun node r hr => ⟨hr.name_eq hjudges.named, ?_⟩
    exact fun bgp evpn htold hshort => evpn_judges_of_isVerdict hr htold hshort

def underlay : Check :=
  ⟨"underlay", .underlay, .bgpEstablished, .error,
    [("min_total", .text " 1 "), ("require_all", .bool false),
      ("selector", .object [("node", .text "leaf1")])]⟩

def overlay : Check :=
  ⟨"overlay", .controlPlane, .evpnSessionsUp, .error,
    [("selector", .object [("node", .text "leaf1")])]⟩

/-- A table with a heading, two neighbours and a line with digits but no dot after them. -/
def sessionTable : Reply :=
  ⟨0, "Neighbor AS State\n\t10.0.0.1 65001 Established\r\n 10.0.0.2 65002 Active\n10 Established",
    ""⟩

def sessionFabric : Subject Unit :=
  scriptedLeaf [("show bgp summary", sessionTable), ("show bgp evpn summary", ⟨0, "", ""⟩)]

/-- One of its two sessions is established, which is enough for both checks. -/
theorem sessions_judges_sessionTable :
    (establishedLines sessionTable.stdout).length = 1 ∧
      (neighborLines sessionTable.stdout).length = 2 ∧
      (∃ p r, underlay.readParams BgpEstablished.reader = .ok p ∧
        (runCheck sessionFabric underlay (Audit.fresh ⟨(), []⟩)).1 = [r] ∧ r.status = .pass ∧
        p.Judges sessionTable.stdout r) ∧
      ∃ r, (runCheck sessionFabric overlay (Audit.fresh ⟨(), []⟩)).1 = [r] ∧ r.status = .pass ∧
        EvpnSessions.Judges sessionTable.stdout r := by
  have hshort : (Text.linesChars sessionTable.stdout.toList).length < 2 ^ 63 := by decide +kernel
  refine ⟨by decide +kernel, by decide +kernel, ?_, ?_⟩
  · have hnodes : underlay.nodes sessionFabric.intent.inventory = ["leaf1"] := by decide +kernel
    have hreads : Readable .sessions "leaf1"
        (runCheck sessionFabric underlay (Audit.fresh ⟨(), []⟩)).2.store :=
      readable_iff.mpr (by decide +kernel)
    have htold : (runCheck sessionFabric underlay (Audit.fresh ⟨(), []⟩)).2.store.Told .sessions
        "leaf1" (Evidence.sessionsData sessionTable) :=
      told_of_fallback rfl (scriptedLeaf_declines _) rfl (fun _ => rfl) hreads
    have hpass : (runCheck sessionFabric underlay (Audit.fresh ⟨(), []⟩)).1.map (·.status)
        = [.pass] := by decide +kernel
    obtain ⟨-, -, -, hbgp, -⟩ := sessions_judges sessionFabric underlay (Audit.fresh ⟨(), []⟩)
      (informs_of_nodes rfl hnodes (by simpa using hreads))
    have hp : underlay.readParams BgpEstablished.reader
        = .ok ⟨⟨some "leaf1", none, none, none⟩, 1, false⟩ := rfl
    have hresults := hbgp rfl _ hp
    rw [hnodes] at hresults
    obtain ⟨r, hr, -, hjudges⟩ := hresults.exists_of_singleton
    rw [hr] at hpass
    exact ⟨_, r, hp, hr, List.head_eq_of_cons_eq hpass, hjudges _ htold hshort⟩
  · have hnodes : overlay.nodes sessionFabric.intent.inventory = ["leaf1"] := by decide +kernel
    have hreads : Readable .evpnSummary "leaf1"
        (runCheck sessionFabric overlay (Audit.fresh ⟨(), []⟩)).2.store :=
      readable_iff.mpr (by decide +kernel)
    have htold : (runCheck sessionFabric overlay (Audit.fresh ⟨(), []⟩)).2.store.Told .evpnSummary
        "leaf1" (Evidence.evpnData sessionTable ⟨0, "", ""⟩) :=
      told_of_fallback rfl (scriptedLeaf_declines _) rfl (fun _ => rfl) hreads
    have hpass : (runCheck sessionFabric overlay (Audit.fresh ⟨(), []⟩)).1.map (·.status)
        = [.pass] := by decide +kernel
    obtain ⟨-, -, -, -, hevpn⟩ := sessions_judges sessionFabric overlay (Audit.fresh ⟨(), []⟩)
      (informs_of_nodes rfl hnodes (by simpa using hreads))
    have hp : overlay.readParams EvpnSessions.reader
        = .ok ⟨⟨some "leaf1", none, none, none⟩⟩ := rfl
    have hresults := hevpn rfl _ hp
    rw [hnodes] at hresults
    obtain ⟨r, hr, -, hjudges⟩ := hresults.exists_of_singleton
    rw [hr] at hpass
    exact ⟨r, hr, List.head_eq_of_cons_eq hpass, hjudges _ _ htold hshort⟩

end Verdict

end FabricAudit
