import FabricAudit.Proofs.Verdict.Interfaces
import FabricAudit.Proofs.Verdict.Sessions

set_option autoImplicit false

/-! # Verdicts on commands that failed

A command that returns something else than zero may still have printed something, and a verdict on
what it printed is a verdict on nothing. Checks of interfaces and of EVPN routes look at the return
code and fail. Checks of sessions do not: they go by the lines of the table, whatever the return
code of the command that gave it, so a node passes on what a failed command has printed
(`verdicts_of_returnCode`, `passes_failedSummary`).
-/

namespace FabricAudit

/-- The record of a command that failed does not count as collected. -/
theorem Record.not_succeeded_of_rc {data : Document} {rc : Int}
    (hget : data.get? "rc" = some (.int rc)) (hrc : rc ≠ 0) :
    ¬ (Record.mk .cli data).Succeeded := by
  rintro (hsource | ⟨-, hzero⟩)
  · cases hsource
  · rw [Record.rc?, hget, Option.bind_some, Document.word?] at hzero
    split at hzero
    · exact hrc (Option.some.inj hzero)
    · cases hzero

theorem Record.not_succeeded_interfacesData {reply : Reply} (h : reply.rc ≠ 0) :
    ¬ (Record.mk .cli (Evidence.interfacesData reply)).Succeeded :=
  not_succeeded_of_rc (Keyed.get?_ofList_of_mem (by simp) (by simp)) h

theorem Record.not_succeeded_rawData {reply : Reply} (h : reply.rc ≠ 0) :
    ¬ (Record.mk .cli (Evidence.rawData reply)).Succeeded :=
  not_succeeded_of_rc (Keyed.get?_ofList_of_mem (by simp) (by simp)) h

namespace Verdict

/-! ## Checks that look at the return code -/

section

variable {σ : Type} {s : Subject σ} {c : Check} {st : Audit.State σ} {r : Result} {node : String}

/-- A node whose interfaces could not be collected fails. -/
theorem interfacesUp_fails {reply : Reply} (hkind : c.kind = .interfacesUp)
    (hr : r ∈ (runCheck s c st).1) (hname : r.name = c.name ++ "::" ++ node)
    (htold : (runCheck s c st).2.store.Told .interfaces node (Evidence.interfacesData reply))
    (hrc : reply.rc ≠ 0) : r.status = .fail := by
  have hcheck : ofCheck s c = interfacesUp s c := by rw [ofCheck, hkind]
  obtain ⟨p, st₁, st', hp, hrest⟩ := exists_of_mem hcheck hr hname
  obtain ⟨rules, _, hrules, -⟩ := Audit.bind_eq_ok_iff.mp hrest
  have hp : c.readParams InterfacesUp.reader = .ok p :=
    Except.mapError_eq_ok_iff.mp (congrArg Prod.fst hp)
  have hrules : InterfaceRules.ofParams p = .ok rules := congrArg Prod.fst hrules
  obtain ⟨record, entries, hkept, -, rfl⟩ :=
    (interfacesUp_judgesBy s hkind hp hrules).of_mem hr hname
  obtain rfl : record = ⟨.cli, _⟩ := Option.some.inj (hkept.symm.trans htold)
  refine (Check.outcome_status_eq_fail ..).mpr ?_
  have hfailed := Record.not_succeeded_interfacesData hrc
  rw [Record.succeeded_iff] at hfailed
  simp [hfailed]

/-- A node whose EVPN routes could not be listed fails. -/
theorem evpnRoutesPresent_fails {reply : Reply} (hkind : c.kind = .evpnRoutesPresent)
    (hr : r ∈ (runCheck s c st).1) (hname : r.name = c.name ++ "::" ++ node)
    (htold : (runCheck s c st).2.store.Told .evpnRoutes node (Evidence.rawData reply))
    (hrc : reply.rc ≠ 0) : r.status = .fail := by
  have hcheck : ofCheck s c = evpnRoutesPresent s c := by rw [ofCheck, hkind]
  obtain ⟨p, hp⟩ := exists_params_of_mem hcheck hr hname
  obtain ⟨record, _, hkept, -, rfl⟩ := (evpnRoutesPresent_judgesBy s hkind hp).of_mem hr hname
  obtain rfl : record = ⟨.cli, _⟩ := Option.some.inj (hkept.symm.trans htold)
  refine (Check.outcome_status_eq_fail ..).mpr ?_
  have hfailed := Record.not_succeeded_rawData hrc
  rw [Record.succeeded_iff] at hfailed
  simp [hfailed]

end

/-! ## All of them -/

/-- **What a return code does to a verdict.**

Take any result that a check has for a node, and a record of the node that the command line gave.
If the check is one of interfaces or of EVPN routes and the command did not return zero, the node
fails. If it is one of BGP or of EVPN sessions, the return code does not matter: the node passes
exactly if the lines of the table say so, as if the command had succeeded. -/
theorem verdicts_of_returnCode {σ : Type} (s : Subject σ) (c : Check) (st : Audit.State σ)
    {r : Result} {node : String} (hr : r ∈ (runCheck s c st).1)
    (hname : r.name = c.name ++ "::" ++ node) :
    (c.kind = .interfacesUp → ∀ reply : Reply,
      (runCheck s c st).2.store.Told .interfaces node (Evidence.interfacesData reply) →
      reply.rc ≠ 0 → r.status = .fail) ∧
    (c.kind = .evpnRoutesPresent → ∀ reply : Reply,
      (runCheck s c st).2.store.Told .evpnRoutes node (Evidence.rawData reply) →
      reply.rc ≠ 0 → r.status = .fail) ∧
    (c.kind = .bgpEstablished → ∀ reply : Reply,
      (runCheck s c st).2.store.Told .sessions node (Evidence.sessionsData reply) →
      (Text.linesChars reply.stdout.toList).length < 2 ^ 63 →
      ∃ p, c.readParams BgpEstablished.reader = .ok p ∧ p.Judges reply.stdout r) ∧
    (c.kind = .evpnSessionsUp → ∀ bgp evpn : Reply,
      (runCheck s c st).2.store.Told .evpnSummary node (Evidence.evpnData bgp evpn) →
      (Text.linesChars bgp.stdout.toList).length < 2 ^ 63 →
      EvpnSessions.Judges bgp.stdout r) := by
  refine ⟨fun hkind reply htold hrc => interfacesUp_fails hkind hr hname htold hrc,
    fun hkind reply htold hrc => evpnRoutesPresent_fails hkind hr hname htold hrc,
    fun hkind reply htold hshort => ?_, fun hkind bgp evpn htold hshort => ?_⟩
  -- a result for a node can only be there if the parameters have been read
  · have hcheck : ofCheck s c = bgpEstablished s c := by rw [ofCheck, hkind]
    obtain ⟨p, hp⟩ := exists_params_of_mem hcheck hr hname
    have hverdict := (bgpEstablished_judgesBy s hkind hp).of_mem hr hname
    exact ⟨p, hp, judges_of_isVerdict hverdict htold hshort⟩
  · have hcheck : ofCheck s c = evpnSessionsUp s c := by rw [ofCheck, hkind]
    obtain ⟨p, hp⟩ := exists_params_of_mem hcheck hr hname
    have hverdict := (evpnSessionsUp_judgesBy s hkind hp).of_mem hr hname
    exact evpn_judges_of_isVerdict hverdict htold hshort

def allInterfaces : Check :=
  ⟨"interfaces", .underlay, .interfacesUp, .error,
    [("selector", .object [("node", .text "leaf1")])]⟩

/-- A table of BGP sessions that was printed by a command that failed. -/
def failedSummary : Reply := ⟨1, "  10.0.0.1 4 65000 Established\n", "% timeout"⟩

def failedInterfaces : Reply := ⟨1, "Et1 up up uplink\n", "% timeout"⟩

/-- A switch whose commands time out. -/
def failingFabric : Subject Unit :=
  scriptedLeaf [("show bgp summary", failedSummary), ("show bgp evpn summary", ⟨0, "", ""⟩),
    ("show interfaces description", failedInterfaces)]

/-- What the failed command has printed is what the store has of the BGP sessions of this switch. -/
theorem told_failedSummary :
    (runCheck failingFabric underlay (Audit.fresh ⟨(), []⟩)).2.store.Told .sessions "leaf1"
      (Evidence.sessionsData failedSummary) :=
  told_of_fallback rfl (scriptedLeaf_declines _) rfl (fun _ => rfl)
    (readable_iff.mpr (by decide +kernel))

/-- Its interfaces fail the check, while its sessions are judged by the lines of the table. -/
theorem verdicts_of_returnCode_failingFabric :
    failedInterfaces.rc ≠ 0 ∧ failedSummary.rc ≠ 0 ∧
      (∃ r, (runCheck failingFabric allInterfaces (Audit.fresh ⟨(), []⟩)).1 = [r] ∧
        r.status = .fail) ∧
      ∃ p r, (runCheck failingFabric underlay (Audit.fresh ⟨(), []⟩)).1 = [r] ∧
        underlay.readParams BgpEstablished.reader = .ok p ∧ p.Judges failedSummary.stdout r := by
  refine ⟨by decide, by decide, ?_, ?_⟩
  · have hnames : (runCheck failingFabric allInterfaces (Audit.fresh ⟨(), []⟩)).1.map (·.name)
        = [allInterfaces.name ++ "::" ++ "leaf1"] := by decide +kernel
    have htold : (runCheck failingFabric allInterfaces (Audit.fresh ⟨(), []⟩)).2.store.Told
        .interfaces "leaf1" (Evidence.interfacesData failedInterfaces) :=
      told_of_fallback rfl (scriptedLeaf_declines _) rfl (fun _ => rfl)
        (readable_iff.mpr (by decide +kernel))
    obtain ⟨r, hr, hname⟩ := List.map_eq_singleton_iff.mp hnames
    obtain ⟨hfails, -⟩ := verdicts_of_returnCode failingFabric allInterfaces
      (Audit.fresh ⟨(), []⟩) (by rw [hr]; exact List.mem_singleton_self r) hname
    exact ⟨r, hr, hfails rfl failedInterfaces htold (by decide)⟩
  · have hnames : (runCheck failingFabric underlay (Audit.fresh ⟨(), []⟩)).1.map (·.name)
        = [underlay.name ++ "::" ++ "leaf1"] := by decide +kernel
    obtain ⟨r, hr, hname⟩ := List.map_eq_singleton_iff.mp hnames
    obtain ⟨-, -, hbgp, -⟩ := verdicts_of_returnCode failingFabric underlay
      (Audit.fresh ⟨(), []⟩) (by rw [hr]; exact List.mem_singleton_self r) hname
    obtain ⟨p, hp, hjudges⟩ := hbgp rfl failedSummary told_failedSummary (by decide +kernel)
    exact ⟨p, r, hr, hp, hjudges⟩

/-- **A failed command passes.** The command that lists the BGP sessions of the switch times out,
and what it has printed until then is enough for the switch to pass both checks of sessions. -/
theorem passes_failedSummary :
    failedSummary.rc ≠ 0 ∧
      (runCheck failingFabric underlay (Audit.fresh ⟨(), []⟩)).2.store.Told .sessions "leaf1"
        (Evidence.sessionsData failedSummary) ∧
      (runCheck failingFabric underlay (Audit.fresh ⟨(), []⟩)).1.map (fun r => (r.name, r.status))
        = [("underlay::leaf1", .pass)] ∧
      (runCheck failingFabric overlay (Audit.fresh ⟨(), []⟩)).2.store.Told .evpnSummary "leaf1"
        (Evidence.evpnData failedSummary ⟨0, "", ""⟩) ∧
      (runCheck failingFabric overlay (Audit.fresh ⟨(), []⟩)).1.map (fun r => (r.name, r.status))
        = [("overlay::leaf1", .pass)] := by
  refine ⟨by decide, told_failedSummary, by decide +kernel, ?_, by decide +kernel⟩
  exact told_of_fallback rfl (scriptedLeaf_declines _) rfl (fun _ => rfl)
    (readable_iff.mpr (by decide +kernel))

end Verdict

end FabricAudit
