import FabricAudit.Proofs.Text.Search
import FabricAudit.Proofs.Verdict.Complete

set_option autoImplicit false

/-! # How results are worded

Every message that a check of a known kind can give contains one of a few phrases
(`Verdict.phrases`, `runCheck_isWorded`), whatever names, addresses and counts it speaks of. None of
them occurs in what is said of a check whose kind is not known, so what a check of a known kind says
is never that (`message_ne_unsupported`).
-/

namespace FabricAudit.Verdict

open Audit (Gives gives_pure gives_bind gives_mapM)
open Text (contains contains_self contains_append_left contains_append_right)

variable {σ : Type}

/-! ## Phrases -/

/-- Phrases, one of which occurs in every message of a check of a known kind. -/
def phrases : List String := [
  " required line(s) ",
  "interface collection failed", "no interfaces selected", " selected interfaces up",
  "established ", "EVPN sessions established ",
  "EVPN routes present", "show bgp evpn failed", "no EVPN routes matching ",
  " not present on ", "ping ",
  " not learned on ", " present in neighbor table of ",
  "unresolved paths: ", " values distinct", " paths share ",
  "Check crashed: "]

/-- A result whose message contains one of the phrases. -/
def IsWorded (r : Result) : Prop := ∃ phrase ∈ phrases, contains r.message phrase = true

/-- The name of a known kind is one of the words for kinds. -/
theorem name_mem_words {kind : CheckKind} (h : kind.isSupported) :
    kind.name ∈ CheckKind.words.map (·.1) := by
  cases kind with
  | unsupported name => cases h
  | _ => decide

/-- What is said of a kind that is not known contains none of the phrases, were the kind one of
those that are known. -/
theorem not_contains_phrase : ∀ word ∈ CheckKind.words.map (·.1), ∀ phrase ∈ phrases,
    contains ("Unsupported check kind: " ++ word) phrase = false := by
  decide +kernel

/-- **No result of a known kind says of a known kind that it is not.** -/
theorem IsWorded.message_ne_unsupported {r : Result} (h : IsWorded r) {kind : CheckKind}
    (hkind : kind.isSupported) : r.message ≠ "Unsupported check kind: " ++ kind.name := by
  intro heq
  obtain ⟨phrase, hphrase, hcontains⟩ := h
  rw [heq, not_contains_phrase _ (name_mem_words hkind) phrase hphrase] at hcontains
  cases hcontains

/-! ## Results of the kinds -/

@[simp] theorem outcome_message (c : Check) (name : String) (ok : Bool) (message : String)
    (evidence : Document) : (c.outcome name ok message evidence).message = message := by
  cases ok <;> rfl

theorem configResult_isWorded (c : Check) (required : List String) (node text : String) :
    IsWorded (configResult c required node text) := by
  refine ⟨" required line(s) ", by decide, ?_⟩
  have hpresent : contains " required line(s) present" " required line(s) " = true := by
    decide +kernel
  have hmissing : contains " required line(s) missing" " required line(s) " = true := by
    decide +kernel
  rw [configResult]
  split
  · rw [outcome_message]
    exact contains_append_right hpresent
  · rw [Result.withRemediation, outcome_message]
    exact contains_append_right hmissing

theorem interfacesResult_isWorded (c : Check) (rules : InterfaceRules) (node : String)
    (record : Record) (entries : List Interface) :
    IsWorded (interfacesResult c rules node record entries) := by
  rw [IsWorded, interfacesResult, outcome_message]
  split_ifs
  · refine ⟨"interface collection failed", by decide, ?_⟩
    exact contains_append_left (contains_append_left (by decide +kernel))
  · exact ⟨"no interfaces selected", by decide, contains_self _⟩
  · exact ⟨" selected interfaces up", by decide, contains_append_right (contains_self _)⟩

theorem sessionsResult_isWorded (c : Check) (p : BgpEstablished) (node : String) (source : Source)
    (found : Sessions) : IsWorded (sessionsResult c p node source found) := by
  refine ⟨"established ", by decide, ?_⟩
  rw [sessionsResult, outcome_message]
  exact contains_append_left (contains_append_left (contains_append_left (contains_self _)))

theorem evpnResult_isWorded (c : Check) (node : String) (record : Record) (found : EvpnSummary) :
    IsWorded (evpnResult c node record found) := by
  refine ⟨"EVPN sessions established ", by decide, ?_⟩
  rw [evpnResult, outcome_message]
  exact contains_append_left (contains_append_left (contains_append_left (contains_self _)))

theorem routesResult_isWorded (c : Check) (p : EvpnRoutes) (node : String) (record : Record) :
    IsWorded (routesResult c p node record) := by
  rw [IsWorded, routesResult, outcome_message]
  split_ifs
  · exact ⟨"EVPN routes present", by decide, contains_self _⟩
  · refine ⟨"show bgp evpn failed", by decide, ?_⟩
    exact contains_append_left (contains_append_left (by decide +kernel))
  · refine ⟨"no EVPN routes matching ", by decide, ?_⟩
    exact contains_append_left (contains_append_left (contains_append_left (contains_self _)))

theorem absentResult_isWorded (c : Check) (source interface target : String) :
    IsWorded (absentResult c source interface target) :=
  ⟨" not present on ", by decide, contains_append_left (contains_append_right (contains_self _))⟩

theorem pingResult_isWorded (c : Check) (source target : String) (r : Reply) :
    IsWorded (pingResult c source target r) := by
  refine ⟨"ping ", by decide, ?_⟩
  rw [pingResult, outcome_message]
  split_ifs
  · exact contains_append_left (contains_append_left (contains_self _))
  · exact contains_append_left (contains_append_left (contains_append_left
      (contains_append_left (contains_self _))))

theorem neighborResult_isWorded (c : Check) (probe : NeighborProbe) (r : Reply) :
    IsWorded (neighborResult c probe r) := by
  -- the address comes first and may be any text, so it is not what the message is told by
  rw [IsWorded, neighborResult, outcome_message]
  have hlearned : contains (probe.target ++ " not learned on " ++ probe.interface)
      " not learned on " = true := contains_append_left (contains_append_right (contains_self _))
  split_ifs
  · refine ⟨" not learned on ", by decide, ?_⟩
    exact contains_append_left (contains_append_left (contains_append_left hlearned))
  · exact ⟨" not learned on ", by decide, hlearned⟩
  · refine ⟨" present in neighbor table of ", by decide, ?_⟩
    exact contains_append_left (contains_append_right (contains_self _))

theorem distinctResult_isWorded (c : Check) (raw : Document) (paths : List String) :
    IsWorded (distinctResult c raw paths) := by
  rw [IsWorded, distinctResult, outcome_message]
  split_ifs
  · exact ⟨"unresolved paths: ", by decide, contains_append_left (contains_self _)⟩
  · exact ⟨" values distinct", by decide, contains_append_right (contains_self _)⟩
  · refine ⟨" paths share ", by decide, ?_⟩
    exact contains_append_left (contains_append_left (contains_append_right (contains_self _)))

theorem crashed_isWorded (c : Check) (reason : String) : IsWorded (Result.crashed c reason) :=
  ⟨"Check crashed: ", by decide, contains_append_left (contains_self _)⟩

/-! ## Checks of the kinds -/

/-- The results of one host are all worded, whether its addresses are pinged or not. -/
theorem pingProbe_isWorded (s : Subject σ) (c : Check) (interface : Option String)
    (probe : PingProbe) : Gives (fun rs => ∀ r ∈ rs, IsWorded r) (pingProbe s c interface probe) := by
  have hping : Gives (fun rs => ∀ r ∈ rs, IsWorded r) (probe.targets.mapM fun target => do
      let reply ← Audit.ofWork (Host.ping s.lab probe.source target interface)
      pure (pingResult c probe.source target reply) : Audit σ (List Result)) :=
    gives_mapM (fun _ => gives_bind fun _ => gives_pure (pingResult_isWorded _ _ _ _)) _
  cases interface with
  | none => exact hping
  | some i =>
      refine gives_bind fun found => ?_
      by_cases hlacks : lacks found i = true
      · rw [if_pos hlacks]
        exact gives_pure (List.forall_mem_map.mpr fun _ _ => absentResult_isWorded _ _ _ _)
      · rw [if_neg hlacks]
        exact hping

/-- **All results of a check of a known kind are worded.** -/
theorem ofCheck_isWorded (s : Subject σ) {c : Check} (h : c.kind.isSupported) :
    Gives (fun rs => ∀ r ∈ rs, IsWorded r) (ofCheck s c) := by
  rw [ofCheck]
  cases hkind : c.kind with
  | configContains =>
      exact gives_bind fun p => gives_mapM (fun _ => gives_bind fun _ =>
        gives_pure (configResult_isWorded _ _ _ _)) _
  | interfacesUp =>
      exact gives_bind fun p => gives_bind fun rules => gives_mapM (fun _ => gives_bind fun _ =>
        gives_bind fun _ => gives_pure (interfacesResult_isWorded _ _ _ _ _)) _
  | bgpEstablished =>
      exact gives_bind fun p => gives_mapM (fun _ => gives_bind fun _ => gives_bind fun _ =>
        gives_pure (sessionsResult_isWorded _ _ _ _ _)) _
  | evpnRoutesPresent =>
      exact gives_bind fun p => gives_mapM (fun _ => gives_bind fun _ =>
        gives_pure (routesResult_isWorded _ _ _ _)) _
  | evpnSessionsUp =>
      exact gives_bind fun p => gives_mapM (fun _ => gives_bind fun _ => gives_bind fun _ =>
        gives_pure (evpnResult_isWorded _ _ _ _)) _
  | pingTargets =>
      have hprobes : ∀ p : PingTargets, Gives (fun rss => ∀ rs ∈ rss, ∀ r ∈ rs, IsWorded r)
          (p.probes.mapM (pingProbe s c (through p))) :=
        fun p => gives_mapM (pingProbe_isWorded s c (through p)) p.probes
      refine gives_bind fun p => (hprobes p).bind_of fun rss hrss => gives_pure ?_
      intro r hr
      obtain ⟨rs, hrs, hr⟩ := List.mem_flatten.mp hr
      exact hrss rs hrs r hr
  | neighborAbsent =>
      exact gives_bind fun p => gives_mapM (fun _ => gives_bind fun _ => gives_bind fun _ =>
        gives_pure (neighborResult_isWorded _ _ _)) _
  | intentDistinct =>
      refine gives_bind fun p => gives_pure fun r hr => ?_
      rw [List.mem_singleton.mp hr]
      exact distinctResult_isWorded _ _ _
  | unsupported name =>
      rw [hkind] at h
      cases h

/-- So are those of a check that crashes. -/
theorem runCheck_isWorded (s : Subject σ) {c : Check} (h : c.kind.isSupported)
    {st : Audit.State σ} {r : Result} (hr : r ∈ (runCheck s c st).1) : IsWorded r := by
  rw [runCheck_eq] at hr
  rcases hrun : ofCheck s c st with ⟨f | rs, st'⟩ <;> rw [hrun] at hr
  · rw [List.mem_singleton.mp hr]
    exact crashed_isWorded c f.message
  · exact ofCheck_isWorded s h hrun r hr

end FabricAudit.Verdict
