import FabricAudit.Lab.Scripted
import FabricAudit.Proofs.Drift.Evidence
import FabricAudit.Proofs.Evidence.Commands

set_option autoImplicit false

/-! # What evidence has cost

A record is only kept when all commands of its collector have been answered. In a scripted lab a
node answers all commands or none, so as long as the record is not kept, the node has answered none
of them. Hence whatever a node has answered, the records have been paid for with it: `Store.spent`
is what the records of a store have cost, and `Pays` is the invariant of a step. Since every record
is kept once, this bounds how often a command is answered at all.
-/

namespace FabricAudit

open Audit (Keeps)

/-! ## What records have cost -/

namespace EvidenceKind

def all : List EvidenceKind := [.interfaces, .sessions, .evpnSummary, .runningConfig, .evpnRoutes]

/-- How often a command is among those of all collectors. -/
def uses (command : String) : Nat := (all.map fun kind => kind.commands.count command).sum

end EvidenceKind

namespace Store

/-- How often a node has had to answer a command for the records of a store. -/
def spent (s : Store) (node command : String) : Nat :=
  (EvidenceKind.all.map fun kind =>
    if (Keyed.get? s.records (kind.key node)).isSome then kind.commands.count command else 0).sum

theorem spent_le_uses (s : Store) (node command : String) :
    s.spent node command ≤ EvidenceKind.uses command := by
  refine List.sum_le_sum fun kind _ => ?_
  split
  · exact le_rfl
  · exact Nat.zero_le _

theorem spent_congr {s s' : Store} (h : s'.records = s.records) (node command : String) :
    s'.spent node command = s.spent node command := by
  rw [spent, spent, h]

theorem spent_mono {s s' : Store} (h : s.Grows s') (node command : String) :
    s.spent node command ≤ s'.spent node command := by
  refine List.sum_le_sum fun kind _ => ?_
  split
  · next hkept =>
      obtain ⟨r, hr⟩ := Option.isSome_iff_exists.mp hkept
      rw [h.records hr]
      exact le_rfl
  · exact Nat.zero_le _

/-- A new record costs its node the commands of its collector. -/
theorem spent_keep {s : Store} {kind : EvidenceKind} {node : String} (r : Record)
    (h : Keyed.get? s.records (kind.key node) = none) (command : String) :
    (s.keep (kind.key node) r).spent node command
      = s.spent node command + kind.commands.count command := by
  -- the new record counts for its own kind, and changes nothing for the others
  have hkinds : ∀ kind' : EvidenceKind,
      (if (Keyed.get? (s.keep (kind.key node) r).records (kind'.key node)).isSome then
        kind'.commands.count command else 0)
      = (if (Keyed.get? s.records (kind'.key node)).isSome then
          kind'.commands.count command else 0)
        + if kind' = kind then kind.commands.count command else 0 := by
    intro kind'
    rw [keep_records, Keyed.get?_insert]
    by_cases hkind : kind' = kind
    · subst hkind
      simp [h]
    · have hkey : kind.key node ≠ kind'.key node :=
        fun he => hkind (EvidenceKind.key_inj he).1.symm
      simp [hkey, hkind]
  have hone : (EvidenceKind.all.map fun kind' =>
      if kind' = kind then kind.commands.count command else 0).sum
      = kind.commands.count command := by
    cases kind <;> simp [EvidenceKind.all]
  rw [spent, spent, List.map_congr_left fun kind' _ => hkinds kind', List.sum_map_add, hone]

end Store

/-! ## Answers of a script -/

namespace Script

/-- The calls that a script answers. -/
def answered (script : Script) (calls : List Call) : List Call :=
  calls.filter fun call => (script.answer call).isOk

theorem answered_append (script : Script) (cs ds : List Call) :
    script.answered (cs ++ ds) = script.answered cs ++ script.answered ds :=
  List.filter_append _ _

/-- A fault among the replies is the answer to one of the calls. -/
theorem exists_of_error_mem_replies {script : Script} {files : FileTree} {directory : String}
    {calls : List Call} {u : Unit} {f : Fault}
    (h : .error f ∈ (script.lab files directory).replies calls u) :
    ∃ call ∈ calls, script.answer call = .error f := by
  induction calls generalizing u with
  | nil => cases h
  | cons call calls ih =>
      rcases List.mem_cons.mp h with h | h
      · exact ⟨call, List.mem_cons_self, h.symm⟩
      · obtain ⟨c, hc, hf⟩ := ih h
        exact ⟨c, List.mem_cons_of_mem _ hc, hf⟩

/-- A node that does not answer one call answers none. -/
theorem answered_eq_nil {script : Script} {calls : List Call} {node : String} {f : Fault}
    {call : Call} (hnode : call.node = node) (hf : script.answer call = .error f)
    (hcalls : ∀ c ∈ calls, c.node = node) : script.answered calls = [] := by
  refine List.filter_eq_nil_iff.mpr fun c hc => ?_
  -- an answer is a matter of the node alone
  rcases hbroken : Keyed.get? script.broken node with _ | message
  · rw [answer, hnode, hbroken] at hf
    cases hf
  · rw [answer, hcalls c hc, hbroken]
    exact Bool.false_ne_true

/-- Commands for one node are no answers of another one. -/
theorem count_answered_of_ne (script : Script) {node node' command : String} (h : node' ≠ node)
    (given : List String) :
    (script.answered (given.map (Call.mk .switch node))).count ⟨.switch, node', command⟩ = 0 := by
  refine List.count_eq_zero.mpr fun hmem => ?_
  obtain ⟨c, -, hc⟩ := List.mem_map.mp (List.mem_of_mem_filter hmem)
  cases hc
  exact h rfl

/-- A node answers no command more often than it is given. -/
theorem count_answered_le_count (script : Script) (node command : String) (given : List String) :
    (script.answered (given.map (Call.mk .switch node))).count ⟨.switch, node, command⟩
      ≤ given.count command := by
  have hinj : Function.Injective (Call.mk .switch node) := fun a b h => by cases h; rfl
  rw [← List.count_map_of_injective given _ hinj]
  exact List.filter_sublist.count_le _

variable {script : Script} {files : FileTree} {directory : String} {kind : EvidenceKind}
  {node : String} {w w' : World Unit}

/-- A collector that has succeeded has given all its commands. -/
theorem calls_of_fallback_ok {d : Document}
    (h : kind.fallback (script.lab files directory) node w = (.ok d, w')) :
    w'.calls = w.calls ++ kind.commands.map (Call.mk .switch node) := by
  obtain ⟨given, hgiven, -, hall⟩ := kind.fallback_issues (script.lab files directory) node w
  rw [h] at hgiven hall
  rw [hgiven, hall d rfl]

/-- **A collector that has failed was not answered anything.** One of its commands was refused, and
it was for the same node as all others. -/
theorem answered_of_fallback_error {f : Fault}
    (h : kind.fallback (script.lab files directory) node w = (.error f, w')) :
    ∃ given, w'.calls = w.calls ++ given ∧ script.answered given = [] := by
  obtain ⟨given, hgiven, -, -⟩ := kind.fallback_issues (script.lab files directory) node w
  rw [h] at hgiven
  refine ⟨_, hgiven, ?_⟩
  have hend : Audit.Ending (script.lab files directory) (fun _ _ => True) (fun _ _ => False)
      ⟨w, .empty⟩ (.error f) ⟨w', .empty⟩ := (kind.fallback_ends node).of_eq (Audit.ofWork_of_eq h)
  obtain ⟨calls, hcalls, hrefused⟩ : ∃ calls, w'.calls = w.calls ++ calls ∧
      .error f ∈ (script.lab files directory).replies calls w.state := by
    cases hend with
    | refused h hf => exact ⟨_, h.calls_eq, hf⟩
    | failed _ hcause => exact hcause.elim
  obtain rfl : calls = given.map (Call.mk .switch node) :=
    List.append_cancel_left (hcalls.symm.trans hgiven)
  obtain ⟨call, hcall, hanswer⟩ := exists_of_error_mem_replies hrefused
  have hnodes : ∀ c ∈ given.map (Call.mk .switch node), c.node = node := by
    rintro _ hc
    obtain ⟨command, -, rfl⟩ := List.mem_map.mp hc
    rfl
  exact answered_eq_nil (hnodes call hcall) hanswer hnodes

end Script

/-! ## Steps that pay -/

/-- Between two states evidence was added, and whatever a node has answered, the new records have
been paid for with it. -/
structure Pays (script : Script) (st st' : Audit.State Unit) : Prop where
  grows : st.Grows st'
  calls : ∃ given, st'.world.calls = st.world.calls ++ given ∧ ∀ node command,
    (script.answered given).count ⟨.switch, node, command⟩ + st.store.spent node command
      ≤ st'.store.spent node command

namespace Pays

variable {script : Script}

theorem refl (st : Audit.State Unit) : Pays script st st :=
  ⟨.refl st, [], (List.append_nil _).symm, fun _ _ => (Nat.zero_add _).le⟩

theorem trans {st₁ st₂ st₃ : Audit.State Unit} (h : Pays script st₁ st₂)
    (h' : Pays script st₂ st₃) : Pays script st₁ st₃ := by
  obtain ⟨given, hgiven, hpaid⟩ := h.calls
  obtain ⟨given', hgiven', hpaid'⟩ := h'.calls
  refine ⟨h.grows.trans h'.grows, given ++ given', ?_, fun node command => ?_⟩
  · rw [hgiven', hgiven, List.append_assoc]
  · rw [Script.answered_append, List.count_append]
    have hfirst := hpaid node command
    have hsecond := hpaid' node command
    omega

variable {files : FileTree} {directory : String}

/-- Probing from a host costs no switch anything. -/
theorem shell (host command : String) :
    Keeps (Pays script) (Audit.ofWork ((script.lab files directory).shell host command)) := by
  intro st
  refine ⟨Audit.State.Grows.refl st, [⟨.shell, host, command⟩], rfl, fun node command' => ?_⟩
  have hnone : (script.answered [⟨.shell, host, command⟩]).count ⟨.switch, node, command'⟩ = 0 := by
    refine List.count_eq_zero.mpr fun hmem => ?_
    cases List.mem_singleton.mp (List.mem_of_mem_filter hmem)
  rw [hnone, Nat.zero_add]
  exact le_rfl

/-- Evidence that was added without an answer of the lab has cost nothing. -/
theorem of_answered_eq_nil {st st' : Audit.State Unit} {given : List Call} (hgrows : st.Grows st')
    (hcalls : st'.world.calls = st.world.calls ++ given) (hnone : script.answered given = []) :
    Pays script st st' := by
  refine ⟨hgrows, given, hcalls, fun node command => ?_⟩
  rw [hnone, List.count_nil, Nat.zero_add]
  exact Store.spent_mono hgrows node command

/-- A record that is kept pays for all commands of its collector. -/
theorem of_keep {st : Audit.State Unit} {kind : EvidenceKind} {node : String} {r : Record}
    {s : Store} {w : World Unit} (hrecords : s.records = st.store.records)
    (hkey : Keyed.get? st.store.records (kind.key node) = none)
    (hgrows : st.Grows ⟨w, s.keep (kind.key node) r⟩)
    (hcalls : w.calls = st.world.calls ++ kind.commands.map (Call.mk .switch node)) :
    Pays script st ⟨w, s.keep (kind.key node) r⟩ := by
  refine ⟨hgrows, _, hcalls, fun node' command => ?_⟩
  by_cases hnode : node' = node
  · subst hnode
    have hcount := script.count_answered_le_count node' command kind.commands
    have hspent := Store.spent_congr hrecords node' command
    have hkeep := Store.spent_keep r (hrecords ▸ hkey) command
    show _ ≤ (s.keep (kind.key node') r).spent node' command
    omega
  · rw [script.count_answered_of_ne hnode, Nat.zero_add]
    exact Store.spent_mono hgrows node' command

/-- **A collector** keeps a record of what its node has answered, or else the node has answered
nothing. -/
theorem collect (t : Transport) (kind : EvidenceKind) (node : String) :
    Keeps (Pays script) (kind.collect (script.lab files directory) t node) := by
  intro st
  have hgrows : st.Grows (kind.collect (script.lab files directory) t node st).2 :=
    kind.collect_grows st
  rw [kind.collect_eq_run] at hgrows ⊢
  have hy := (kind.collection (script.lab files directory) node).run_yields t st
  generalize ((kind.collection (script.lab files directory) node).run t st).1 = answer,
    ((kind.collection (script.lab files directory) node).run t st).2 = st' at hy hgrows ⊢
  cases hy with
  | kept => exact .refl st
  | telemetry => exact .of_answered_eq_nil hgrows (List.append_nil _).symm rfl
  | found hkey hs hf => exact .of_keep hs.records_eq hkey hgrows (Script.calls_of_fallback_ok hf)
  | failed _ _ hf =>
      obtain ⟨given, hgiven, hnone⟩ := Script.answered_of_fallback_error hf
      exact .of_answered_eq_nil hgrows hgiven hnone

end Pays

end FabricAudit
