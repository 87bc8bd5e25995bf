import FabricAudit.Proofs.Audit.Ending

set_option autoImplicit false

/-! # The commands of the collectors

Each collector has its commands, which it gives to its node one after the other until one of them
cannot be executed. `Issues` says this of work on a lab, whatever the lab replies: what was given is
a beginning of the commands, and all of them if the work succeeded.
-/

namespace FabricAudit

variable {σ α : Type}

/-- The work gives a switch some first ones of the commands, and all of them if it succeeds. -/
def Work.Issues (node : String) (commands : List String) (w : Work σ α) : Prop :=
  ∀ world, ∃ given, (w world).2.calls = world.calls ++ given.map (Call.mk .switch node) ∧
    given <+: commands ∧ ∀ a, (w world).1 = .ok a → given = commands

namespace Work.Issues

variable {node : String}

theorem pure (a : α) : Work.Issues node [] (pure a : Work σ α) :=
  fun _ => ⟨[], (List.append_nil _).symm, List.prefix_refl _, fun _ _ => rfl⟩

/-- One command after which the work goes on, unless it could not be executed. -/
theorem switch {lab : Lab σ} {command : String} {commands : List String} {f : Reply → Work σ α}
    (hf : ∀ r, Work.Issues node commands (f r)) :
    Work.Issues node (command :: commands) (lab.switch node command >>= f) := by
  intro world
  rcases hrun : lab.switch node command world with ⟨e | r, world'⟩
  all_goals
    have hcalls : world'.calls = world.calls ++ [⟨.switch, node, command⟩] :=
      congrArg (fun run => run.2.calls) hrun.symm
  · rw [Audit.bind_error hrun]
    exact ⟨[command], hcalls, List.prefix_append _ _, nofun⟩
  · rw [Audit.bind_ok hrun]
    obtain ⟨given, hgiven, hprefix, hall⟩ := hf r world'
    refine ⟨command :: given, ?_, List.cons_prefix_cons.mpr ⟨rfl, hprefix⟩, fun a ha => ?_⟩
    · rw [hgiven, hcalls, List.map_cons, List.append_assoc]
      rfl
    · rw [hall a ha]

end Work.Issues

namespace EvidenceKind

def commands : EvidenceKind → List String
  | .interfaces => ["show interfaces description"]
  | .sessions => ["show bgp summary"]
  | .evpnSummary => ["show bgp summary", "show bgp evpn summary"]
  | .runningConfig => ["show running-config"]
  | .evpnRoutes => ["show bgp evpn"]

/-- **A collector gives its commands**, in order, and none of them after one that could not be
executed. -/
theorem fallback_issues (lab : Lab σ) (kind : EvidenceKind) (node : String) :
    Work.Issues node kind.commands (kind.fallback lab node) := by
  cases kind with
  | interfaces => exact .switch fun _ => .pure _
  | sessions => exact .switch fun _ => .pure _
  | evpnSummary => exact .switch fun _ => .switch fun _ => .pure _
  | runningConfig => exact .switch fun _ => .pure _
  | evpnRoutes => exact .switch fun _ => .pure _

end EvidenceKind

end FabricAudit
